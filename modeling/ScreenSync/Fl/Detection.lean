/-
**What a drift detection returns.**

Of every device the detection keeps the last delta that can be loaded (`latestDelta`); one that
cannot is passed over. The deltas are then stacked, and arrays of different shapes cannot be.

* `mem_deviceDeltas` — the dictionary of the deltas, read off the rows.
* `runDriftDetection_reports` — deltas of one shape: each is evaluated against their mean.
* `detection_returns_iff` — a detection returns exactly if the deltas it keeps have one shape.
-/

import ScreenSync.Fl.Drift

namespace ScreenSync.Fl

open ScreenSync.Foundation ScreenSync.Shared

/-! ### The deltas of the devices -/

section Deltas

variable {Id K : Type} [Field K] (npy : NpyFormat K)

/-- The last delta of a device that can be loaded. -/
def latestDelta (rows : List (FLModelUpdate Id npy.Bytes)) (device : DeviceId) :
    Option (NdArray K) :=
  ((rows.filter fun row => row.deviceId = device).filterMap fun row =>
    npy.load row.gradientDelta).getLast?

variable {npy} {rows : List (FLModelUpdate Id npy.Bytes)}

theorem deviceDeltas_concat (rows : List (FLModelUpdate Id npy.Bytes))
    (row : FLModelUpdate Id npy.Bytes) :
    deviceDeltas npy (rows ++ [row]) =
      match npy.load row.gradientDelta with
      | some delta => (deviceDeltas npy rows).set row.deviceId delta
      | none => deviceDeltas npy rows := by
  rw [deviceDeltas, List.foldl_append, List.foldl_cons, List.foldl_nil, deserialise]
  cases npy.load row.gradientDelta <;> rfl

theorem deviceDeltas_distinct (rows : List (FLModelUpdate Id npy.Bytes)) :
    ((deviceDeltas npy rows).map Prod.fst).Nodup := by
  induction rows using List.reverseRecOn with
  | nil => exact List.nodup_nil
  | append_singleton rows row ih =>
    rw [deviceDeltas_concat]
    split
    · exact Dict.nodup_set ih ..
    · exact ih

theorem deviceDeltas_get (rows : List (FLModelUpdate Id npy.Bytes)) (device : DeviceId) :
    (deviceDeltas npy rows).get device = latestDelta npy rows device := by
  induction rows using List.reverseRecOn with
  | nil => rfl
  | append_singleton rows row ih =>
    rw [deviceDeltas_concat, latestDelta, List.filter_append, List.filterMap_append]
    cases loaded : npy.load row.gradientDelta with
    | none =>
      have nothing : ([row].filter fun row => row.deviceId = device).filterMap
          (fun row => npy.load row.gradientDelta) = [] := by
        by_cases own : row.deviceId = device
        · simp [own, loaded]
        · simp [own]
      rw [nothing, List.append_nil]
      exact ih
    | some delta =>
      simp only [Dict.get_set]
      by_cases own : device = row.deviceId
      · simp [own, loaded]
      · rw [if_neg own, ih, latestDelta]
        simp [Ne.symm own]

/-- **The dictionary of the deltas**: of every device the last one that can be loaded. -/
theorem mem_deviceDeltas {device : DeviceId} {a : NdArray K} :
    (device, a) ∈ deviceDeltas npy rows ↔ latestDelta npy rows device = some a := by
  rw [← deviceDeltas_get]
  exact ⟨Dict.get_of_mem (deviceDeltas_distinct rows), Dict.mem_of_get⟩

/-- A list of one element at most. -/
theorem eq_of_length_lt_two {α : Type*} {list : List α} (few : list.length < 2) {first second : α}
    (inFirst : first ∈ list) (inSecond : second ∈ list) : first = second := by
  rcases list with _ | ⟨only, _ | ⟨another, rest⟩⟩
  · cases inFirst
  · rw [List.mem_singleton.mp inFirst, List.mem_singleton.mp inSecond]
  · simp only [List.length_cons] at few
    omega

theorem rows_ne_nil (two : 2 ≤ (deviceDeltas npy rows).length) : rows ≠ [] := by
  rintro rfl
  exact absurd two (Nat.not_succ_le_zero 1)

end Deltas

/-! ### The outcome -/

section Outcome

variable {Id K : Type} [Field K] [LinearOrder K] [FloorRing K] {npy : NpyFormat K} {sqrt : K → K}
  {order : RowOrder (FLModelUpdate Id npy.Bytes)} {clock : DeviceId → UtcTime}
  {state : FlState Id npy.Bytes} {roundNumber : Int}

variable (sqrt) in
/-- The mean of the norms. -/
def meanNorm (deltas : Dict (NdArray K)) : K :=
  (deltas.map fun entry => norm sqrt entry.2.flatten).sum / (deltas.length : K)

variable (sqrt clock roundNumber) in
/-- What is reported of a device, among deltas of one shape. -/
def reportOf (shape : List Nat) (deltas : Dict (NdArray K)) (entry : DeviceId × NdArray K) :
    DeviceDriftReport K :=
  evaluateDevice sqrt entry.1 roundNumber entry.2 (.averaged shape (deltas.map Prod.snd))
    (meanNorm sqrt deltas) (clock entry.1)

variable (sqrt clock) in
/-- Fewer than two devices: nothing is compared. -/
theorem runDriftDetection_few
    (few : (deviceDeltas npy (order.arrange (state.ofRound roundNumber))).length < 2) :
    ∃ devices, runDriftDetection npy sqrt order clock state roundNumber =
      .ok (⟨roundNumber, devices, 0, []⟩, []) := by
  unfold runDriftDetection
  by_cases nothing : order.arrange (state.ofRound roundNumber) = []
  · exact ⟨0, if_pos nothing⟩
  · simp only [if_neg nothing, if_pos few]
    exact ⟨_, rfl⟩

variable (sqrt clock) in
/-- **Deltas of one shape**: every device is reported, each compared with the mean. -/
theorem runDriftDetection_reports {shape : List Nat}
    (two : 2 ≤ (deviceDeltas npy (order.arrange (state.ofRound roundNumber))).length)
    (same : ∀ entry ∈ deviceDeltas npy (order.arrange (state.ofRound roundNumber)),
      entry.2.shape = shape) :
    ∃ summary flags, runDriftDetection npy sqrt order clock state roundNumber =
        .ok (summary, flags) ∧
      summary.reports = (deviceDeltas npy (order.arrange (state.ofRound roundNumber))).map
        (reportOf sqrt clock roundNumber shape
          (deviceDeltas npy (order.arrange (state.ofRound roundNumber)))) := by
  have filled := rows_ne_nil two
  unfold runDriftDetection
  simp only [if_neg filled, if_neg (not_lt.mpr two)]
  generalize deviceDeltas npy (order.arrange (state.ofRound roundNumber)) = deltas at two same
  have nonempty : deltas.map Prod.snd ≠ [] := by
    intro none
    rw [List.map_eq_nil_iff.mp none] at two
    exact absurd two (Nat.not_succ_le_zero 1)
  obtain ⟨stacked, isStack, mean⟩ := Option.map_eq_some_iff.mp
    (NdArray.meanFirst_stack nonempty (List.forall_mem_map.mpr same))
  rw [isStack]
  simp only [mean, List.length_map]
  exact ⟨_, _, rfl, rfl⟩

/-- Deltas of different shapes cannot be stacked. -/
theorem runDriftDetection_mixed
    (two : 2 ≤ (deviceDeltas npy (order.arrange (state.ofRound roundNumber))).length)
    (mixed : ¬ ∃ shape, ∀ entry ∈ deviceDeltas npy (order.arrange (state.ofRound roundNumber)),
      entry.2.shape = shape) :
    runDriftDetection npy sqrt order clock state roundNumber =
      .error (.valueError "all input arrays must have the same shape") := by
  have filled := rows_ne_nil two
  unfold runDriftDetection
  simp only [if_neg filled, if_neg (not_lt.mpr two)]
  generalize deviceDeltas npy (order.arrange (state.ofRound roundNumber)) = deltas at two mixed
  have unstacked : NdArray.stack (deltas.map Prod.snd) = none := by
    refine NdArray.stack_eq_none fun ⟨shape, same⟩ => mixed ⟨shape, fun entry member => ?_⟩
    exact same entry.2 (List.mem_map_of_mem member)
  rw [unstacked]

/-- **A detection returns exactly if the deltas it keeps have one shape.** -/
theorem detection_returns_iff (npy : NpyFormat K) (sqrt : K → K)
    (order : RowOrder (FLModelUpdate Id npy.Bytes)) (clock : DeviceId → UtcTime)
    (state : FlState Id npy.Bytes) (roundNumber : Int) :
    (∃ summary flags, runDriftDetection npy sqrt order clock state roundNumber =
        .ok (summary, flags)) ↔
      ∀ device other a b,
        latestDelta npy (order.arrange (state.ofRound roundNumber)) device = some a →
        latestDelta npy (order.arrange (state.ofRound roundNumber)) other = some b →
        a.shape = b.shape := by
  simp only [← mem_deviceDeltas]
  refine ⟨fun returns device other a b first second => ?_, fun same => ?_⟩
  · obtain ⟨summary, flags, returned⟩ := returns
    rcases lt_or_ge (deviceDeltas npy (order.arrange (state.ofRound roundNumber))).length 2
      with few | two
    · -- there is one entry at most
      have single := eq_of_length_lt_two few first second
      rw [(Prod.mk.inj single).2]
    · by_contra apart
      rw [runDriftDetection_mixed two] at returned
      · cases returned
      · intro one
        obtain ⟨shape, same⟩ := one
        exact apart ((same _ first).trans (same _ second).symm)
  · rcases lt_or_ge (deviceDeltas npy (order.arrange (state.ofRound roundNumber))).length 2
      with few | two
    · obtain ⟨devices, returned⟩ := runDriftDetection_few sqrt clock few
      exact ⟨_, _, returned⟩
    · obtain ⟨first, member⟩ := List.exists_mem_of_length_pos (Nat.lt_of_succ_lt two)
      obtain ⟨summary, flags, returned, -⟩ := runDriftDetection_reports sqrt clock two
        fun entry inside => same entry.1 first.1 entry.2 first.2 inside member
      exact ⟨summary, flags, returned⟩

end Outcome

/-! ### One submission from each device -/

section Rounds

variable {Id K : Type} [Field K]

/-- Some rows hold one delta of each of some devices. -/
structure Holds (npy : NpyFormat K) (rows : List (FLModelUpdate Id npy.Bytes))
    (deltas : Dict (NdArray K)) : Prop where
  rows : (rows.map fun row => (row.deviceId, npy.load row.gradientDelta)).Perm
    (deltas.map fun entry => (entry.1, some entry.2))
  distinct : (deltas.map Prod.fst).Nodup

variable {npy : NpyFormat K} {rows reordered : List (FLModelUpdate Id npy.Bytes)}
  {deltas : Dict (NdArray K)}

theorem Holds.perm (holds : Holds npy rows deltas) (same : reordered.Perm rows) :
    Holds npy reordered deltas :=
  ⟨(same.map _).trans holds.rows, holds.distinct⟩

theorem Holds.latestDelta_eq (holds : Holds npy rows deltas) {device : DeviceId} {a : NdArray K} :
    latestDelta npy rows device = some a ↔ (device, a) ∈ deltas := by
  have stored : ∀ b, latestDelta npy rows device = some b → (device, b) ∈ deltas := by
    intro b last
    obtain ⟨row, member, loaded⟩ := List.mem_filterMap.mp (List.mem_of_getLast? last)
    obtain ⟨inside, own⟩ := List.mem_filter.mp member
    have listed : (device, some b) ∈ deltas.map fun entry => (entry.1, some entry.2) :=
      holds.rows.mem_iff.mp (List.mem_map.mpr ⟨row, inside,
        Prod.ext (of_decide_eq_true own) loaded⟩)
    obtain ⟨entry, there, same⟩ := List.mem_map.mp listed
    obtain ⟨rfl, value⟩ := Prod.mk.inj same
    rwa [← Option.some.inj value]
  refine ⟨stored a, fun member => ?_⟩
  obtain ⟨row, inside, same⟩ := List.mem_map.mp
    (holds.rows.mem_iff.mpr (List.mem_map_of_mem member))
  obtain ⟨own, loaded⟩ := Prod.mk.inj same
  have one : a ∈ (rows.filter fun row => row.deviceId = device).filterMap fun row =>
      npy.load row.gradientDelta :=
    List.mem_filterMap.mpr ⟨row, List.mem_filter.mpr ⟨inside, decide_eq_true own⟩, loaded⟩
  obtain ⟨b, last⟩ := Option.isSome_iff_exists.mp
    (List.getLast?_isSome.mpr (List.ne_nil_of_mem one))
  -- the device has one entry only
  have entries := List.inj_on_of_nodup_map holds.distinct member (stored b last) rfl
  rw [(Prod.mk.inj entries).2]
  exact last

/-- **The detection gathers what the rows hold.** -/
theorem Holds.deviceDeltas_perm (holds : Holds npy rows deltas) :
    (deviceDeltas npy rows).Perm deltas := by
  refine (List.perm_ext_iff_of_nodup (deviceDeltas_distinct rows).of_map
    holds.distinct.of_map).mpr fun entry => ?_
  rw [mem_deviceDeltas, holds.latestDelta_eq]

/-- A round in which each of some devices has submitted a delta. -/
def roundOf (npy : NpyFormat K) (ids : DeviceId → Id) (deltas : Dict (NdArray K))
    (roundNumber : Int) : FlState Id npy.Bytes where
  updates := deltas.map fun entry =>
    { id := ids entry.1
      deviceId := entry.1
      gradientDelta := npy.save entry.2
      roundNumber
      submittedAt := someTime 9 0 }
  redis := ⟨none, none⟩

theorem holds_roundOf (ids : DeviceId → Id) (distinct : (deltas.map Prod.fst).Nodup)
    (roundNumber : Int) :
    Holds npy ((roundOf npy ids deltas roundNumber).ofRound roundNumber) deltas := by
  refine ⟨List.Perm.of_eq ?_, distinct⟩
  have whole : (roundOf npy ids deltas roundNumber).ofRound roundNumber =
      (roundOf npy ids deltas roundNumber).updates := by
    refine List.filter_eq_self.mpr fun row member => ?_
    obtain ⟨entry, -, rfl⟩ := List.mem_map.mp member
    exact decide_eq_true rfl
  rw [whole, roundOf, List.map_map]
  refine List.map_congr_left fun entry _ => ?_
  rw [Function.comp_apply, npy.load_save]

variable [LinearOrder K] [FloorRing K] {sqrt : K → K}
  {order : RowOrder (FLModelUpdate Id npy.Bytes)} {clock : DeviceId → UtcTime}
  {state : FlState Id npy.Bytes} {roundNumber : Int}

theorem reportOf_perm {shape : List Nat} {reordered : Dict (NdArray K)}
    (same : reordered.Perm deltas) :
    reportOf sqrt clock roundNumber shape reordered =
      reportOf sqrt clock roundNumber shape deltas := by
  funext entry
  rw [reportOf, reportOf, meanNorm, meanNorm, NdArray.averaged_perm (same.map _),
    (same.map _).sum_eq, same.length_eq]

variable (sqrt order clock) in
/-- **What a round of one delta from each device is reported as**, in whatever order its rows are
returned. -/
theorem Holds.reports {shape : List Nat} (holds : Holds npy (state.ofRound roundNumber) deltas)
    (two : 2 ≤ deltas.length) (same : ∀ entry ∈ deltas, entry.2.shape = shape) :
    ∃ summary flags, runDriftDetection npy sqrt order clock state roundNumber =
        .ok (summary, flags) ∧
      summary.reports.Perm (deltas.map (reportOf sqrt clock roundNumber shape deltas)) := by
  have gathered := (holds.perm (order.perm _)).deviceDeltas_perm
  have enough : 2 ≤ (deviceDeltas npy (order.arrange (state.ofRound roundNumber))).length :=
    gathered.length_eq ▸ two
  obtain ⟨summary, flags, returned, reports⟩ := runDriftDetection_reports sqrt clock enough
    fun entry member => same entry (gathered.mem_iff.mp member)
  refine ⟨summary, flags, returned, ?_⟩
  rw [reports, reportOf_perm gathered]
  exact gathered.map _

/-- The reports of a detection that has returned. -/
theorem Holds.reports_of_returned {shape : List Nat}
    (holds : Holds npy (state.ofRound roundNumber) deltas) (two : 2 ≤ deltas.length)
    (same : ∀ entry ∈ deltas, entry.2.shape = shape) {summary : RoundDriftSummary K}
    {flags : List (DriftFlag K)}
    (returned : runDriftDetection npy sqrt order clock state roundNumber = .ok (summary, flags)) :
    summary.reports.Perm (deltas.map (reportOf sqrt clock roundNumber shape deltas)) := by
  obtain ⟨_, _, answer, reports⟩ := holds.reports sqrt order clock two same
  rw [answer] at returned
  cases returned
  exact reports

end Rounds

/-! ### A round that was refused -/

/-- The third device submits an array of another shape; the aggregation refuses the round, and
leaves it in the table. -/
def mixedRound : FlState String (NpyFormat.plain ℚ).Bytes :=
  run (serve (.plain ℚ)) .empty
    [submit "tablet" (.zeros []) 1, submit "phone" (.zeros []) 1, submit "laptop" (.zeros [1]) 1,
      (.aggregate 1, .asStored)]

/-- The detection raises. -/
theorem mixed_round_raises :
    (mixedRound.ofRound 1).length = 3 ∧
      ¬ ∃ summary flags, runDriftDetection (.plain ℚ) id .asStored (fun _ => someTime 9 0)
        mixedRound 1 = .ok (summary, flags) := by
  refine ⟨by decide +kernel, ?_⟩
  rintro ⟨summary, flags, returned⟩
  have raised : (runDriftDetection (.plain ℚ) id .asStored (fun _ => someTime 9 0)
      mixedRound 1).toOption.isSome = false := by
    decide +kernel
  rw [returned] at raised
  cases raised

end ScreenSync.Fl
