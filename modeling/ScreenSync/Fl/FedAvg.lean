/-
**Federated averaging, over whole runs.**

What the global weights should be is said over the history of the calls, the latest first: a
device's delta for a round is the last one it submitted since the round was last aggregated, and a
round with a quorum of devices adds the mean of their deltas, each device weighing the same.

* `Reflects` — the rows are the deltas the history says, one for each device and round, and the
  stored weights are `fedAvg` of the history.
* `fedavg_run` — this holds after every run, in whatever order the database returns its rows.
-/

import ScreenSync.Fl.Rounds

namespace ScreenSync.Fl

open ScreenSync.Foundation ScreenSync.Shared

variable {Id K : Type} [DivisionRing K]

/-! ### What a history says -/

/-- The devices of a history's submissions. -/
def devicesOf : List (FlOp Id K) → Finset DeviceId
  | [] => ∅
  | .store call :: past => insert call.deviceId (devicesOf past)
  | .aggregate _ :: past => devicesOf past

/-- The last delta that a device submitted for a round since the round was last aggregated, which
takes a quorum of devices with such a delta. The latest call comes first. -/
def lastDelta : List (FlOp Id K) → Int → DeviceId → Option (NdArray K)
  | [], _, _ => none
  | .store call :: past, roundNumber, device =>
    if call.deviceId = device ∧ call.roundNumber = roundNumber then some call.gradientDelta
    else lastDelta past roundNumber device
  | .aggregate other :: past, roundNumber, device =>
    if other = roundNumber ∧ minDevicesPerRound ≤
        ((devicesOf past).filter fun d => (lastDelta past roundNumber d).isSome).card then none
    else lastDelta past roundNumber device

/-- The devices with a delta for a round. -/
def contributors (past : List (FlOp Id K)) (roundNumber : Int) : Finset DeviceId :=
  (devicesOf past).filter fun device => (lastDelta past roundNumber device).isSome

/-- The mean over the devices, each weighing the same. -/
def deviceMean (shape : List Nat) (past : List (FlOp Id K)) (roundNumber : Int) : NdArray K :=
  .ofFn shape fun index =>
    (∑ device ∈ contributors past roundNumber,
      ((lastDelta past roundNumber device).getD (.zeros shape)).entry index) /
        ((contributors past roundNumber).card : K)

/-- The means of the aggregations that found a quorum. -/
def means (shape : List Nat) : List (FlOp Id K) → List (NdArray K)
  | [] => []
  | .store _ :: past => means shape past
  | .aggregate roundNumber :: past =>
    if minDevicesPerRound ≤ (contributors past roundNumber).card then
      deviceMean shape past roundNumber :: means shape past
    else means shape past

/-- The zero array plus all means, if there is one. -/
def fedAvg (shape : List Nat) (past : List (FlOp Id K)) : Option (NdArray K) :=
  if means shape past = [] then none
  else
    some (.ofFn shape fun index =>
      (NdArray.zeros shape : NdArray K).entry index +
        ((means shape past).map fun mean => mean.entry index).sum)

theorem lastDelta_device {past : List (FlOp Id K)} {roundNumber : Int} {device : DeviceId}
    {a : NdArray K} (found : lastDelta past roundNumber device = some a) :
    device ∈ devicesOf past := by
  induction past with
  | nil => cases found
  | cons op past ih =>
    cases op with
    | store call =>
      rw [lastDelta] at found
      split at found
      · rename_i same
        exact Finset.mem_insert.mpr (.inl same.1.symm)
      · exact Finset.mem_insert_of_mem (ih found)
    | aggregate other =>
      rw [lastDelta] at found
      split at found
      · cases found
      · exact ih found

theorem mem_contributors {past : List (FlOp Id K)} {roundNumber : Int} {device : DeviceId} :
    device ∈ contributors past roundNumber ↔ ∃ a, lastDelta past roundNumber device = some a := by
  rw [contributors, Finset.mem_filter, Option.isSome_iff_exists]
  refine and_iff_right_of_imp ?_
  rintro ⟨a, found⟩
  exact lastDelta_device found

/-- A new submission is the device's delta for the round, and touches nothing else. -/
theorem lastDelta_store (call : StoreCall Id K) (past : List (FlOp Id K)) (roundNumber : Int)
    (device : DeviceId) : lastDelta (.store call :: past) roundNumber device =
      if call.deviceId = device ∧ call.roundNumber = roundNumber then some call.gradientDelta
      else lastDelta past roundNumber device := rfl

/-- An aggregation with a quorum takes the deltas of its round. -/
theorem lastDelta_aggregate (other : Int) (past : List (FlOp Id K)) (roundNumber : Int)
    (device : DeviceId) : lastDelta (.aggregate other :: past) roundNumber device =
      if other = roundNumber ∧ minDevicesPerRound ≤ (contributors past roundNumber).card then none
      else lastDelta past roundNumber device := rfl

/-- All submissions are of one shape. -/
def OfShape (shape : List Nat) (op : FlOp Id K) : Prop :=
  match op with
  | .store call => call.gradientDelta.shape = shape
  | .aggregate _ => True

theorem lastDelta_shape {shape : List Nat} {past : List (FlOp Id K)}
    (fixed : ∀ op ∈ past, OfShape shape op) {roundNumber : Int} {device : DeviceId} {a : NdArray K}
    (found : lastDelta past roundNumber device = some a) : a.shape = shape := by
  induction past with
  | nil => cases found
  | cons op past ih =>
    obtain ⟨head, tail⟩ := List.forall_mem_cons.mp fixed
    cases op with
    | store call =>
      rw [lastDelta_store] at found
      split at found
      · cases found
        exact head
      · exact ih tail found
    | aggregate other =>
      rw [lastDelta_aggregate] at found
      split at found
      · cases found
      · exact ih tail found

theorem fedAvg_shape {shape : List Nat} {past : List (FlOp Id K)} {weights : NdArray K}
    (found : fedAvg shape past = some weights) : weights.shape = shape := by
  unfold fedAvg at found
  split at found
  · cases found
  · cases found
    rfl

/-- The zero array plus all means, also if there is none. -/
theorem fedAvg_getD (shape : List Nat) (past : List (FlOp Id K)) :
    (fedAvg shape past).getD (.zeros shape) = .ofFn shape fun index =>
      (NdArray.zeros shape : NdArray K).entry index +
        ((means shape past).map fun mean => mean.entry index).sum := by
  unfold fedAvg
  split
  · rename_i none
    rw [none]
    refine NdArray.eq_ofFn rfl fun index _ => ?_
    simp
  · rfl

/-- **An aggregation with a quorum** adds the mean over the devices. -/
theorem fedAvg_aggregate {shape : List Nat} {past : List (FlOp Id K)} {roundNumber : Int}
    (quorum : minDevicesPerRound ≤ (contributors past roundNumber).card) :
    ((fedAvg shape past).getD (.zeros shape)).add (deviceMean shape past roundNumber) =
      fedAvg shape (.aggregate roundNumber :: past) := by
  have means : means shape (.aggregate roundNumber :: past) =
      deviceMean shape past roundNumber :: means shape past := if_pos quorum
  have ofShape : (deviceMean shape past roundNumber).shape = shape := rfl
  rw [fedAvg_getD, NdArray.add_of_shape_eq (NdArray.ofFn_shape ..) ofShape, fedAvg, means,
    if_neg (List.cons_ne_nil _ _)]
  refine congrArg some (NdArray.ofFn_congr fun index inside => ?_)
  rw [NdArray.ofFn_entry inside, List.map_cons, List.sum_cons, add_assoc,
    add_comm (deviceMean shape past roundNumber |>.entry index)]

theorem fedAvg_skip {shape : List Nat} {past : List (FlOp Id K)} {roundNumber : Int}
    (few : ¬ minDevicesPerRound ≤ (contributors past roundNumber).card) :
    fedAvg shape (.aggregate roundNumber :: past) = fedAvg shape past := by
  have same : means shape (.aggregate roundNumber :: past) = means shape past := if_neg few
  unfold fedAvg
  rw [same]

/-! ### What the stores reflect -/

section Reflects

variable {npy : NpyFormat K} {shape : List Nat} {past : List (FlOp Id K)}
  {state : FlState Id npy.Bytes} {roundNumber : Int}

/-- The stores are what the history says. -/
structure Reflects (npy : NpyFormat K) (shape : List Nat) (past : List (FlOp Id K))
    (state : FlState Id npy.Bytes) : Prop where
  loadable : Loadable npy state
  distinct : (state.updates.map FLModelUpdate.pair).Nodup
  latest : ∀ row ∈ state.updates,
    lastDelta past row.roundNumber row.deviceId = some (decode npy row.gradientDelta)
  present : ∀ roundNumber device a, lastDelta past roundNumber device = some a →
    ∃ row ∈ state.updates, row.pair = (device, roundNumber)
  model : globalModel npy state.redis = fedAvg shape past

theorem reflects_start : Reflects npy shape [] (.empty : FlState Id npy.Bytes) where
  loadable := loadable_empty
  distinct := List.nodup_nil
  latest := nofun
  present := nofun
  model := rfl

/-- The devices with a row for a round are those with a delta for it. -/
theorem Reflects.devices (reflects : Reflects npy shape past state) (roundNumber : Int) :
    ((state.ofRound roundNumber).map FLModelUpdate.deviceId).Nodup ∧
      ((state.ofRound roundNumber).map FLModelUpdate.deviceId).toFinset =
        contributors past roundNumber := by
  constructor
  · exact ofRound_devices_nodup reflects.distinct roundNumber
  · ext device
    rw [List.mem_toFinset, List.mem_map, mem_contributors]
    constructor
    · rintro ⟨row, member, rfl⟩
      obtain ⟨inside, ofRound⟩ := List.mem_filter.mp member
      rw [← of_decide_eq_true ofRound]
      exact ⟨_, reflects.latest row inside⟩
    · rintro ⟨a, found⟩
      obtain ⟨row, inside, same⟩ := reflects.present roundNumber device a found
      obtain ⟨sameDevice, sameRound⟩ := Prod.mk.inj same
      exact ⟨row, List.mem_filter.mpr ⟨inside, decide_eq_true sameRound⟩, sameDevice⟩

theorem Reflects.count (reflects : Reflects npy shape past state) (roundNumber : Int) :
    submissionCount state roundNumber = (contributors past roundNumber).card := by
  obtain ⟨distinct, devices⟩ := reflects.devices roundNumber
  rw [← devices, List.toFinset_card_of_nodup distinct, List.length_map]
  rfl

/-- **The mean of the rows is the mean over the devices.** -/
theorem Reflects.mean (reflects : Reflects npy shape past state) (roundNumber : Int) :
    NdArray.averaged shape (deltasOf npy state roundNumber) =
      deviceMean shape past roundNumber := by
  obtain ⟨distinct, devices⟩ := reflects.devices roundNumber
  refine NdArray.ofFn_congr fun index _ => ?_
  rw [deltasOf_length, reflects.count]
  refine congrArg (· / _) ?_
  rw [← devices, List.sum_toFinset _ distinct, deltasOf, List.map_map, List.map_map]
  refine congrArg List.sum (List.map_congr_left fun row member => ?_)
  obtain ⟨inside, ofRound⟩ := List.mem_filter.mp member
  rw [Function.comp_apply, Function.comp_apply, ← of_decide_eq_true ofRound,
    reflects.latest row inside]
  rfl

theorem Reflects.ofShape (reflects : Reflects npy shape past state)
    (fixed : ∀ op ∈ past, OfShape shape op) (roundNumber : Int) :
    ∀ a ∈ deltasOf npy state roundNumber, a.shape = shape := by
  intro a member
  obtain ⟨row, inside, rfl⟩ := List.mem_map.mp member
  exact lastDelta_shape fixed (reflects.latest row (List.mem_of_mem_filter inside))

/-- A round goes ahead exactly if it has a quorum of devices. -/
theorem Reflects.proceeds_iff (reflects : Reflects npy shape past state)
    (fixed : ∀ op ∈ past, OfShape shape op) (roundNumber : Int) :
    (∃ other, Proceeds npy state roundNumber other) ↔
      minDevicesPerRound ≤ (contributors past roundNumber).card := by
  constructor
  · rintro ⟨other, proceeds⟩
    rw [← reflects.count]
    exact proceeds.quorum
  · intro quorum
    refine ⟨shape, reflects.count roundNumber ▸ quorum, reflects.ofShape fixed roundNumber, ?_⟩
    intro weights found
    rw [reflects.model] at found
    rw [fedAvg_shape found, NdArray.broadcastShape_self]
    exact Option.some_ne_none shape

/-! ### One call -/

/-- **A submission** replaces the device's row for the round. -/
theorem Reflects.stored (reflects : Reflects npy shape past state) (call : StoreCall Id K) :
    Reflects npy shape (.store call :: past)
      { state with updates := upsert state.updates (call.update npy) } := by
  have others : ∀ row ∈ state.updates.filter fun row =>
      ¬ (row.deviceId = call.deviceId ∧ row.roundNumber = call.roundNumber),
      row ∈ state.updates ∧
        ¬ (call.deviceId = row.deviceId ∧ call.roundNumber = row.roundNumber) := by
    intro row member
    obtain ⟨inside, other⟩ := List.mem_filter.mp member
    exact ⟨inside, fun same => of_decide_eq_true other ⟨same.1.symm, same.2.symm⟩⟩
  refine
    { loadable := ⟨fun row member => ?_, reflects.loadable.weights⟩
      distinct := ?_
      latest := fun row member => ?_
      present := fun roundNumber device a found => ?_
      model := reflects.model }
  · rcases List.mem_append.mp member with old | new
    · exact reflects.loadable.updates row (others row old).1
    · rw [List.mem_singleton.mp new]
      show deserialise npy (npy.save call.gradientDelta) = .ok (decode npy (npy.save _))
      rw [deserialise_save, decode_save]
  · show ((List.filter _ _ ++ [_]).map FLModelUpdate.pair).Nodup
    rw [List.map_append, List.map_singleton, List.nodup_append]
    refine ⟨reflects.distinct.sublist (List.filter_sublist.map _), List.nodup_singleton _, ?_⟩
    rintro pair member other single rfl
    obtain ⟨row, inside, same⟩ := List.mem_map.mp member
    rw [List.mem_singleton.mp single] at same
    obtain ⟨sameDevice, sameRound⟩ := Prod.mk.inj same
    exact (others row inside).2 ⟨sameDevice.symm, sameRound.symm⟩
  · rw [lastDelta_store]
    rcases List.mem_append.mp member with old | new
    · rw [if_neg (others row old).2]
      exact reflects.latest row (others row old).1
    · rw [List.mem_singleton.mp new, if_pos ⟨rfl, rfl⟩]
      exact congrArg some (decode_save call.gradientDelta).symm
  · rw [lastDelta_store] at found
    split at found
    · rename_i same
      exact ⟨call.update npy, List.mem_append_right _ (List.mem_singleton_self _),
        Prod.ext same.1 same.2⟩
    · rename_i other
      obtain ⟨row, inside, same⟩ := reflects.present roundNumber device a found
      obtain ⟨rfl, rfl⟩ := Prod.mk.inj same
      refine ⟨row, List.mem_append_left _ (List.mem_filter.mpr ⟨inside, decide_eq_true ?_⟩), rfl⟩
      exact fun both => other ⟨both.1.symm, both.2.symm⟩

/-- **An aggregation that succeeds** takes the round's rows and adds their mean. -/
theorem Reflects.aggregated (reflects : Reflects npy shape past state)
    (quorum : minDevicesPerRound ≤ (contributors past roundNumber).card) {newWeights : NdArray K}
    (added : ((globalModel npy state.redis).getD (.zeros shape)).add
      (.averaged shape (deltasOf npy state roundNumber)) = some newWeights) :
    Reflects npy shape (.aggregate roundNumber :: past)
      { updates := state.updates.filter fun row => row.roundNumber ≠ roundNumber
        redis := ⟨some (npy.save newWeights), some roundNumber.repr⟩ } := by
  have others : ∀ row ∈ state.updates.filter fun row => row.roundNumber ≠ roundNumber,
      row ∈ state.updates ∧ roundNumber ≠ row.roundNumber := by
    intro row member
    obtain ⟨inside, other⟩ := List.mem_filter.mp member
    exact ⟨inside, (of_decide_eq_true other).symm⟩
  refine
    { loadable := ⟨fun row member => reflects.loadable.updates row (others row member).1, ?_⟩
      distinct := reflects.distinct.sublist (List.filter_sublist.map _)
      latest := fun row member => ?_
      present := fun other device a found => ?_
      model := ?_ }
  · intro raw same
    cases same
    rw [deserialise_save, decode_save]
  · rw [lastDelta_aggregate, if_neg fun both => (others row member).2 both.1]
    exact reflects.latest row (others row member).1
  · rw [lastDelta_aggregate] at found
    split at found
    · cases found
    · rename_i apart
      obtain ⟨row, inside, same⟩ := reflects.present other device a found
      obtain ⟨-, rfl⟩ := Prod.mk.inj same
      refine ⟨row, List.mem_filter.mpr ⟨inside, decide_eq_true ?_⟩, same⟩
      rintro rfl
      exact apart ⟨rfl, quorum⟩
  · rw [← fedAvg_aggregate quorum, ← reflects.model, ← reflects.mean, added]
    exact congrArg some (decode_save newWeights)

/-- **One call keeps the stores what the history says.** -/
theorem Reflects.serve (reflects : Reflects npy shape past state)
    (fixed : ∀ op ∈ past, OfShape shape op) (call : FlCall Id npy) :
    Reflects npy shape (call.1 :: past) (serve npy state call) := by
  obtain ⟨op, order⟩ := call
  cases op with
  | store call => exact reflects.stored call
  | aggregate roundNumber =>
    have succeeds := (isAggregated_iff reflects.loadable order).trans
      (reflects.proceeds_iff fixed roundNumber)
    by_cases aggregated : IsAggregated (replyOf npy state (.aggregate roundNumber, order))
    · obtain ⟨other, newWeights, proceeds, added, served⟩ :=
        serve_of_aggregated reflects.loadable aggregated
      have one := shape_unique proceeds.quorum proceeds.same (reflects.ofShape fixed roundNumber)
      rw [one] at added
      rw [served]
      exact reflects.aggregated (succeeds.mp aggregated) added
    · have few : ¬ minDevicesPerRound ≤ (contributors past roundNumber).card :=
        fun quorum => aggregated (succeeds.mpr quorum)
      rw [serve_of_not_aggregated reflects.loadable aggregated]
      refine
        { loadable := reflects.loadable
          distinct := reflects.distinct
          latest := fun row member => ?_
          present := fun other device a found => ?_
          model := reflects.model.trans (fedAvg_skip few).symm }
      · rw [lastDelta_aggregate, if_neg ?_]
        · exact reflects.latest row member
        · rintro ⟨rfl, quorum⟩
          exact few quorum
      · rw [lastDelta_aggregate] at found
        split at found
        · cases found
        · exact reflects.present other device a found

end Reflects

/-! ### Whole runs -/

/-- The history of some calls, the latest first. The order of the rows is not a part of it. -/
def historyOf {npy : NpyFormat K} (calls : List (FlCall Id npy)) : List (FlOp Id K) :=
  (calls.map Prod.fst).reverse

theorem reflects_run (npy : NpyFormat K) (shape : List Nat) (calls : List (FlCall Id npy))
    (fixed : ∀ call ∈ calls, OfShape shape call.1) :
    Reflects npy shape (historyOf calls) (run (serve npy) .empty calls) := by
  induction calls using List.reverseRecOn with
  | nil => exact reflects_start
  | append_singleton before call ih =>
    obtain ⟨earlier, -⟩ := List.forall_mem_append.mp fixed
    have past : ∀ op ∈ historyOf before, OfShape shape op := by
      intro op member
      obtain ⟨mine, inside, rfl⟩ := List.mem_map.mp (List.mem_reverse.mp member)
      exact earlier mine inside
    have history : historyOf (before ++ [call]) = call.1 :: historyOf before := by
      rw [historyOf, List.map_append, List.reverse_append]
      rfl
    rw [run_concat, history]
    exact (ih earlier).serve past call

/-- **FedAvg over whole runs.** With all deltas of one shape, the global weights are after every run
the zero array plus the mean over devices of their last deltas, for every aggregation that found a
quorum; these are the ones that return `aggregated`, and the others change nothing. The history does
not say in which order the rows were returned, so the weights do not depend on it. -/
theorem fedavg_run (npy : NpyFormat K) (shape : List Nat) (calls : List (FlCall Id npy))
    (fixed : ∀ call ∈ calls, OfShape shape call.1) :
    globalModel npy (run (serve npy) .empty calls).redis = fedAvg shape (historyOf calls) ∧
      (∀ before after roundNumber order,
        calls = before ++ (.aggregate roundNumber, order) :: after →
          (IsAggregated
              (replyOf npy (run (serve npy) .empty before) (.aggregate roundNumber, order)) ↔
            minDevicesPerRound ≤ (contributors (historyOf before) roundNumber).card) ∧
          ((contributors (historyOf before) roundNumber).card < minDevicesPerRound →
            run (serve npy) .empty (before ++ [(.aggregate roundNumber, order)]) =
              run (serve npy) .empty before)) ∧
      ∀ others : List (FlCall Id npy), others.map Prod.fst = calls.map Prod.fst →
        globalModel npy (run (serve npy) .empty others).redis =
          globalModel npy (run (serve npy) .empty calls).redis := by
  have past : ∀ part : List (FlCall Id npy), (∀ call ∈ part, OfShape shape call.1) →
      ∀ op ∈ historyOf part, OfShape shape op := by
    intro part ofShape op member
    obtain ⟨mine, inside, rfl⟩ := List.mem_map.mp (List.mem_reverse.mp member)
    exact ofShape mine inside
  have model := (reflects_run npy shape calls fixed).model
  refine ⟨model, ?_, fun others same => ?_⟩
  · rintro before after roundNumber order rfl
    obtain ⟨earlier, -⟩ := List.forall_mem_append.mp fixed
    have reflects := reflects_run npy shape before earlier
    have succeeds := (isAggregated_iff reflects.loadable order).trans
      (reflects.proceeds_iff (past before earlier) roundNumber)
    refine ⟨succeeds, fun few => ?_⟩
    rw [run_concat]
    exact serve_of_not_aggregated reflects.loadable fun aggregated =>
      absurd (succeeds.mp aggregated) (not_le.mpr few)
  · have alike : ∀ call ∈ others, OfShape shape call.1 := by
      intro call member
      have op : call.1 ∈ calls.map Prod.fst := same ▸ List.mem_map_of_mem member
      obtain ⟨mine, inside, equal⟩ := List.mem_map.mp op
      rw [← equal]
      exact fixed mine inside
    rw [model, (reflects_run npy shape others alike).model, historyOf, historyOf, same]

/-- Two weights, both moved by as much. -/
def moved (step : ℚ) : NdArray ℚ := .ofFn [2] fun _ => step

/-- Three devices submit a delta each, no two alike, and the phone a second one. A fourth device
submits after the aggregation, and alone is no quorum for another one. -/
def unlikeDevices : List (FlCall String (.plain ℚ)) :=
  [submit "tablet" (moved 1) 1, submit "phone" (moved 2) 1, submit "laptop" (moved 4) 1,
    submit "phone" (moved 5) 1, (.aggregate 1, .asStored), submit "watch" (moved 3) 1,
    (.aggregate 1, .asStored)]

theorem fedavg_run_unlikeDevices :
    globalModel (.plain ℚ) (run (serve (.plain ℚ)) .empty unlikeDevices).redis =
      fedAvg [2] (historyOf unlikeDevices) :=
  (fedavg_run (.plain ℚ) [2] unlikeDevices
    (by simp [unlikeDevices, moved, submit, OfShape])).1

end ScreenSync.Fl
