/-
**Retries of a round.**

A submission is idempotent as long as the device's row is there. Aggregation deletes the rows of its
round and remembers nothing of it, so a retry after the aggregation is a new submission. A ledger
keeps what the stores forget: which device was counted for which round.

* `stored_submitted`, `submitted_stored` — the rows are what was submitted and not yet counted.
* `counted_split` — a device that was counted had submitted before an aggregation of the round, and
  has a row only if it submitted again after it.
* `counted_once_iff` — no device is counted twice for a round exactly if no device submits for a
  round both before and after an aggregation that goes ahead, and ahead of another one.
* `counted_twice` — three devices that retry a round after its aggregation are counted again.
-/

import ScreenSync.Fl.Rounds

namespace ScreenSync.Fl

open ScreenSync.Foundation ScreenSync.Shared

section Ledger

variable {Id K : Type} [DivisionRing K] (npy : NpyFormat K)

/-! ### Which device was counted for which round -/

/-- The stores, and the device and round of every delta that went into each mean so far. -/
structure Ledger (Id Bytes : Type) where
  state : FlState Id Bytes
  means : List (List (DeviceId × Int))

/-- Before the first call. -/
def Ledger.start {Bytes : Type} : Ledger Id Bytes := ⟨.empty, []⟩

/-- One call, with the deltas it counts written down. -/
def count (now : Ledger Id npy.Bytes) (call : FlCall Id npy) : Ledger Id npy.Bytes where
  state := serve npy now.state call
  means :=
    match call.1 with
    | .store _ => now.means
    | .aggregate roundNumber =>
      if IsAggregated (replyOf npy now.state call) then
        now.means ++ [(now.state.ofRound roundNumber).map FLModelUpdate.pair]
      else now.means

/-- The number of means that a pair was counted in. -/
def Ledger.times {Bytes : Type} (now : Ledger Id Bytes) (pair : DeviceId × Int) : Nat :=
  now.means.countP fun mean => pair ∈ mean

/-- The device has a row for the round. -/
def Ledger.Stores {Bytes : Type} (now : Ledger Id Bytes) (pair : DeviceId × Int) : Prop :=
  ∃ row ∈ now.state.updates, row.pair = pair

/-- Every device and round is counted in one mean at most. -/
def CountedOnce {Bytes : Type} (now : Ledger Id Bytes) : Prop := ∀ pair, now.times pair ≤ 1

/-- The device submits a delta for the round. -/
def Submitted {npy : NpyFormat K} (calls : List (FlCall Id npy)) (pair : DeviceId × Int) : Prop :=
  ∃ submission order, (.store submission, order) ∈ calls ∧ (submission.update npy).pair = pair

/-- After these calls an aggregation of the round goes ahead. -/
def GoesAhead (calls : List (FlCall Id npy)) (roundNumber : Int) : Prop :=
  ∃ shape, Proceeds npy (run (serve npy) .empty calls) roundNumber shape

/-- Of any two aggregations of a round that go ahead, no device submits a delta for the round both
before the first one and between the two. -/
def NotRetried (calls : List (FlCall Id npy)) : Prop :=
  ∀ before first between second after roundNumber,
    calls = before ++ (.aggregate roundNumber, first) :: between ++
      (.aggregate roundNumber, second) :: after →
    GoesAhead npy before roundNumber →
    GoesAhead npy (before ++ (.aggregate roundNumber, first) :: between) roundNumber →
    ∀ device, Submitted before (device, roundNumber) → ¬ Submitted between (device, roundNumber)

/-! ### One call -/

/-- What a call does to the ledger. -/
inductive CountEffect (now : Ledger Id npy.Bytes) : FlOp Id K → Ledger Id npy.Bytes → Prop
  | stored (submission : StoreCall Id K) :
    CountEffect now (.store submission)
      { now with
        state :=
          { now.state with updates := upsert now.state.updates (submission.update npy) } }
  | counted {roundNumber : Int} (ahead : ∃ shape, Proceeds npy now.state roundNumber shape)
    (redis : ModelKeys npy.Bytes) :
    CountEffect now (.aggregate roundNumber)
      { state := ⟨now.state.updates.filter fun row => row.roundNumber ≠ roundNumber, redis⟩
        means := now.means ++ [(now.state.ofRound roundNumber).map FLModelUpdate.pair] }
  | unchanged {roundNumber : Int} (stays : ¬ ∃ shape, Proceeds npy now.state roundNumber shape) :
    CountEffect now (.aggregate roundNumber) now

variable {npy} {now : Ledger Id npy.Bytes}

/-- **Everything a call can do to the ledger.** -/
theorem count_effect (loadable : Loadable npy now.state) (call : FlCall Id npy) :
    CountEffect npy now call.1 (count npy now call) := by
  obtain ⟨op, order⟩ := call
  cases op with
  | store submission => exact .stored submission
  | aggregate roundNumber =>
    have succeeds : _ ↔ ∃ shape, Proceeds npy now.state roundNumber shape :=
      isAggregated_iff loadable order
    by_cases aggregated : IsAggregated (replyOf npy now.state (.aggregate roundNumber, order))
    · obtain ⟨shape, newWeights, -, -, next⟩ := serve_of_aggregated loadable aggregated
      have counted : count npy now (.aggregate roundNumber, order) = _ :=
        congrArg₂ Ledger.mk next (if_pos aggregated)
      rw [counted]
      exact .counted (succeeds.mp aggregated) _
    · have unchanged : count npy now (.aggregate roundNumber, order) = now :=
        congrArg₂ Ledger.mk (serve_of_not_aggregated loadable aggregated) (if_neg aggregated)
      rw [unchanged]
      exact .unchanged fun ahead => aggregated (succeeds.mpr ahead)

theorem loadable_count (loadable : Loadable npy now.state) (calls : List (FlCall Id npy)) :
    Loadable npy (run (count npy) now calls).state := by
  have kept : ∀ (now : Ledger Id npy.Bytes) call, Loadable npy now.state →
      Loadable npy (count npy now call).state := fun _ call loadable => loadable_serve loadable call
  exact run_invariant (count npy) kept loadable calls

/-- The ledger watches the stores and leaves them alone. -/
theorem count_state (now : Ledger Id npy.Bytes) (calls : List (FlCall Id npy)) :
    (run (count npy) now calls).state = run (serve npy) now.state calls := by
  induction calls generalizing now with
  | nil => rfl
  | cons call calls ih => exact ih (count npy now call)

theorem loadable_start : Loadable npy (Ledger.start : Ledger Id npy.Bytes).state := loadable_empty

theorem loadable_past (past : List (FlCall Id npy)) :
    Loadable npy (run (count npy) .start past).state := loadable_count loadable_start past

theorem goesAhead_iff (calls : List (FlCall Id npy)) (roundNumber : Int) :
    GoesAhead npy calls roundNumber ↔
      ∃ shape, Proceeds npy (run (count npy) .start calls).state roundNumber shape := by
  rw [count_state]
  rfl

/-- One more mean counts the pairs in it once more. -/
theorem times_append (state : FlState Id npy.Bytes) (means : List (List (DeviceId × Int)))
    (mean : List (DeviceId × Int)) (pair : DeviceId × Int) :
    (Ledger.mk state (means ++ [mean])).times pair =
      (Ledger.mk state means).times pair + if pair ∈ mean then 1 else 0 := by
  simp only [Ledger.times, List.countP_append, List.countP_singleton, decide_eq_true_eq]

/-- A submission stores its own pair, and keeps the others. -/
theorem stores_upsert {update : FLModelUpdate Id npy.Bytes} {pair : DeviceId × Int} :
    (Ledger.mk { now.state with updates := upsert now.state.updates update } now.means).Stores
      pair ↔ now.Stores pair ∨ update.pair = pair := by
  constructor
  · rintro ⟨row, member, same⟩
    rcases List.mem_append.mp member with old | new
    · exact .inl ⟨row, List.mem_of_mem_filter old, same⟩
    · exact .inr (List.mem_singleton.mp new ▸ same)
  · intro either
    by_cases new : update.pair = pair
    · exact ⟨update, List.mem_append_right _ (List.mem_singleton_self _), new⟩
    obtain ⟨row, member, same⟩ := either.resolve_right new
    refine ⟨row, List.mem_append_left _ (List.mem_filter.mpr ⟨member, decide_eq_true ?_⟩), same⟩
    rintro ⟨device, round⟩
    exact new (Prod.ext device.symm round.symm |>.trans same)

/-- An aggregation counts the pairs of its round that are stored. -/
theorem mem_counted {roundNumber : Int} {pair : DeviceId × Int} :
    pair ∈ (now.state.ofRound roundNumber).map FLModelUpdate.pair ↔
      now.Stores pair ∧ pair.2 = roundNumber := by
  constructor
  · intro member
    obtain ⟨row, inside, rfl⟩ := List.mem_map.mp member
    obtain ⟨stored, ofRound⟩ := List.mem_filter.mp inside
    exact ⟨⟨row, stored, rfl⟩, of_decide_eq_true ofRound⟩
  · rintro ⟨⟨row, stored, rfl⟩, ofRound⟩
    exact List.mem_map_of_mem (List.mem_filter.mpr ⟨stored, decide_eq_true ofRound⟩)

/-- An aggregation keeps the pairs of the other rounds. -/
theorem stores_others {roundNumber : Int} {redis : ModelKeys npy.Bytes}
    {means : List (List (DeviceId × Int))} {pair : DeviceId × Int} :
    (Ledger.mk ⟨now.state.updates.filter fun row => row.roundNumber ≠ roundNumber, redis⟩
      means).Stores pair ↔ now.Stores pair ∧ pair.2 ≠ roundNumber := by
  constructor
  · rintro ⟨row, member, rfl⟩
    obtain ⟨stored, other⟩ := List.mem_filter.mp member
    exact ⟨⟨row, stored, rfl⟩, of_decide_eq_true other⟩
  · rintro ⟨⟨row, stored, rfl⟩, other⟩
    exact ⟨row, List.mem_filter.mpr ⟨stored, decide_eq_true other⟩, rfl⟩

/-! ### What is stored, and what was counted -/

theorem submitted_concat {past : List (FlCall Id npy)} {call : FlCall Id npy}
    {pair : DeviceId × Int} : Submitted (past ++ [call]) pair ↔
      Submitted past pair ∨
        ∃ submission, call.1 = .store submission ∧ (submission.update npy).pair = pair := by
  constructor
  · rintro ⟨submission, order, member, same⟩
    rcases List.mem_append.mp member with earlier | last
    · exact .inl ⟨submission, order, earlier, same⟩
    · exact .inr ⟨submission, congrArg Prod.fst (List.mem_singleton.mp last).symm, same⟩
  · rintro (⟨submission, order, member, same⟩ | ⟨submission, own, same⟩)
    · exact ⟨submission, order, List.mem_append_left _ member, same⟩
    · refine ⟨submission, call.2, List.mem_append_right _ (List.mem_singleton.mpr ?_), same⟩
      rw [← own]

/-- **Every row was submitted**, if it was not there before. -/
theorem stored_submitted (loadable : Loadable npy now.state) (calls : List (FlCall Id npy))
    {pair : DeviceId × Int} (stores : (run (count npy) now calls).Stores pair) :
    now.Stores pair ∨ Submitted calls pair := by
  induction calls using List.reverseRecOn with
  | nil => exact .inl stores
  | append_singleton past call ih =>
    have effect := count_effect (loadable_count loadable past) call
    rw [run_concat] at stores
    rw [submitted_concat, ← or_assoc]
    generalize count npy (run (count npy) now past) call = next at effect stores
    generalize own : call.1 = op at effect
    cases effect with
    | stored submission =>
      rcases stores_upsert.mp stores with old | new
      · exact .inl (ih old)
      · exact .inr ⟨submission, rfl, new⟩
    | counted ahead redis => exact .inl (ih (stores_others.mp stores).1)
    | unchanged => exact .inl (ih stores)

/-- **What is submitted is stored, or has been counted once more.** -/
theorem submitted_counted (loadable : Loadable npy now.state) (calls : List (FlCall Id npy))
    (pair : DeviceId × Int) :
    now.times pair ≤ (run (count npy) now calls).times pair ∧
      (Submitted calls pair → (run (count npy) now calls).Stores pair ∨
        now.times pair < (run (count npy) now calls).times pair) := by
  induction calls using List.reverseRecOn with
  | nil => exact ⟨le_rfl, fun ⟨_, _, member, _⟩ => absurd member List.not_mem_nil⟩
  | append_singleton past call ih =>
    have effect := count_effect (loadable_count loadable past) call
    rw [run_concat, submitted_concat]
    generalize run (count npy) now past = mid at effect ih ⊢
    generalize count npy mid call = next at effect ⊢
    generalize call.1 = op at effect ⊢
    obtain ⟨grown, waiting⟩ := ih
    cases effect with
    | stored submission =>
      refine ⟨grown, fun submitted => ?_⟩
      rcases submitted with earlier | ⟨_, own, same⟩
      · exact (waiting earlier).imp_left fun stores => stores_upsert.mpr (.inl stores)
      · cases own
        exact .inl (stores_upsert.mpr (.inr same))
    | @counted roundNumber ahead redis =>
      rw [times_append, stores_others]
      refine ⟨Nat.le_add_right_of_le grown, fun submitted => ?_⟩
      rcases submitted with earlier | ⟨_, none, _⟩
      · rcases waiting earlier with stores | more
        · by_cases same : pair.2 = roundNumber
          · rw [if_pos (mem_counted.mpr ⟨stores, same⟩)]
            exact .inr (Nat.lt_succ_of_le grown)
          · exact .inl ⟨stores, same⟩
        · exact .inr (Nat.lt_add_right _ more)
      · cases none
    | unchanged =>
      refine ⟨grown, fun submitted => ?_⟩
      rcases submitted with earlier | ⟨_, none, _⟩
      · exact waiting earlier
      · cases none

/-- **A pair that was counted** had been submitted before an aggregation of its round that went
ahead, and is stored only if it was submitted again after it. -/
theorem counted_split (calls : List (FlCall Id npy)) {pair : DeviceId × Int}
    (counted : 0 < (run (count npy) .start calls).times pair) :
    ∃ before order between, calls = before ++ (.aggregate pair.2, order) :: between ∧
      GoesAhead npy before pair.2 ∧ Submitted before pair ∧
        ((run (count npy) .start calls).Stores pair → Submitted between pair) := by
  induction calls using List.reverseRecOn with
  | nil => cases counted
  | append_singleton past call ih =>
    have effect := count_effect (loadable_past past) call
    have ahead_iff := goesAhead_iff past pair.2
    have submitted : (run (count npy) .start past).Stores pair → Submitted past pair := by
      intro stores
      exact (stored_submitted loadable_start past stores).resolve_left nofun
    rw [run_concat] at counted ⊢
    generalize run (count npy) .start past = mid at effect ih ahead_iff submitted counted ⊢
    generalize count npy mid call = next at effect counted ⊢
    -- counted before this call already
    have earlier : 0 < mid.times pair →
        (next.Stores pair → mid.Stores pair ∨
          ∃ submission, call.1 = .store submission ∧ (submission.update npy).pair = pair) →
          ∃ before order between,
            past ++ [call] = before ++ (.aggregate pair.2, order) :: between ∧
              GoesAhead npy before pair.2 ∧ Submitted before pair ∧
                (next.Stores pair → Submitted between pair) := by
      intro before kept
      obtain ⟨first, order, between, rfl, ahead, submitted, again⟩ := ih before
      refine ⟨first, order, between ++ [call], by simp, ahead, submitted, fun stores => ?_⟩
      exact submitted_concat.mpr ((kept stores).imp_left again)
    obtain ⟨op, order⟩ := call
    cases effect with
    | stored submission =>
      refine earlier counted fun stores => (stores_upsert.mp stores).imp_right fun new => ?_
      exact ⟨submission, rfl, new⟩
    | @counted roundNumber ahead redis =>
      by_cases member : pair ∈ (mid.state.ofRound roundNumber).map FLModelUpdate.pair
      · obtain ⟨stores, rfl⟩ := mem_counted.mp member
        refine ⟨past, order, [], rfl, ahead_iff.mpr ahead, submitted stores, fun gone => ?_⟩
        exact absurd rfl (stores_others.mp gone).2
      · rw [times_append, if_neg member] at counted
        exact earlier counted fun stores => .inl (stores_others.mp stores).1
    | unchanged => exact earlier counted .inl

/-! ### Whole runs -/

/-- **An aggregation that goes ahead** counts once more what is stored or was counted since. -/
theorem times_aggregate {roundNumber : Int} {k : Nat} {device : DeviceId}
    (loadable : Loadable npy now.state)
    (ahead : ∃ shape, Proceeds npy now.state roundNumber shape)
    (order : RowOrder (FLModelUpdate Id npy.Bytes)) (least : k ≤ now.times (device, roundNumber))
    (waiting : now.Stores (device, roundNumber) ∨ k < now.times (device, roundNumber)) :
    k < (count npy now (.aggregate roundNumber, order)).times (device, roundNumber) := by
  have effect := count_effect loadable (.aggregate roundNumber, order)
  generalize count npy now (.aggregate roundNumber, order) = next at effect ⊢
  cases effect with
  | counted _ redis =>
    rw [times_append]
    rcases waiting with stores | more
    · rw [if_pos (mem_counted.mpr ⟨stores, rfl⟩)]
      exact Nat.lt_succ_of_le least
    · exact Nat.lt_add_right _ more
  | unchanged stays => exact absurd ahead stays

/-- A call counts no pair twice, as long as it finds no row of a device that was counted for the
round before. -/
theorem countedOnce_count (loadable : Loadable npy now.state) {call : FlCall Id npy}
    (once : CountedOnce now)
    (fresh : ∀ roundNumber device, call.1 = .aggregate roundNumber →
      (∃ shape, Proceeds npy now.state roundNumber shape) → now.Stores (device, roundNumber) →
        now.times (device, roundNumber) = 0) :
    CountedOnce (count npy now call) := by
  have effect := count_effect loadable call
  generalize count npy now call = next at effect ⊢
  generalize call.1 = op at effect fresh
  cases effect with
  | stored => exact once
  | @counted roundNumber ahead redis =>
    rintro ⟨device, other⟩
    rw [times_append]
    by_cases member : (device, other) ∈ (now.state.ofRound roundNumber).map FLModelUpdate.pair
    · obtain ⟨stores, rfl⟩ := mem_counted.mp member
      rw [if_pos member]
      exact (congrArg (· + 1) (fresh other device rfl ahead stores)).le
    · rw [if_neg member]
      exact once (device, other)
  | unchanged => exact once

/-- **Exactly when no device is counted twice for a round.** Every pair of a device and a round is
counted in one mean at most, throughout a run, exactly if no device submits a delta for a round
both before an aggregation of the round that goes ahead, and between it and another one. -/
theorem counted_once_iff (npy : NpyFormat K) (calls : List (FlCall Id npy)) :
    Throughout (count npy) CountedOnce .start calls ↔ NotRetried npy calls := by
  constructor
  · intro once before first between second after roundNumber split ahead again device early late
    have total := once (before ++ (.aggregate roundNumber, first) :: between ++
      [(.aggregate roundNumber, second)]) after (by simp [split]) (device, roundNumber)
    rw [goesAhead_iff] at ahead again
    -- counted by the first aggregation at the latest, and once more by the second one
    obtain ⟨-, waiting⟩ := submitted_counted loadable_start before (device, roundNumber)
    have counted := times_aggregate (loadable_past before) ahead first (Nat.zero_le _)
      (waiting early)
    rw [run_append, run_append, run_cons, run_cons, run_nil] at total
    rw [run_append, run_cons] at again
    have reached : Loadable npy
        (count npy (run (count npy) .start before) (.aggregate roundNumber, first)).state :=
      loadable_serve (loadable_past before) (.aggregate roundNumber, first)
    generalize count npy (run (count npy) .start before) (.aggregate roundNumber, first) = mid
      at counted total again reached
    obtain ⟨least, pending⟩ := submitted_counted reached between (device, roundNumber)
    have atLeast : 1 ≤ mid.times (device, roundNumber) := counted
    have twice := times_aggregate (loadable_count reached between) again second
      (atLeast.trans least) ((pending late).imp_right atLeast.trans_lt)
    exact absurd total (not_le.mpr twice)
  · intro fresh before after split
    induction before using List.reverseRecOn generalizing after with
    | nil => exact fun _ => Nat.zero_le 1
    | append_singleton past call ih =>
      rw [run_concat]
      refine countedOnce_count (loadable_past past) (ih (call :: after) (by simp [split])) ?_
      intro roundNumber device own ahead stores
      by_contra counted
      obtain ⟨before, order, between, rfl, first, early, late⟩ :=
        counted_split past (Nat.pos_of_ne_zero counted)
      obtain ⟨op, second⟩ := call
      cases own
      exact fresh before order between second after roundNumber (by simp [split]) first
        ((goesAhead_iff _ _).mpr ahead) device early (late stores)

end Ledger

/-- The devices retry after the round was aggregated, and are counted for it again. -/
theorem counted_twice :
    ¬ Throughout (count (.plain ℚ)) CountedOnce .start
      (wholeRound (.zeros []) 1 ++ wholeRound (.zeros []) 1) := by
  intro always
  have once := always _ [] (List.append_nil _).symm ("tablet", 1)
  revert once
  decide

end ScreenSync.Fl
