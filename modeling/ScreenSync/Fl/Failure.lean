/-
**Aggregation when Redis fails.**

A read of the weights that fails looks like a missing model, so the mean is added to zeros; a write
that fails is not noticed, and the round's rows are deleted all the same.

* `all_or_nothing_iff` — which failures leave the two stores consistent.
* `model_forgotten` — a failed read replaces the global weights by the mean of one round.
-/

import ScreenSync.Fl.Rounds

namespace ScreenSync.Fl

open ScreenSync.Foundation

variable {Id K : Type} [DivisionRing K]

/-- The stores after an aggregation; one that raises has written nothing. -/
def afterAggregation (npy : NpyFormat K) (fails : RedisFailures)
    (order : RowOrder (FLModelUpdate Id npy.Bytes)) (state : FlState Id npy.Bytes)
    (roundNumber : Int) : FlState Id npy.Bytes :=
  match runAggregation npy fails order state roundNumber with
  | .ok (_, next) => next
  | .error _ => state

/-- The mean was added to the global weights and the round's rows are deleted, or the weights and
the rows are as they were. -/
def AllOrNothing (npy : NpyFormat K) (shape : List Nat) (state : FlState Id npy.Bytes)
    (roundNumber : Int) (next : FlState Id npy.Bytes) : Prop :=
  ((∃ sum, ((globalModel npy state.redis).getD (.zeros shape)).add
        (.averaged shape (deltasOf npy state roundNumber)) = some sum ∧
      globalModel npy next.redis = some sum) ∧
    next.updates = state.updates.filter fun row => row.roundNumber ≠ roundNumber) ∨
  (globalModel npy next.redis = globalModel npy state.redis ∧ next.updates = state.updates)

/-- The failures do no harm, for this global model and this mean. -/
def Harmless (fails : RedisFailures) (model : Option (NdArray K)) (mean : NdArray K) : Prop :=
  match model, fails.readWeights, fails.writeWeights with
  | none, _, written => written = false
  | some _, false, false => True
  -- the addition raises, or adds nothing
  | some weights, false, true => weights.add mean = none ∨ weights.add mean = some weights
  | some weights, true, false => weights.add mean = some mean
  | some weights, true, true => weights.add mean = some weights

variable {npy : NpyFormat K} {state : FlState Id npy.Bytes} {roundNumber : Int}

/-- The rows of a quorum are really deleted. -/
theorem deleted_ne (quorum : minDevicesPerRound ≤ submissionCount state roundNumber) :
    (state.updates.filter fun row => row.roundNumber ≠ roundNumber) ≠ state.updates := by
  intro same
  have nonempty : state.ofRound roundNumber ≠ [] := by
    intro none
    rw [submissionCount, none] at quorum
    exact absurd quorum (of_decide_eq_false rfl)
  obtain ⟨row, member⟩ := List.exists_mem_of_ne_nil _ nonempty
  obtain ⟨inside, ofRound⟩ := List.mem_filter.mp member
  rw [← same] at inside
  exact absurd (of_decide_eq_true ofRound) (of_decide_eq_true (List.mem_filter.mp inside).2)

theorem globalModel_save (fails : RedisFailures) (redis : ModelKeys npy.Bytes)
    (weights : NdArray K) (roundNumber : Int) :
    globalModel npy (saveGlobalWeights npy fails redis weights roundNumber) =
      setKey fails.writeWeights (globalModel npy redis) weights := by
  unfold globalModel saveGlobalWeights setKey
  split
  · rfl
  · exact congrArg some (decode_save weights)

/-! ### What is added to what -/

section Sums

variable {fails : RedisFailures} {model : Option (NdArray K)} {mean newWeights : NdArray K}
  {shape : List Nat}

/-- An addition that raises is one to a model that was read. -/
theorem harmless_of_refused (ofShape : mean.shape = shape)
    (apart : ((getKey fails.readWeights model).getD (.zeros shape)).add mean = none) :
    Harmless fails model mean := by
  subst ofShape
  have alone := NdArray.zeros_add mean
  obtain ⟨readWeights, writeWeights, writeRound⟩ := fails
  cases model with
  | none =>
    rw [show getKey readWeights none = none from ite_self none] at apart
    cases alone.symm.trans apart
  | some weights =>
    cases readWeights with
    | true => cases alone.symm.trans apart
    | false =>
      cases writeWeights with
      | true => exact .inl apart
      | false => trivial

/-- What is stored after an addition is the sum exactly if the failures do no harm. -/
theorem stored_sum_iff (ofShape : mean.shape = shape)
    (added : ((getKey fails.readWeights model).getD (.zeros shape)).add mean = some newWeights) :
    (∃ sum, (model.getD (.zeros shape)).add mean = some sum ∧
        setKey fails.writeWeights model newWeights = some sum) ↔ Harmless fails model mean := by
  subst ofShape
  have alone := NdArray.zeros_add mean
  have equal : ∀ first second : Option (NdArray K),
      (∃ sum, first = some sum ∧ second = some sum) ↔ first = second ∧ second ≠ none := by
    intro first second
    cases first <;> cases second <;> simp [eq_comm]
  rw [equal]
  obtain ⟨readWeights, writeWeights, writeRound⟩ := fails
  cases model with
  | none =>
    rw [show getKey readWeights none = none from ite_self none, Option.getD_none, alone] at added
    cases added
    cases writeWeights with
    | true => simp [setKey, Harmless]
    | false => simp [setKey, Harmless, alone]
  | some weights =>
    cases readWeights with
    | false =>
      have sum : weights.add mean = some newWeights := added
      cases writeWeights with
      | true => simp [setKey, Harmless, sum]
      | false => simp [setKey, Harmless, sum]
    | true =>
      cases alone.symm.trans added
      cases writeWeights with
      | true => simp [setKey, Harmless]
      | false => simp [setKey, Harmless]

end Sums

/-! ### One aggregation -/

/-- **Exactly when an aggregation is all or nothing**, for any failures of Redis. -/
theorem all_or_nothing_iff (npy : NpyFormat K) (fails : RedisFailures)
    (order : RowOrder (FLModelUpdate Id npy.Bytes)) (state : FlState Id npy.Bytes)
    (roundNumber : Int) (shape : List Nat) (loadable : Loadable npy state)
    (quorum : minDevicesPerRound ≤ submissionCount state roundNumber)
    (same : ∀ a ∈ deltasOf npy state roundNumber, a.shape = shape) :
    AllOrNothing npy shape state roundNumber
        (afterAggregation npy fails order state roundNumber) ↔
      Harmless fails (globalModel npy state.redis)
        (.averaged shape (deltasOf npy state roundNumber)) := by
  have effect : AggregationEffect npy fails state roundNumber
      (runAggregation npy fails order state roundNumber) := runAggregation_effect loadable
  unfold afterAggregation
  generalize runAggregation npy fails order state roundNumber = outcome at effect
  cases effect with
  | skipped few => exact absurd quorum (not_le.mpr few)
  | mismatch _ different => exact absurd ⟨shape, same⟩ different
  | refused _ sameOther apart =>
    cases shape_unique quorum same sameOther
    exact ⟨fun _ => harmless_of_refused (NdArray.averaged_shape ..) apart, fun _ => .inr ⟨rfl, rfl⟩⟩
  | aggregated _ sameOther added =>
    cases shape_unique quorum same sameOther
    -- the rows are gone, so the weights have to be the sum
    rw [AllOrNothing, globalModel_save, or_iff_left fun both => deleted_ne quorum both.2,
      and_iff_left rfl]
    exact stored_sum_iff (NdArray.averaged_shape ..) added

/-! ### A model of one weight -/

/-- One number. -/
def one : NdArray ℚ := .ofFn [] fun _ => 1

/-- The model is one, and so are the deltas of three devices. -/
def openRound : FlState String (NpyFormat.plain ℚ).Bytes where
  updates := (run (serve (.plain ℚ)) .empty ((wholeRound one 2).take 3)).updates
  redis := ⟨some ((NpyFormat.plain ℚ).save one), some "1"⟩

theorem openRound_loadable : Loadable (.plain ℚ) openRound where
  updates := (loadable_run ((wholeRound one 2).take 3)).updates
  weights := by
    intro raw same
    cases same
    rfl

theorem openRound_shapes : ∀ a ∈ deltasOf (.plain ℚ) openRound 2, a.shape = [] := by
  intro a member
  rcases member with _ | ⟨_, _ | ⟨_, _ | ⟨_, none⟩⟩⟩
  · rfl
  · rfl
  · rfl
  · cases none

theorem all_or_nothing_iff_openRound :
    AllOrNothing (.plain ℚ) [] openRound 2
        (afterAggregation (.plain ℚ) .none .asStored openRound 2) ↔
      Harmless .none (globalModel (.plain ℚ) openRound.redis)
        (.averaged [] (deltasOf (.plain ℚ) openRound 2)) :=
  all_or_nothing_iff (.plain ℚ) .none .asStored openRound 2 [] openRound_loadable (by decide)
    openRound_shapes

/-- The weights are one, the read fails, and the mean of the round, one again, is stored in their
place. -/
theorem model_forgotten :
    ¬ AllOrNothing (.plain ℚ) [] openRound 2
      (afterAggregation (.plain ℚ) ⟨true, false, false⟩ .asStored openRound 2) := by
  have expected : (((globalModel (.plain ℚ) openRound.redis).getD (.zeros [])).add
      (.averaged [] (deltasOf (.plain ℚ) openRound 2))).map (fun sum => sum.entry []) = some 2 := by
    decide +kernel
  have found : (globalModel (.plain ℚ) (afterAggregation (.plain ℚ) ⟨true, false, false⟩ .asStored
      openRound 2).redis).map (fun model => model.entry []) = some 1 := by
    decide +kernel
  rintro (⟨⟨sum, added, stored⟩, -⟩ | ⟨-, kept⟩)
  · rw [added] at expected
    rw [stored] at found
    exact absurd (expected.symm.trans found) (by decide)
  · exact absurd (congrArg List.length kept) (by decide)

end ScreenSync.Fl
