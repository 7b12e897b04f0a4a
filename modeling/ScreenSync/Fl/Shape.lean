/-
**The shape of the global model.**

The shapes of a round's deltas are compared with each other, not with the global weights. Their mean
is added to the weights if the two shapes broadcast, and the sum has the shape they broadcast to.

* `keeps_shape_iff` — every aggregation keeps the model's shape, and refuses deltas of another one,
  exactly if no quorum of deltas has another shape that broadcasts with the model's.
* `model_reshaped` — a model of one weight becomes a model of two.
-/

import ScreenSync.Fl.Rounds

namespace ScreenSync.Fl

open ScreenSync.Foundation

variable {Id K : Type} [DivisionRing K]

/-- While there is a global model, an aggregation that succeeds leaves one of the same shape, and
a round with a delta of another shape is refused, with both stores as they were. -/
def KeepsShape (npy : NpyFormat K) (state : FlState Id npy.Bytes) (call : FlCall Id npy) : Prop :=
  ∀ roundNumber weights, call.1 = .aggregate roundNumber →
    globalModel npy state.redis = some weights →
      (IsAggregated (replyOf npy state call) →
        ∃ later, globalModel npy (serve npy state call).redis = some later ∧
          later.shape = weights.shape) ∧
      ((∃ a ∈ deltasOf npy state roundNumber, a.shape ≠ weights.shape) →
        ¬ IsAggregated (replyOf npy state call) ∧ serve npy state call = state)

/-- A quorum of deltas of one shape has the model's, or one that does not broadcast with it. -/
def ShapesFit (npy : NpyFormat K) (state : FlState Id npy.Bytes) (call : FlCall Id npy) : Prop :=
  ∀ roundNumber weights shape, call.1 = .aggregate roundNumber →
    globalModel npy state.redis = some weights →
      minDevicesPerRound ≤ submissionCount state roundNumber →
        (∀ a ∈ deltasOf npy state roundNumber, a.shape = shape) →
          shape = weights.shape ∨ NdArray.broadcastShape weights.shape shape = none

theorem keepsShape_iff {npy : NpyFormat K} {state : FlState Id npy.Bytes}
    (loadable : Loadable npy state) (call : FlCall Id npy) :
    KeepsShape npy state call ↔ ShapesFit npy state call := by
  obtain ⟨op, order⟩ := call
  constructor
  · rintro keeps roundNumber weights shape rfl found quorum same
    by_contra neither
    obtain ⟨other, fits⟩ := not_or.mp neither
    -- the deltas can be added, so the aggregation succeeds
    have proceeds : Proceeds npy state roundNumber shape := by
      refine ⟨quorum, same, fun model sameModel => ?_⟩
      cases found.symm.trans sameModel
      exact fits
    have refused := (keeps roundNumber weights rfl found).2 ?_
    · exact refused.1 ((isAggregated_iff loadable order).mpr ⟨shape, proceeds⟩)
    · obtain ⟨a, member⟩ := List.exists_mem_of_ne_nil _ (deltas_ne_nil quorum)
      exact ⟨a, member, (same a member).trans_ne other⟩
  · rintro fit roundNumber weights rfl found
    -- an aggregation that succeeds has deltas of the model's shape
    have agree : IsAggregated (replyOf npy state (.aggregate roundNumber, order)) →
        Proceeds npy state roundNumber weights.shape := by
      intro aggregated
      obtain ⟨shape, proceeds⟩ := (isAggregated_iff loadable order).mp aggregated
      rcases fit roundNumber weights shape rfl found proceeds.quorum proceeds.same with rfl | apart
      · exact proceeds
      · exact absurd apart (proceeds.fits weights found)
    constructor
    · intro aggregated
      have proceeds := agree aggregated
      obtain ⟨shape, newWeights, others, added, served⟩ := serve_of_aggregated loadable aggregated
      have one := shape_unique proceeds.quorum others.same proceeds.same
      subst one
      rw [found, Option.getD_some] at added
      have broadcast := NdArray.add_shape added
      rw [NdArray.averaged_shape, NdArray.broadcastShape_self] at broadcast
      refine ⟨newWeights, ?_, (Option.some.inj broadcast).symm⟩
      rw [served]
      exact congrArg some (decode_save newWeights)
    · rintro ⟨a, member, other⟩
      have refused : ¬ IsAggregated (replyOf npy state (.aggregate roundNumber, order)) := by
        intro aggregated
        exact other ((agree aggregated).same a member)
      exact ⟨refused, serve_of_not_aggregated loadable refused⟩

/-- **Exactly when the global model keeps its shape.** Over a run, every aggregation that succeeds
keeps the shape of the model there is, and deltas of another shape are refused, exactly if whenever
a quorum of deltas of one shape is aggregated, that is the model's shape or does not broadcast with
it. -/
theorem keeps_shape_iff (npy : NpyFormat K) (calls : List (FlCall Id npy)) :
    Meets (serve npy) (KeepsShape npy) .empty calls ↔
      Meets (serve npy) (ShapesFit npy) .empty calls :=
  meets_congr
    (fun (state : FlState Id npy.Bytes) call (loadable : Loadable npy state) =>
      loadable_serve loadable call)
    (fun _ call loadable => keepsShape_iff loadable call) loadable_empty calls

/-- A round of deltas with two entries is added to a model with one. -/
theorem model_reshaped :
    ¬ Meets (serve (.plain ℚ)) (KeepsShape (.plain ℚ)) .empty
      (wholeRound (.zeros [1]) 1 ++ wholeRound (.zeros [2]) 2) := by
  intro keeps
  have last := keeps (wholeRound (.zeros [1]) 1 ++ (wholeRound (.zeros [2]) 2).take 3)
    (.aggregate 2, .asStored) [] rfl 2 _ rfl rfl
  obtain ⟨later, found, same⟩ := last.1 trivial
  cases found
  revert same
  decide

end ScreenSync.Fl
