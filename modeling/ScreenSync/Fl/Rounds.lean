/-
**Rounds, over whole runs.**

Calls of `store_gradient_update` and `run_aggregation` are served one after another, and no Redis
command fails. An aggregation goes ahead if its round has a quorum of deltas of one shape that can
be added to the global weights.

* `serve_effect` — everything a call can do to the two stores.
* `isAggregated_iff` — an aggregation succeeds exactly if it can go ahead.
* `loadable_run` — what is stored can be loaded, after every run.
-/

import ScreenSync.Fl.Aggregator
import ScreenSync.Shared.Database

namespace ScreenSync.Fl

open ScreenSync.Foundation ScreenSync.Shared

/-! ### One call after another -/

/-- A call of the aggregator. -/
inductive FlOp (Id K : Type) [Zero K]
  | store (call : StoreCall Id K)
  | aggregate (roundNumber : Int)

section Serve

variable {Id K : Type} [DivisionRing K] (npy : NpyFormat K)

/-- A call, and the order in which the database returns its rows. -/
abbrev FlCall (Id : Type) (npy : NpyFormat K) : Type :=
  FlOp Id K × RowOrder (FLModelUpdate Id npy.Bytes)

/-- The stores after a call. One that raises has written nothing. -/
def serve (state : FlState Id npy.Bytes) (call : FlCall Id npy) : FlState Id npy.Bytes :=
  match call.1 with
  | .store submission => (storeGradientUpdate npy state submission).2
  | .aggregate roundNumber =>
    match runAggregation npy .none call.2 state roundNumber with
    | .ok (_, next) => next
    | .error _ => state

/-- What a call of `run_aggregation` returns, if it does not raise. -/
def replyOf (state : FlState Id npy.Bytes) (call : FlCall Id npy) : Option (AggregationReply K) :=
  match call.1 with
  | .store _ => none
  | .aggregate roundNumber =>
    match runAggregation npy .none call.2 state roundNumber with
    | .ok (reply, _) => some reply
    | .error _ => none

/-- The call returned `aggregated`. -/
def IsAggregated : Option (AggregationReply K) → Prop
  | some (.aggregated _ _ _) => True
  | _ => False

instance (reply : Option (AggregationReply K)) : Decidable (IsAggregated reply) := by
  unfold IsAggregated
  split <;> infer_instance

/-- An aggregation of the round goes ahead: a quorum of deltas of this shape, that can be added to
the global weights. -/
structure Proceeds (state : FlState Id npy.Bytes) (roundNumber : Int) (shape : List Nat) :
    Prop where
  quorum : minDevicesPerRound ≤ submissionCount state roundNumber
  same : ∀ a ∈ deltasOf npy state roundNumber, a.shape = shape
  fits : ∀ weights, globalModel npy state.redis = some weights →
    NdArray.broadcastShape weights.shape shape ≠ none

/-- What a call does, and what an aggregation returns. -/
inductive ServeEffect (state : FlState Id npy.Bytes) :
    FlOp Id K → Option (AggregationReply K) → FlState Id npy.Bytes → Prop
  | stored (submission : StoreCall Id K) :
    ServeEffect state (.store submission) none
      { state with updates := upsert state.updates (submission.update npy) }
  | counted {roundNumber : Int} {shape : List Nat} {newWeights : NdArray K}
    (proceeds : Proceeds npy state roundNumber shape)
    (added : ((globalModel npy state.redis).getD (.zeros shape)).add
      (.averaged shape (deltasOf npy state roundNumber)) = some newWeights) :
    ServeEffect state (.aggregate roundNumber)
      (some (.aggregated roundNumber (submissionCount state roundNumber) newWeights))
      { updates := state.updates.filter fun row => row.roundNumber ≠ roundNumber
        redis := ⟨some (npy.save newWeights), some roundNumber.repr⟩ }
  | unchanged {roundNumber : Int} {reply : Option (AggregationReply K)}
    (stays : ∀ shape, ¬ Proceeds npy state roundNumber shape) (refused : ¬ IsAggregated reply) :
    ServeEffect state (.aggregate roundNumber) reply state

variable {npy} {state : FlState Id npy.Bytes} {roundNumber : Int}

/-- The mean can be added to what there is exactly if the shapes broadcast. -/
theorem add_current_eq_none {shape : List Nat} {mean : NdArray K} (ofShape : mean.shape = shape) :
    ((globalModel npy state.redis).getD (.zeros shape)).add mean = none ↔
      ∃ weights, globalModel npy state.redis = some weights ∧
        NdArray.broadcastShape weights.shape shape = none := by
  subst ofShape
  cases globalModel npy state.redis with
  | none => simp [NdArray.zeros_add]
  | some weights => simp [NdArray.add_eq_none]

theorem deltas_ne_nil (quorum : minDevicesPerRound ≤ submissionCount state roundNumber) :
    deltasOf npy state roundNumber ≠ [] := by
  intro none
  rw [← deltasOf_length, none] at quorum
  exact absurd quorum (of_decide_eq_false rfl)

/-- All deltas of a quorum have one shape only. -/
theorem shape_unique (quorum : minDevicesPerRound ≤ submissionCount state roundNumber)
    {first second : List Nat} (inFirst : ∀ a ∈ deltasOf npy state roundNumber, a.shape = first)
    (inSecond : ∀ a ∈ deltasOf npy state roundNumber, a.shape = second) : first = second := by
  obtain ⟨a, member⟩ := List.exists_mem_of_ne_nil _ (deltas_ne_nil quorum)
  exact (inFirst a member).symm.trans (inSecond a member)

/-- **Everything a call can do.** -/
theorem serve_effect (loadable : Loadable npy state) (call : FlCall Id npy) :
    ServeEffect npy state call.1 (replyOf npy state call) (serve npy state call) := by
  obtain ⟨op, order⟩ := call
  cases op with
  | store submission => exact .stored submission
  | aggregate roundNumber =>
    have effect : AggregationEffect npy .none state roundNumber
        (runAggregation npy .none order state roundNumber) := runAggregation_effect loadable
    simp only [replyOf, serve]
    generalize runAggregation npy .none order state roundNumber = outcome at effect
    cases effect with
    | skipped few =>
      exact .unchanged (fun shape proceeds => absurd proceeds.quorum (not_le.mpr few)) id
    | mismatch quorum different =>
      exact .unchanged (fun shape proceeds => different ⟨shape, proceeds.same⟩) id
    | refused quorum same apart =>
      refine .unchanged (fun shape proceeds => ?_) id
      have one := shape_unique quorum proceeds.same same
      subst one
      obtain ⟨weights, found, none⟩ := (add_current_eq_none (NdArray.averaged_shape ..)).mp apart
      exact proceeds.fits weights found none
    | aggregated quorum same added =>
      refine .counted ⟨quorum, same, fun weights found none => ?_⟩ added
      have apart := (add_current_eq_none
        (NdArray.averaged_shape _ (deltasOf npy state roundNumber))).mpr ⟨weights, found, none⟩
      cases added.symm.trans apart

/-- **An aggregation succeeds** exactly if it can go ahead. -/
theorem isAggregated_iff (loadable : Loadable npy state)
    (order : RowOrder (FLModelUpdate Id npy.Bytes)) :
    IsAggregated (replyOf npy state (.aggregate roundNumber, order)) ↔
      ∃ shape, Proceeds npy state roundNumber shape := by
  have effect := serve_effect loadable (.aggregate roundNumber, order)
  generalize replyOf npy state (.aggregate roundNumber, order) = reply at effect ⊢
  generalize serve npy state (.aggregate roundNumber, order) = next at effect
  cases effect with
  | counted proceeds added => exact ⟨fun _ => ⟨_, proceeds⟩, fun _ => trivial⟩
  | unchanged stays refused =>
    constructor
    · intro aggregated
      exact absurd aggregated refused
    · rintro ⟨shape, proceeds⟩
      exact absurd proceeds (stays shape)

/-- An aggregation that does not succeed changes nothing. -/
theorem serve_of_not_aggregated (loadable : Loadable npy state)
    {order : RowOrder (FLModelUpdate Id npy.Bytes)}
    (refused : ¬ IsAggregated (replyOf npy state (.aggregate roundNumber, order))) :
    serve npy state (.aggregate roundNumber, order) = state := by
  have effect := serve_effect loadable (.aggregate roundNumber, order)
  generalize replyOf npy state (.aggregate roundNumber, order) = reply at effect refused
  generalize serve npy state (.aggregate roundNumber, order) = next at effect ⊢
  cases effect with
  | counted proceeds added => exact absurd trivial refused
  | unchanged => rfl

/-- What an aggregation that succeeds leaves behind. -/
theorem serve_of_aggregated (loadable : Loadable npy state)
    {order : RowOrder (FLModelUpdate Id npy.Bytes)}
    (aggregated : IsAggregated (replyOf npy state (.aggregate roundNumber, order))) :
    ∃ shape newWeights, Proceeds npy state roundNumber shape ∧
      ((globalModel npy state.redis).getD (.zeros shape)).add
        (.averaged shape (deltasOf npy state roundNumber)) = some newWeights ∧
      serve npy state (.aggregate roundNumber, order) =
        { updates := state.updates.filter fun row => row.roundNumber ≠ roundNumber
          redis := ⟨some (npy.save newWeights), some roundNumber.repr⟩ } := by
  have effect := serve_effect loadable (.aggregate roundNumber, order)
  generalize replyOf npy state (.aggregate roundNumber, order) = reply at effect aggregated
  generalize serve npy state (.aggregate roundNumber, order) = next at effect ⊢
  cases effect with
  | counted proceeds added => exact ⟨_, _, proceeds, added, rfl⟩
  | unchanged stays refused => exact absurd aggregated refused

/-- **What is stored can be loaded**, in every state. -/
theorem loadable_serve (loadable : Loadable npy state) (call : FlCall Id npy) :
    Loadable npy (serve npy state call) := by
  have effect := serve_effect loadable call
  generalize replyOf npy state call = reply at effect
  generalize call.1 = op at effect
  generalize serve npy state call = next at effect ⊢
  cases effect with
  | stored submission =>
    refine ⟨fun row member => ?_, loadable.weights⟩
    rcases List.mem_append.mp member with old | new
    · exact loadable.updates row (List.mem_of_mem_filter old)
    · rw [List.mem_singleton.mp new]
      show deserialise npy (npy.save submission.gradientDelta) = .ok (decode npy (npy.save _))
      rw [deserialise_save, decode_save]
  | counted proceeds added =>
    refine ⟨fun row member => loadable.updates row (List.mem_of_mem_filter member), ?_⟩
    intro raw same
    cases same
    rw [deserialise_save, decode_save]
  | unchanged => exact loadable

theorem loadable_run (calls : List (FlCall Id npy)) :
    Loadable npy (run (serve npy) .empty calls) := by
  have kept : ∀ (state : FlState Id npy.Bytes) (call : FlCall Id npy), Loadable npy state →
      Loadable npy (serve npy state call) := fun _ call loadable => loadable_serve loadable call
  exact run_invariant (serve npy) kept loadable_empty calls

end Serve

/-! ### The rows of a round -/

def FLModelUpdate.pair {Id Bytes : Type} (row : FLModelUpdate Id Bytes) : DeviceId × Int :=
  (row.deviceId, row.roundNumber)

/-- With one row for each device and round, the rows of a round are of different devices. -/
theorem ofRound_devices_nodup {Id Bytes : Type} {state : FlState Id Bytes}
    (single : (state.updates.map FLModelUpdate.pair).Nodup) (roundNumber : Int) :
    ((state.ofRound roundNumber).map FLModelUpdate.deviceId).Nodup := by
  have pairs : ((state.ofRound roundNumber).map FLModelUpdate.pair).Nodup :=
    single.sublist (List.filter_sublist.map _)
  have tagged : (state.ofRound roundNumber).map FLModelUpdate.pair =
      ((state.ofRound roundNumber).map FLModelUpdate.deviceId).map (·, roundNumber) := by
    rw [List.map_map]
    refine List.map_congr_left fun row member => ?_
    have ofRound : row.roundNumber = roundNumber := of_decide_eq_true (List.mem_filter.mp member).2
    rw [FLModelUpdate.pair, ofRound]
    rfl
  rw [tagged] at pairs
  exact pairs.of_map

/-! ### Three devices -/

/-- A device submits a delta for a round. -/
def submit (device : DeviceId) (delta : NdArray ℚ) (roundNumber : Int) : FlCall String (.plain ℚ) :=
  (.store
    { deviceId := device
      gradientDelta := delta
      roundNumber
      id := device
      now := someTime 9 0 }, .asStored)

/-- Three devices submit a delta for a round, and the round is aggregated. -/
def wholeRound (delta : NdArray ℚ) (roundNumber : Int) : List (FlCall String (.plain ℚ)) :=
  [submit "tablet" delta roundNumber, submit "phone" delta roundNumber,
    submit "laptop" delta roundNumber, (.aggregate roundNumber, .asStored)]

end ScreenSync.Fl
