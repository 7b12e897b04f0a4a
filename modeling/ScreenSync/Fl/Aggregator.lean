/-
**The gradient aggregator.**

Devices submit gradient deltas for a round, as rows of `fl_model_updates`. Aggregation adds the mean
of a round's deltas to the global weights, which are kept in Redis with the number of the round, and
deletes the round's rows. A Redis command that fails is silent: a read finds nothing, a write does
nothing.

* `runAggregation_effect` — everything an aggregation can do.
* `Loadable` — every row and the global model hold an array that can be loaded.
-/

import ScreenSync.Foundation.Clock
import ScreenSync.Foundation.NdArray
import ScreenSync.Foundation.Run
import ScreenSync.Shared.Message

namespace ScreenSync.Fl

open ScreenSync.Foundation ScreenSync.Shared

/-! ### The two stores -/

/-- A row of `fl_model_updates`, with its primary key. -/
structure FLModelUpdate (Id Bytes : Type) where
  id : Id
  deviceId : DeviceId
  gradientDelta : Bytes
  roundNumber : Int
  submittedAt : UtcTime

/-- The keys `fl:global_model:weights` and `fl:global_model:round`. A number is stored as its text.
-/
structure ModelKeys (Bytes : Type) where
  weights : Option Bytes
  round : Option String

/-- The table, its rows in the order they were inserted, and the keys in Redis. -/
structure FlState (Id Bytes : Type) where
  updates : List (FLModelUpdate Id Bytes)
  redis : ModelKeys Bytes

def FlState.empty {Id Bytes : Type} : FlState Id Bytes := ⟨[], none, none⟩

/-- Which Redis commands of an aggregation fail. -/
structure RedisFailures where
  readWeights : Bool
  writeWeights : Bool
  writeRound : Bool
  deriving DecidableEq

def RedisFailures.none : RedisFailures := ⟨false, false, false⟩

/-- The order in which a query without `ORDER BY` returns its rows. -/
structure RowOrder (ρ : Type) where
  arrange : List ρ → List ρ
  perm : ∀ rows, (arrange rows).Perm rows

def RowOrder.asStored {ρ : Type} : RowOrder ρ := ⟨id, fun _ => .refl _⟩

def minDevicesPerRound : Nat := 3

/-! ### Submission -/

/-- A call of `store_gradient_update`: its arguments, the id of the new row and the clock. -/
structure StoreCall (Id K : Type) [Zero K] where
  deviceId : DeviceId
  gradientDelta : NdArray K
  roundNumber : Int
  id : Id
  now : UtcTime

/-- What `store_gradient_update` returns. -/
structure StoreReply where
  deviceId : DeviceId
  roundNumber : Int
  submissionsSoFar : Nat
  quorumRequired : Nat
  quorumReached : Bool

section Functions

variable {Id K : Type} [DivisionRing K] (npy : NpyFormat K)

/-- The row that a call inserts. -/
def StoreCall.update (call : StoreCall Id K) : FLModelUpdate Id npy.Bytes where
  id := call.id
  deviceId := call.deviceId
  gradientDelta := npy.save call.gradientDelta
  roundNumber := call.roundNumber
  submittedAt := call.now

/-- The rows of a round. -/
def FlState.ofRound {Bytes : Type} (state : FlState Id Bytes) (roundNumber : Int) :
    List (FLModelUpdate Id Bytes) :=
  state.updates.filter fun row => row.roundNumber = roundNumber

/-- `_submission_count`. -/
def submissionCount {Bytes : Type} (state : FlState Id Bytes) (roundNumber : Int) : Nat :=
  (state.ofRound roundNumber).length

/-- The reply with a number of submissions. -/
def storeReply (call : StoreCall Id K) (count : Nat) : StoreReply where
  deviceId := call.deviceId
  roundNumber := call.roundNumber
  submissionsSoFar := count
  quorumRequired := minDevicesPerRound
  quorumReached := minDevicesPerRound ≤ count

/-- Delete the existing submission of a device for a round, and insert the new one. -/
def upsert {Bytes : Type} (rows : List (FLModelUpdate Id Bytes)) (update : FLModelUpdate Id Bytes) :
    List (FLModelUpdate Id Bytes) :=
  (rows.filter fun row =>
    ¬ (row.deviceId = update.deviceId ∧ row.roundNumber = update.roundNumber)) ++ [update]

/-- `store_gradient_update`. -/
def storeGradientUpdate (state : FlState Id npy.Bytes) (call : StoreCall Id K) :
    StoreReply × FlState Id npy.Bytes :=
  let next := { state with updates := upsert state.updates (call.update npy) }
  (storeReply call (submissionCount next call.roundNumber), next)

/-! ### Aggregation -/

/-- What `run_aggregation` returns. -/
inductive AggregationReply (K : Type) [Zero K]
  /-- status `skipped`, reason `below_quorum` -/
  | skipped (submissions : Nat)
  /-- status `error`, reason `gradient_shape_mismatch` -/
  | error
  /-- status `aggregated`; the array is the one whose L2 norm and shape are reported -/
  | aggregated (roundNumber : Int) (devicesIncluded : Nat) (newWeights : NdArray K)

/-- `_deserialise`. -/
def deserialise (data : npy.Bytes) : Except PyError (NdArray K) :=
  match npy.load data with
  | some a => .ok a
  | none => .error (.valueError "Cannot load file containing pickled data")

/-- `redis_client.get_raw`, `redis_client.get`: a failure is as good as a missing key. -/
def getKey {α : Type} (fails : Bool) (value : Option α) : Option α := if fails then none else value

/-- `redis_client.set_raw`, `redis_client.set`: a failure leaves the key as it was. -/
def setKey {α : Type} (fails : Bool) (old : Option α) (value : α) : Option α :=
  if fails then old else some value

/-- `_load_global_weights`. -/
def loadGlobalWeights (fails : RedisFailures) (redis : ModelKeys npy.Bytes) (shape : List Nat) :
    Except PyError (NdArray K) :=
  match getKey fails.readWeights redis.weights with
  | none => .ok (.zeros shape)
  | some raw => deserialise npy raw

/-- `_save_global_weights`. -/
def saveGlobalWeights (fails : RedisFailures) (redis : ModelKeys npy.Bytes) (weights : NdArray K)
    (roundNumber : Int) : ModelKeys npy.Bytes where
  weights := setKey fails.writeWeights redis.weights (npy.save weights)
  round := setKey fails.writeRound redis.round roundNumber.repr

/-- The equal-weight mean of the submissions, or nothing if their shapes differ. -/
def averageDeltas (submissions : List (FLModelUpdate Id npy.Bytes)) :
    Except PyError (Option (NdArray K)) := do
  let deltas ← submissions.mapM fun s => deserialise npy s.gradientDelta
  -- validate that the shapes match
  if 1 < (deltas.map NdArray.shape).dedup.length then return none
  else
    match NdArray.stack deltas with
    | some stacked => return some stacked.meanFirst
    | none => .error (.valueError "all input arrays must have the same shape")

/-- The current global weights plus the mean. -/
def addToGlobal (fails : RedisFailures) (redis : ModelKeys npy.Bytes) (averagedDelta : NdArray K) :
    Except PyError (NdArray K) := do
  let currentWeights ← loadGlobalWeights npy fails redis averagedDelta.shape
  match currentWeights.add averagedDelta with
  | some newWeights => return newWeights
  | none => .error (.valueError "operands could not be broadcast together")

/-- `run_aggregation`. -/
def runAggregation (fails : RedisFailures) (order : RowOrder (FLModelUpdate Id npy.Bytes))
    (state : FlState Id npy.Bytes) (roundNumber : Int) :
    Except PyError (AggregationReply K × FlState Id npy.Bytes) :=
  let submissions := order.arrange (state.ofRound roundNumber)
  if submissions.length < minDevicesPerRound then .ok (.skipped submissions.length, state)
  else do
    match ← averageDeltas npy submissions with
    | none => return (.error, state)
    | some averagedDelta =>
      let newWeights ← addToGlobal npy fails state.redis averagedDelta
      return (.aggregated roundNumber submissions.length newWeights,
        { updates := state.updates.filter fun row => row.roundNumber ≠ roundNumber
          redis := saveGlobalWeights npy fails state.redis newWeights roundNumber })

/-! ### The global model -/

/-- What `get_global_model_weights` returns. The bytes are sent as base64. -/
structure ModelReply (Bytes : Type) where
  roundNumber : Json
  shape : Option (List Nat)
  weights : Option Bytes

/-- `get_global_model_weights`. The text client returns the round as the text it was stored as. -/
def getGlobalModelWeights (redis : ModelKeys npy.Bytes) :
    Except PyError (ModelReply npy.Bytes) :=
  match redis.weights with
  | none => .ok { roundNumber := .int 0, shape := none, weights := none }
  | some raw => do
    let weights ← deserialise npy raw
    let roundNumber :=
      match redis.round with
      | some text => if text = "" then .int 0 else .str text
      | none => .int 0
    return { roundNumber, shape := some weights.shape, weights := some (npy.save weights) }

/-! ### What is stored can be loaded -/

/-- The array that was saved, where the bytes can be loaded. -/
def decode (data : npy.Bytes) : NdArray K := (npy.load data).getD (.zeros [])

/-- The bytes of every row and of the global model can be loaded. -/
structure Loadable (state : FlState Id npy.Bytes) : Prop where
  updates : ∀ row ∈ state.updates,
    deserialise npy row.gradientDelta = .ok (decode npy row.gradientDelta)
  weights : ∀ raw, state.redis.weights = some raw → deserialise npy raw = .ok (decode npy raw)

/-- The deltas of a round. -/
def deltasOf (state : FlState Id npy.Bytes) (roundNumber : Int) : List (NdArray K) :=
  (state.ofRound roundNumber).map fun row => decode npy row.gradientDelta

/-- The global weights, if there are any. -/
def globalModel (redis : ModelKeys npy.Bytes) : Option (NdArray K) := redis.weights.map (decode npy)

/-- What the mean is added to. -/
def currentWeights (fails : RedisFailures) (redis : ModelKeys npy.Bytes) (shape : List Nat) :
    NdArray K :=
  (getKey fails.readWeights (globalModel npy redis)).getD (.zeros shape)

end Functions

section Effect

variable {Id K : Type} [DivisionRing K] {npy : NpyFormat K} {fails : RedisFailures}
  {order : RowOrder (FLModelUpdate Id npy.Bytes)} {state : FlState Id npy.Bytes}
  {roundNumber : Int}

theorem deserialise_save (a : NdArray K) : deserialise npy (npy.save a) = .ok a := by
  rw [deserialise, npy.load_save]

@[simp] theorem decode_save (a : NdArray K) : decode npy (npy.save a) = a := by
  rw [decode, npy.load_save, Option.getD_some]

theorem loadable_empty : Loadable npy (.empty : FlState Id npy.Bytes) where
  updates := nofun
  weights := nofun

theorem mapM_deserialise {rows : List (FLModelUpdate Id npy.Bytes)}
    (loads : ∀ row ∈ rows, deserialise npy row.gradientDelta = .ok (decode npy row.gradientDelta)) :
    (rows.mapM fun s => deserialise npy s.gradientDelta) =
      .ok (rows.map fun row => decode npy row.gradientDelta) := by
  induction rows with
  | nil => rfl
  | cons row rows ih =>
    obtain ⟨head, tail⟩ := List.forall_mem_cons.mp loads
    rw [List.mapM_cons, head, ih tail]
    rfl

theorem loadGlobalWeights_eq (loadable : Loadable npy state) (shape : List Nat) :
    loadGlobalWeights npy fails state.redis shape =
      .ok (currentWeights npy fails state.redis shape) := by
  unfold loadGlobalWeights currentWeights globalModel getKey
  cases fails.readWeights with
  | true => rfl
  | false =>
    cases found : state.redis.weights with
    | none => rfl
    | some raw => exact loadable.weights raw found

theorem deltasOf_length (state : FlState Id npy.Bytes) (roundNumber : Int) :
    (deltasOf npy state roundNumber).length = submissionCount state roundNumber :=
  List.length_map _

/-- The check on the shapes passes exactly if there is one shape. -/
theorem one_shape_iff {deltas : List (NdArray K)} (nonempty : deltas ≠ []) :
    ¬ 1 < (deltas.map NdArray.shape).dedup.length ↔ ∃ shape, ∀ a ∈ deltas, a.shape = shape := by
  constructor
  · intro single
    have member : ∀ a ∈ deltas, a.shape ∈ (deltas.map NdArray.shape).dedup := fun a inside =>
      List.mem_dedup.mpr (List.mem_map_of_mem inside)
    rcases found : (deltas.map NdArray.shape).dedup with _ | ⟨shape, _ | ⟨other, rest⟩⟩
    · obtain ⟨a, inside⟩ := List.exists_mem_of_ne_nil deltas nonempty
      rw [found] at member
      exact absurd (member a inside) List.not_mem_nil
    · rw [found] at member
      exact ⟨shape, fun a inside => List.mem_singleton.mp (member a inside)⟩
    · rw [found] at single
      exact absurd (by simp) single
  · rintro ⟨shape, same⟩
    have all : deltas.map NdArray.shape = List.replicate deltas.length shape := by
      rw [List.eq_replicate_iff]
      refine ⟨List.length_map _, fun other member => ?_⟩
      obtain ⟨a, inside, rfl⟩ := List.mem_map.mp member
      exact same a inside
    rw [all, List.replicate_dedup (by simpa using nonempty)]
    exact lt_irrefl 1

/-! ### Everything an aggregation can do -/

variable (npy fails state roundNumber) in
/-- The outcome of an aggregation, and when it comes to it. -/
inductive AggregationEffect :
    Except PyError (AggregationReply K × FlState Id npy.Bytes) → Prop
  | skipped (few : submissionCount state roundNumber < minDevicesPerRound) :
    AggregationEffect (.ok (.skipped (submissionCount state roundNumber), state))
  | mismatch (quorum : minDevicesPerRound ≤ submissionCount state roundNumber)
    (different : ¬ ∃ shape, ∀ a ∈ deltasOf npy state roundNumber, a.shape = shape) :
    AggregationEffect (.ok (.error, state))
  | refused {shape : List Nat} {raised : PyError}
    (quorum : minDevicesPerRound ≤ submissionCount state roundNumber)
    (same : ∀ a ∈ deltasOf npy state roundNumber, a.shape = shape)
    (apart : (currentWeights npy fails state.redis shape).add
      (.averaged shape (deltasOf npy state roundNumber)) = none) :
    AggregationEffect (.error raised)
  | aggregated {shape : List Nat} {newWeights : NdArray K}
    (quorum : minDevicesPerRound ≤ submissionCount state roundNumber)
    (same : ∀ a ∈ deltasOf npy state roundNumber, a.shape = shape)
    (added : (currentWeights npy fails state.redis shape).add
      (.averaged shape (deltasOf npy state roundNumber)) = some newWeights) :
    AggregationEffect
      (.ok (.aggregated roundNumber (submissionCount state roundNumber) newWeights,
        { updates := state.updates.filter fun row => row.roundNumber ≠ roundNumber
          redis := saveGlobalWeights npy fails state.redis newWeights roundNumber }))

/-- **Everything an aggregation can do**, in whatever order the rows are returned. -/
theorem runAggregation_effect (loadable : Loadable npy state) :
    AggregationEffect npy fails state roundNumber
      (runAggregation npy fails order state roundNumber) := by
  have perm := order.perm (state.ofRound roundNumber)
  have count : (order.arrange (state.ofRound roundNumber)).length =
      submissionCount state roundNumber := perm.length_eq
  have deltas : ((order.arrange (state.ofRound roundNumber)).map fun row =>
      decode npy row.gradientDelta).Perm (deltasOf npy state roundNumber) := perm.map _
  have loads : ((order.arrange (state.ofRound roundNumber)).mapM fun s =>
      deserialise npy s.gradientDelta) = .ok ((order.arrange (state.ofRound roundNumber)).map
        fun row => decode npy row.gradientDelta) :=
    mapM_deserialise fun row member =>
      loadable.updates row (List.mem_of_mem_filter (perm.mem_iff.mp member))
  unfold runAggregation averageDeltas addToGlobal
  simp only [count, loads]
  by_cases few : submissionCount state roundNumber < minDevicesPerRound
  · rw [if_pos few]
    exact .skipped few
  rw [if_neg few]
  have quorum : minDevicesPerRound ≤ submissionCount state roundNumber := not_lt.mp few
  -- from here on the deltas in the order they were returned matter as a multiset only
  generalize (order.arrange (state.ofRound roundNumber)).map
    (fun row => decode npy row.gradientDelta) = arranged at deltas
  have nonempty : arranged ≠ [] := by
    rintro rfl
    have none : 0 = submissionCount state roundNumber :=
      deltas.length_eq.trans (deltasOf_length state roundNumber)
    exact few (none ▸ by decide)
  simp only [bind, Except.bind]
  by_cases different : 1 < (arranged.map NdArray.shape).dedup.length
  · rw [if_pos different]
    refine .mismatch quorum ?_
    rintro ⟨shape, same⟩
    exact (one_shape_iff nonempty).mpr ⟨shape, fun a member => same a (deltas.mem_iff.mp member)⟩
      different
  rw [if_neg different]
  obtain ⟨shape, same⟩ := (one_shape_iff nonempty).mp different
  obtain ⟨stacked, isStack, mean⟩ := Option.map_eq_some_iff.mp
    (NdArray.meanFirst_stack nonempty same)
  have sameStored : ∀ a ∈ deltasOf npy state roundNumber, a.shape = shape := fun a member =>
    same a (deltas.mem_iff.mpr member)
  rw [NdArray.averaged_perm deltas] at mean
  simp only [isStack, mean, pure, Except.pure, NdArray.averaged_shape,
    loadGlobalWeights_eq loadable]
  cases added : (currentWeights npy fails state.redis shape).add
    (.averaged shape (deltasOf npy state roundNumber)) with
  | none => exact .refused quorum sameStored added
  | some newWeights => exact .aggregated quorum sameStored added

end Effect

end ScreenSync.Fl
