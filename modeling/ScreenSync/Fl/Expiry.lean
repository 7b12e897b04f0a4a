/-
**The global model, with its lifetime.**

The two keys of the global model are written with a lifetime of seven days, each by a command of its
own, and Redis may fail any of the commands of an aggregation without notice. An aggregation that
finds no weights starts again from zeros.

* `runAggregationAt` — an aggregation by the clock.
* `expiring_fedavg` — after every run, the global weights are the zero array plus the means of the
  aggregations back from now in one chain: each was written, still there when the next one read it,
  and read. The round number is that of the last aggregation whose number is written and still
  there. Whether an aggregation goes ahead depends on its quorum alone.
* `fedavg_of_fresh` — with an aggregation in every seven days and no failure, no mean is lost.
-/

import ScreenSync.Fl.FedAvg
import ScreenSync.Fl.Version
import ScreenSync.Foundation.Expiry

namespace ScreenSync.Fl

open ScreenSync.Foundation ScreenSync.Shared

/-! ### The keys, with their deadlines -/

def modelTtlSeconds : Nat := 7 * 86400

/-- The lifetime of the keys on Redis's clock, in milliseconds. -/
def modelTtl : Nat := modelTtlSeconds * 1000

/-- The table, and the two keys of the global model with their deadlines. -/
structure TimedState (Id Bytes : Type) where
  updates : List (FLModelUpdate Id Bytes)
  weights : Option (Expiring Bytes)
  round : Option (Expiring String)

def TimedState.empty {Id Bytes : Type} : TimedState Id Bytes := ⟨[], none, none⟩

/-- What is there at a time. -/
def TimedState.at {Id Bytes : Type} (state : TimedState Id Bytes) (now : Nat) :
    FlState Id Bytes where
  updates := state.updates
  redis := ⟨seen now state.weights, seen now state.round⟩

/-- When Redis serves the commands of an aggregation: it reads the weights, and writes the weights
and the round number. -/
structure AggregationClock where
  read : Nat
  weights : Nat
  round : Nat

/-- A call of the aggregator, by the clock and with the failures of Redis. -/
inductive TimedOp (Id K : Type) [Zero K]
  | store (call : StoreCall Id K)
  | aggregate (roundNumber : Int) (clock : AggregationClock) (fails : RedisFailures)

/-- The call without the clock. -/
def TimedOp.op {Id K : Type} [Zero K] : TimedOp Id K → FlOp Id K
  | .store call => .store call
  | .aggregate roundNumber _ _ => .aggregate roundNumber

section Functions

variable {Id K : Type} [DivisionRing K] (npy : NpyFormat K)

/-- A call by the clock, and the order in which the database returns its rows. -/
abbrev TimedCall (Id : Type) (npy : NpyFormat K) : Type :=
  TimedOp Id K × RowOrder (FLModelUpdate Id npy.Bytes)

/-- `run_aggregation`, by the clock: what it finds is there when it reads, and what it writes is
there for a lifetime. -/
def runAggregationAt (clock : AggregationClock) (fails : RedisFailures)
    (order : RowOrder (FLModelUpdate Id npy.Bytes)) (state : TimedState Id npy.Bytes)
    (roundNumber : Int) : Except PyError (AggregationReply K × TimedState Id npy.Bytes) :=
  match runAggregation npy fails order (state.at clock.read) roundNumber with
  | .ok (.aggregated number devices newWeights, next) =>
    .ok (.aggregated number devices newWeights,
      { updates := next.updates
        weights :=
          setKey fails.writeWeights state.weights ⟨npy.save newWeights, clock.weights + modelTtl⟩
        round := setKey fails.writeRound state.round ⟨number.repr, clock.round + modelTtl⟩ })
  | .ok (reply, _) => .ok (reply, state)
  | .error raised => .error raised

/-- The stores after a call. One that raises has written nothing. -/
def serveAt (state : TimedState Id npy.Bytes) (call : TimedCall Id npy) :
    TimedState Id npy.Bytes :=
  match call.1 with
  | .store submission =>
    -- Redis is not asked
    let stored := (storeGradientUpdate npy ⟨state.updates, none, none⟩ submission).2
    { state with updates := stored.updates }
  | .aggregate roundNumber clock fails =>
    match runAggregationAt npy clock fails call.2 state roundNumber with
    | .ok (_, next) => next
    | .error _ => state

/-- What a call of `run_aggregation` returns, if it does not raise. -/
def replyAt (state : TimedState Id npy.Bytes) (call : TimedCall Id npy) :
    Option (AggregationReply K) :=
  match call.1 with
  | .store _ => none
  | .aggregate roundNumber clock fails =>
    match runAggregationAt npy clock fails call.2 state roundNumber with
    | .ok (reply, _) => some reply
    | .error _ => none

/-- `get_global_model_weights`, by the clock: it reads the weights and then the round number. -/
def getGlobalModelWeightsAt (state : TimedState Id npy.Bytes) (weightsAt roundAt : Nat) :
    Except PyError (ModelReply npy.Bytes) :=
  getGlobalModelWeights npy ⟨seen weightsAt state.weights, seen roundAt state.round⟩

end Functions

/-! ### What a history says -/

section History

variable {Id K : Type} [DivisionRing K]

/-- The history without the clock. -/
def untimed (past : List (TimedOp Id K)) : List (FlOp Id K) := past.map TimedOp.op

/-- How an aggregation with a quorum rewrites the weights: it adds the mean over the devices. -/
def addition (shape : List Nat) (past : List (TimedOp Id K)) (roundNumber : Int)
    (clock : AggregationClock) (fails : RedisFailures) : Rewrite (NdArray K) where
  addition := deviceMean shape (untimed past) roundNumber
  readAt := clock.read
  writeAt := clock.weights
  reads := !fails.readWeights
  writes := !fails.writeWeights

/-- How it rewrites the round number, without a look at the old one. -/
def numbering (roundNumber : Int) (clock : AggregationClock) (fails : RedisFailures) :
    Rewrite Int where
  addition := roundNumber
  readAt := clock.round
  writeAt := clock.round
  reads := false
  writes := !fails.writeRound

/-- What the aggregations that find a quorum add to the weights. The latest comes first. -/
def additions (shape : List Nat) : List (TimedOp Id K) → List (Rewrite (NdArray K))
  | [] => []
  | .store _ :: past => additions shape past
  | .aggregate roundNumber clock fails :: past =>
    if minDevicesPerRound ≤ (contributors (untimed past) roundNumber).card then
      addition shape past roundNumber clock fails :: additions shape past
    else additions shape past

/-- The round numbers that they write. -/
def numberings : List (TimedOp Id K) → List (Rewrite Int)
  | [] => []
  | .store _ :: past => numberings past
  | .aggregate roundNumber clock fails :: past =>
    if minDevicesPerRound ≤ (contributors (untimed past) roundNumber).card then
      numbering roundNumber clock fails :: numberings past
    else numberings past

/-- The weights, or zeros, plus a mean. -/
def addMean (shape : List Nat) (weights : Option (NdArray K)) (mean : NdArray K) : NdArray K :=
  .ofFn shape fun index => (weights.getD (.zeros shape)).entry index + mean.entry index

/-- The zero array plus some means, if there is one. -/
def total (shape : List Nat) (means : List (NdArray K)) : Option (NdArray K) :=
  if means = [] then none
  else
    some (.ofFn shape fun index =>
      (NdArray.zeros shape : NdArray K).entry index +
        (means.map fun mean => mean.entry index).sum)

/-- The global weights at a time. -/
def fedAvgAt (shape : List Nat) (now : Nat) (past : List (TimedOp Id K)) : Option (NdArray K) :=
  total shape (survivors modelTtl now (additions shape past))

/-- The round number at a time. -/
def roundAt (now : Nat) (past : List (TimedOp Id K)) : Option Int :=
  (survivors modelTtl now (numberings past)).head?

/-- What `get_global_model_weights` returns for some weights and a round number. -/
def modelReply (npy : NpyFormat K) (weights : Option (NdArray K)) (roundNumber : Option Int) :
    ModelReply npy.Bytes :=
  match weights, roundNumber with
  | none, _ => { roundNumber := .int 0, shape := none, weights := none }
  | some weights, none =>
    { roundNumber := .int 0, shape := some weights.shape, weights := some (npy.save weights) }
  | some weights, some number =>
    { roundNumber := .str number.repr
      shape := some weights.shape
      weights := some (npy.save weights) }

theorem total_getD (shape : List Nat) (means : List (NdArray K)) :
    (total shape means).getD (.zeros shape) = .ofFn shape fun index =>
      (NdArray.zeros shape : NdArray K).entry index +
        (means.map fun mean => mean.entry index).sum := by
  unfold total
  split
  · rename_i none
    subst none
    refine NdArray.eq_ofFn rfl fun index _ => ?_
    simp
  · rfl

theorem total_shape {shape : List Nat} {means : List (NdArray K)} {weights : NdArray K}
    (found : total shape means = some weights) : weights.shape = shape := by
  unfold total at found
  split at found
  · cases found
  · cases found
    rfl

/-- One mean after another makes the total. -/
theorem build_means (shape : List Nat) (means : List (NdArray K)) :
    build (addMean shape) means = total shape means := by
  induction means with
  | nil => rfl
  | cons mean means ih =>
    rw [build, ih, addMean, total_getD, total, if_neg (List.cons_ne_nil _ _)]
    refine congrArg some (NdArray.ofFn_congr fun index inside => ?_)
    rw [NdArray.ofFn_entry inside, List.map_cons, List.sum_cons, add_assoc,
      add_comm (mean.entry index)]

/-- The last number is the one that is seen. -/
theorem build_numbers (numbers : List Int) :
    build (fun (_ : Option String) (number : Int) => number.repr) numbers =
      numbers.head?.map Int.repr := by
  cases numbers <;> rfl

end History

/-! ### What the stores remember -/

section Remembers

variable {Id K : Type} [DivisionRing K] {npy : NpyFormat K} {shape : List Nat}
  {past : List (TimedOp Id K)} {state : TimedState Id npy.Bytes}

/-- The weights as an array, with their deadline. -/
def TimedState.model (npy : NpyFormat K) (state : TimedState Id npy.Bytes) :
    Option (Expiring (NdArray K)) :=
  state.weights.map (Expiring.map (decode npy))

theorem TimedState.globalModel_at (now : Nat) :
    globalModel npy (state.at now).redis = seen now (state.model npy) :=
  (seen_map (decode npy) now state.weights).symm

/-- The stores hold what the history says: the rows, and at any time the two keys. -/
structure Remembers (npy : NpyFormat K) (shape : List Nat) (past : List (TimedOp Id K))
    (state : TimedState Id npy.Bytes) : Prop where
  rows : ∃ redis, Reflects npy shape (untimed past) ⟨state.updates, redis⟩
  loadable : ∀ now, Loadable npy (state.at now)
  model : ∀ now, seen now (state.model npy) =
    build (addMean shape) (survivors modelTtl now (additions shape past))
  number : ∀ now, seen now state.round =
    build (fun (_ : Option String) (number : Int) => number.repr)
      (survivors modelTtl now (numberings past))

theorem remembers_start : Remembers npy shape [] (.empty : TimedState Id npy.Bytes) where
  rows := ⟨_, reflects_start⟩
  loadable _ := loadable_empty
  model _ := rfl
  number _ := rfl

theorem Remembers.count (remembers : Remembers npy shape past state) (now : Nat)
    (roundNumber : Int) :
    submissionCount (state.at now) roundNumber =
      (contributors (untimed past) roundNumber).card := by
  obtain ⟨redis, reflects⟩ := remembers.rows
  exact reflects.count roundNumber

theorem Remembers.mean (remembers : Remembers npy shape past state) (now : Nat)
    (roundNumber : Int) :
    NdArray.averaged shape (deltasOf npy (state.at now) roundNumber) =
      deviceMean shape (untimed past) roundNumber := by
  obtain ⟨redis, reflects⟩ := remembers.rows
  exact reflects.mean roundNumber

theorem Remembers.ofShape (remembers : Remembers npy shape past state)
    (fixed : ∀ op ∈ untimed past, OfShape shape op) (now : Nat) (roundNumber : Int) :
    ∀ a ∈ deltasOf npy (state.at now) roundNumber, a.shape = shape := by
  obtain ⟨redis, reflects⟩ := remembers.rows
  exact reflects.ofShape fixed roundNumber

/-- What is there when an aggregation reads is of the one shape. -/
theorem Remembers.add_eq (remembers : Remembers npy shape past state) (fails : RedisFailures)
    (now : Nat) {mean : NdArray K} (ofShape : mean.shape = shape) :
    (currentWeights npy fails (state.at now).redis shape).add mean =
      some (addMean shape (getKey fails.readWeights (seen now (state.model npy))) mean) := by
  unfold currentWeights
  rw [state.globalModel_at]
  have current : ((getKey fails.readWeights (seen now (state.model npy))).getD
      (.zeros shape)).shape = shape := by
    cases found : getKey fails.readWeights (seen now (state.model npy)) with
    | none => rfl
    | some weights =>
      unfold getKey at found
      split at found
      · cases found
      · rw [remembers.model, build_means] at found
        exact total_shape found
  exact NdArray.add_of_shape_eq current ofShape

/-! ### One call -/

/-- A submission replaces the device's row, and leaves Redis alone. -/
theorem Remembers.stored (remembers : Remembers npy shape past state) (call : StoreCall Id K)
    (order : RowOrder (FLModelUpdate Id npy.Bytes)) :
    Remembers npy shape (.store call :: past) (serveAt npy state (.store call, order)) := by
  obtain ⟨redis, reflects⟩ := remembers.rows
  have next := reflects.stored call
  exact
    { rows := ⟨redis, next⟩
      loadable := fun now => ⟨next.loadable.updates, (remembers.loadable now).weights⟩
      model := remembers.model
      number := remembers.number }

/-- An aggregation without a quorum leaves everything as it was. -/
theorem Remembers.skipped (remembers : Remembers npy shape past state)
    (fixed : ∀ op ∈ untimed past, OfShape shape op) {roundNumber : Int}
    (few : ¬ minDevicesPerRound ≤ (contributors (untimed past) roundNumber).card)
    (clock : AggregationClock) (fails : RedisFailures) :
    Remembers npy shape (.aggregate roundNumber clock fails :: past) state := by
  obtain ⟨redis, reflects⟩ := remembers.rows
  have next := reflects.serve fixed (.aggregate roundNumber, .asStored)
  have refused : ¬ IsAggregated (replyOf npy ⟨state.updates, redis⟩
      (.aggregate roundNumber, .asStored)) := by
    rw [isAggregated_iff reflects.loadable, reflects.proceeds_iff fixed]
    exact few
  rw [serve_of_not_aggregated reflects.loadable refused] at next
  refine ⟨⟨redis, next⟩, remembers.loadable, ?_, ?_⟩
  · rw [additions, if_neg few]
    exact remembers.model
  · rw [numberings, if_neg few]
    exact remembers.number

/-- The rows, when a quorum has been aggregated. -/
theorem Remembers.rows_aggregated (remembers : Remembers npy shape past state)
    (fixed : ∀ op ∈ untimed past, OfShape shape op) {roundNumber : Int}
    (quorum : minDevicesPerRound ≤ (contributors (untimed past) roundNumber).card)
    (clock : AggregationClock) (fails : RedisFailures) :
    ∃ redis, Reflects npy shape (untimed (.aggregate roundNumber clock fails :: past))
      ⟨state.updates.filter fun row => row.roundNumber ≠ roundNumber, redis⟩ := by
  obtain ⟨redis, reflects⟩ := remembers.rows
  have aggregated : IsAggregated (replyOf npy ⟨state.updates, redis⟩
      (.aggregate roundNumber, .asStored)) := by
    rw [isAggregated_iff reflects.loadable, reflects.proceeds_iff fixed]
    exact quorum
  obtain ⟨other, newWeights, -, -, served⟩ := serve_of_aggregated reflects.loadable aggregated
  have next := reflects.serve fixed (.aggregate roundNumber, .asStored)
  rw [served] at next
  exact ⟨_, next⟩

/-- What an aggregation finds in the weights, plus the mean over the devices. -/
def newModel (npy : NpyFormat K) (shape : List Nat) (past : List (TimedOp Id K))
    (state : TimedState Id npy.Bytes) (roundNumber : Int) (clock : AggregationClock)
    (fails : RedisFailures) : NdArray K :=
  addMean shape (getKey fails.readWeights (seen clock.read (state.model npy)))
    (deviceMean shape (untimed past) roundNumber)

/-- **An aggregation with a quorum goes through**, whatever is left of the weights. -/
theorem Remembers.runAggregationAt_eq (remembers : Remembers npy shape past state)
    (fixed : ∀ op ∈ untimed past, OfShape shape op) {roundNumber : Int}
    (quorum : minDevicesPerRound ≤ (contributors (untimed past) roundNumber).card)
    (clock : AggregationClock) (fails : RedisFailures)
    (order : RowOrder (FLModelUpdate Id npy.Bytes)) :
    runAggregationAt npy clock fails order state roundNumber =
      .ok (.aggregated roundNumber (contributors (untimed past) roundNumber).card
          (newModel npy shape past state roundNumber clock fails),
        { updates := state.updates.filter fun row => row.roundNumber ≠ roundNumber
          weights := setKey fails.writeWeights state.weights
            ⟨npy.save (newModel npy shape past state roundNumber clock fails),
              clock.weights + modelTtl⟩
          round :=
            setKey fails.writeRound state.round ⟨roundNumber.repr, clock.round + modelTtl⟩ }) := by
  have effect : AggregationEffect npy fails (state.at clock.read) roundNumber
      (runAggregation npy fails order (state.at clock.read) roundNumber) :=
    runAggregation_effect (remembers.loadable clock.read)
  have count := remembers.count clock.read roundNumber
  have ofShape := remembers.ofShape fixed clock.read roundNumber
  have enough : minDevicesPerRound ≤ submissionCount (state.at clock.read) roundNumber :=
    count ▸ quorum
  have sum := remembers.add_eq fails clock.read
    (NdArray.averaged_shape shape (deltasOf npy (state.at clock.read) roundNumber))
  unfold runAggregationAt
  generalize runAggregation npy fails order (state.at clock.read) roundNumber = outcome at effect ⊢
  cases effect with
  | skipped few => exact absurd enough (not_le.mpr few)
  | mismatch _ different => exact absurd ⟨shape, ofShape⟩ different
  | refused _ same apart =>
    cases shape_unique enough ofShape same
    cases sum.symm.trans apart
  | aggregated _ same added =>
    cases shape_unique enough ofShape same
    cases sum.symm.trans added
    rw [count, remembers.mean]
    rfl

/-- An aggregation without a quorum is skipped. -/
theorem Remembers.runAggregationAt_few (remembers : Remembers npy shape past state)
    {roundNumber : Int}
    (few : ¬ minDevicesPerRound ≤ (contributors (untimed past) roundNumber).card)
    (clock : AggregationClock) (fails : RedisFailures)
    (order : RowOrder (FLModelUpdate Id npy.Bytes)) :
    runAggregationAt npy clock fails order state roundNumber =
      .ok (.skipped (contributors (untimed past) roundNumber).card, state) := by
  have effect : AggregationEffect npy fails (state.at clock.read) roundNumber
      (runAggregation npy fails order (state.at clock.read) roundNumber) :=
    runAggregation_effect (remembers.loadable clock.read)
  have count := remembers.count clock.read roundNumber
  unfold runAggregationAt
  generalize runAggregation npy fails order (state.at clock.read) roundNumber = outcome at effect ⊢
  cases effect with
  | skipped => rw [count]
  | mismatch quorum => exact absurd (count ▸ quorum) few
  | refused quorum => exact absurd (count ▸ quorum) few
  | aggregated quorum => exact absurd (count ▸ quorum) few

/-- The weights are rewritten by one more addition. -/
theorem model_written {roundNumber : Int} {clock : AggregationClock} {fails : RedisFailures}
    (next : TimedState Id npy.Bytes)
    (written : next.weights = setKey fails.writeWeights state.weights
      ⟨npy.save (newModel npy shape past state roundNumber clock fails),
        clock.weights + modelTtl⟩) :
    next.model npy =
      (addition shape past roundNumber clock fails).apply modelTtl (addMean shape)
        (state.model npy) := by
  unfold TimedState.model
  rw [written]
  unfold setKey Rewrite.apply Rewrite.found addition newModel getKey
  cases fails.writeWeights with
  | true => rfl
  | false =>
    show some (Expiring.mk (decode npy (npy.save _)) _) = some (Expiring.mk _ _)
    rw [decode_save]
    cases fails.readWeights <;> rfl

/-- So is the round number. -/
theorem number_written {roundNumber : Int} {clock : AggregationClock} {fails : RedisFailures}
    (round : Option (Expiring String)) :
    setKey fails.writeRound round ⟨roundNumber.repr, clock.round + modelTtl⟩ =
      (numbering roundNumber clock fails).apply modelTtl
        (fun (_ : Option String) (number : Int) => number.repr) round := by
  unfold setKey Rewrite.apply numbering
  cases fails.writeRound <;> rfl

/-- The weights can be loaded, the old ones and the new ones. -/
theorem Remembers.weights_loadable (remembers : Remembers npy shape past state)
    {fails : RedisFailures} {weights : NdArray K} {deadline now : Nat} {raw : npy.Bytes}
    (found : seen now (setKey fails.writeWeights state.weights ⟨npy.save weights, deadline⟩) =
      some raw) : deserialise npy raw = .ok (decode npy raw) := by
  unfold setKey at found
  split at found
  · exact (remembers.loadable now).weights raw found
  · obtain ⟨_, written⟩ := held_of_seen found
    cases written
    rw [deserialise_save, decode_save]

/-- **An aggregation with a quorum** takes its rows and rewrites the two keys. -/
theorem Remembers.aggregated (remembers : Remembers npy shape past state)
    (fixed : ∀ op ∈ untimed past, OfShape shape op) {roundNumber : Int}
    (quorum : minDevicesPerRound ≤ (contributors (untimed past) roundNumber).card)
    (clock : AggregationClock) (fails : RedisFailures)
    (order : RowOrder (FLModelUpdate Id npy.Bytes)) :
    Remembers npy shape (.aggregate roundNumber clock fails :: past)
      (serveAt npy state (.aggregate roundNumber clock fails, order)) := by
  unfold serveAt
  simp only [remembers.runAggregationAt_eq fixed quorum]
  obtain ⟨redis, rows⟩ := remembers.rows_aggregated fixed quorum clock fails
  refine ⟨⟨redis, rows⟩, fun now => ⟨rows.loadable.updates, fun raw found => ?_⟩,
    fun now => ?_, fun now => ?_⟩
  · exact remembers.weights_loadable found
  · rw [additions, if_pos quorum, model_written _ rfl]
    exact seen_apply modelTtl (addMean shape) now _ _ remembers.model
  · rw [numberings, if_pos quorum, number_written]
    exact seen_apply modelTtl _ now _ _ remembers.number

/-- **One call keeps the stores what the history says.** -/
theorem Remembers.serveAt (remembers : Remembers npy shape past state)
    (fixed : ∀ op ∈ untimed past, OfShape shape op) (call : TimedCall Id npy) :
    Remembers npy shape (call.1 :: past) (serveAt npy state call) := by
  obtain ⟨op, order⟩ := call
  cases op with
  | store call => exact remembers.stored call order
  | aggregate roundNumber clock fails =>
    by_cases quorum : minDevicesPerRound ≤ (contributors (untimed past) roundNumber).card
    · exact remembers.aggregated fixed quorum clock fails order
    · have same : Fl.serveAt npy state (.aggregate roundNumber clock fails, order) = state := by
        unfold Fl.serveAt
        simp only [remembers.runAggregationAt_few quorum]
      rw [same]
      exact remembers.skipped fixed quorum clock fails

/-- What `get_global_model_weights` returns. -/
theorem Remembers.reply (remembers : Remembers npy shape past state) (weightsAt numberAt : Nat) :
    getGlobalModelWeightsAt npy state weightsAt numberAt =
      .ok (modelReply npy (fedAvgAt shape weightsAt past) (roundAt numberAt past)) := by
  have model : (seen weightsAt state.weights).map (decode npy) =
      fedAvgAt shape weightsAt past := by
    rw [← seen_map, fedAvgAt, ← build_means]
    exact remembers.model weightsAt
  have number : seen numberAt state.round = (roundAt numberAt past).map Int.repr := by
    rw [roundAt, ← build_numbers]
    exact remembers.number numberAt
  unfold getGlobalModelWeightsAt getGlobalModelWeights
  rw [number, ← model]
  cases found : seen weightsAt state.weights with
  | none => rfl
  | some raw =>
    simp only [(remembers.loadable weightsAt).weights raw found, bind, Except.bind]
    cases roundAt numberAt past with
    | none => rfl
    | some value =>
      simp only [Option.map_some, if_neg (repr_ne_empty value)]
      rfl

/-- Whether an aggregation succeeds depends on its quorum alone. -/
theorem Remembers.isAggregated_iff (remembers : Remembers npy shape past state)
    (fixed : ∀ op ∈ untimed past, OfShape shape op) (roundNumber : Int)
    (clock : AggregationClock) (fails : RedisFailures)
    (order : RowOrder (FLModelUpdate Id npy.Bytes)) :
    IsAggregated (replyAt npy state (.aggregate roundNumber clock fails, order)) ↔
      minDevicesPerRound ≤ (contributors (untimed past) roundNumber).card := by
  unfold replyAt
  by_cases quorum : minDevicesPerRound ≤ (contributors (untimed past) roundNumber).card
  · simp only [remembers.runAggregationAt_eq fixed quorum]
    exact iff_of_true trivial quorum
  · simp only [remembers.runAggregationAt_few quorum]
    exact iff_of_false id quorum

end Remembers

/-! ### Whole runs -/

section Runs

variable {Id K : Type} [DivisionRing K]

/-- The history of some calls, the latest first. -/
def timedHistory {npy : NpyFormat K} (calls : List (TimedCall Id npy)) : List (TimedOp Id K) :=
  (calls.map Prod.fst).reverse

theorem ofShape_history {npy : NpyFormat K} {shape : List Nat} {calls : List (TimedCall Id npy)}
    (fixed : ∀ call ∈ calls, OfShape shape call.1.op) :
    ∀ op ∈ untimed (timedHistory calls), OfShape shape op := by
  intro op member
  obtain ⟨timed, inHistory, rfl⟩ := List.mem_map.mp member
  obtain ⟨mine, inside, rfl⟩ := List.mem_map.mp (List.mem_reverse.mp inHistory)
  exact fixed mine inside

theorem remembers_run (npy : NpyFormat K) (shape : List Nat) (calls : List (TimedCall Id npy))
    (fixed : ∀ call ∈ calls, OfShape shape call.1.op) :
    Remembers npy shape (timedHistory calls) (run (serveAt npy) .empty calls) := by
  induction calls using List.reverseRecOn with
  | nil => exact remembers_start
  | append_singleton before call ih =>
    obtain ⟨earlier, -⟩ := List.forall_mem_append.mp fixed
    have history : timedHistory (before ++ [call]) = call.1 :: timedHistory before := by
      rw [timedHistory, List.map_append, List.reverse_append]
      rfl
    rw [run_concat, history]
    exact (ih earlier).serveAt (ofShape_history earlier) call

/-- **No mean is lost** if no command fails and the weights are always read within a lifetime. -/
theorem fedavg_of_fresh {shape : List Nat} {now : Nat} {past : List (TimedOp Id K)}
    (fresh : Fresh modelTtl now (additions shape past)) :
    fedAvgAt shape now past = fedAvg shape (untimed past) := by
  have all : ∀ past : List (TimedOp Id K),
      (additions shape past).map Rewrite.addition = means shape (untimed past) := by
    intro past
    induction past with
    | nil => rfl
    | cons op past ih =>
      cases op with
      | store => exact ih
      | aggregate roundNumber clock fails =>
        rw [additions]
        show _ = means shape (.aggregate roundNumber :: untimed past)
        rw [means]
        split
        · exact congrArg (_ :: ·) ih
        · exact ih
  rw [fedAvgAt, survivors_of_fresh modelTtl fresh, all]
  rfl

end Runs

/-! ### A round, and a week -/

/-- A call that Redis serves at a time. -/
def timed {Id K : Type} [DivisionRing K] {npy : NpyFormat K} (now : Nat) :
    FlCall Id npy → TimedCall Id npy
  | (.store call, order) => (.store call, order)
  | (.aggregate roundNumber, order) =>
    (.aggregate roundNumber ⟨now, now, now⟩ .none, order)

/-- Two rounds of one and the same delta, seven days apart. -/
def twoRounds : List (TimedCall String (.plain ℚ)) :=
  (wholeRound one 1).map (timed 0) ++ (wholeRound one 2).map (timed modelTtl)

end ScreenSync.Fl
