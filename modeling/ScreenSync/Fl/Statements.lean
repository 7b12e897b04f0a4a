/-
**The aggregator's calls, one statement at a time.**

Any number of calls of `store_gradient_update` and `run_aggregation` run at once, each in a
transaction of its own. A statement sees the rows committed before it. A `DELETE` finds the rows
that match it then; they are gone for everybody once its transaction commits. No Redis command
fails; waiting for a row lock only takes schedules away, and is left out.

* `advance` — the next statement of one call.
* `advance_moves` — everything a statement can do to the rows, the submissions and the phases.
* `alone_serves` — a call that runs alone leaves the stores as `serve` does.
-/

import Mathlib.Logic.Function.Basic
import ScreenSync.Fl.Rounds

namespace ScreenSync.Fl

open ScreenSync.Foundation ScreenSync.Shared

/-! ### Phases -/

/-- What a call does next. -/
inductive WorkPhase (Id Bytes : Type)
  /-- `DELETE` of the device's row for the round, or `SELECT` of the round's rows -/
  | ready
  /-- `INSERT` and `COMMIT`, after a `DELETE` that found these rows -/
  | inserting (found : List Id)
  /-- `SELECT` that counts the round's rows -/
  | counting
  /-- nothing: the submission was answered -/
  | replied (reply : StoreReply)
  /-- the mean of these rows is added to the weights in Redis -/
  | averaging (rows : List (FLModelUpdate Id Bytes))
  /-- `DELETE` of the round's rows -/
  | saved (rows : List (FLModelUpdate Id Bytes))
  /-- `COMMIT`, after a `DELETE` that found these rows -/
  | deleting (rows : List (FLModelUpdate Id Bytes)) (found : List Id)
  /-- nothing: the round was aggregated -/
  | aggregated (rows : List (FLModelUpdate Id Bytes))
  /-- nothing: the aggregation was skipped, or it refused the round or raised -/
  | stopped

/-- The aggregation goes ahead with the rows it read. -/
def WorkPhase.GoesAhead {Id Bytes : Type} : WorkPhase Id Bytes → Prop
  | .averaging _ | .saved _ | .deleting _ _ | .aggregated _ => True
  | _ => False

/-- The rows whose mean was added to the global weights. -/
def WorkPhase.counted {Id Bytes : Type} : WorkPhase Id Bytes → List (FLModelUpdate Id Bytes)
  | .saved rows | .deleting rows _ | .aggregated rows => rows
  | _ => []

/-- The committed rows and the keys in Redis, the calls, and the submissions whose commit succeeded,
in order. -/
structure Workers (ι Id Bytes : Type) where
  stores : FlState Id Bytes
  phase : ι → WorkPhase Id Bytes
  submitted : List (FLModelUpdate Id Bytes)

section Machine

variable {ι Id K : Type} [DecidableEq ι] [DecidableEq Id] [DivisionRing K] (npy : NpyFormat K)

/-- Before the first statement. -/
def Workers.start {Bytes : Type} : Workers ι Id Bytes := ⟨.empty, fun _ => .ready, []⟩

def Workers.goto {Bytes : Type} (now : Workers ι Id Bytes) (i : ι) (phase : WorkPhase Id Bytes) :
    Workers ι Id Bytes :=
  { now with phase := Function.update now.phase i phase }

/-- The rows without those that match a condition and were found by a `DELETE`. -/
def withoutFound {Bytes : Type} (rows : List (FLModelUpdate Id Bytes)) (found : List Id)
    (condition : FLModelUpdate Id Bytes → Prop) [DecidablePred condition] :
    List (FLModelUpdate Id Bytes) :=
  rows.filter fun row => ¬ (row.id ∈ found ∧ condition row)

/-- What the mean of some rows leads to: nothing is written if it raises or the shapes differ. -/
def averageInto (redis : ModelKeys npy.Bytes) (rows : List (FLModelUpdate Id npy.Bytes))
    (roundNumber : Int) : Option (ModelKeys npy.Bytes) :=
  match averageDeltas npy rows with
  | .ok (some averagedDelta) =>
    match addToGlobal npy .none redis averagedDelta with
    | .ok newWeights => some (saveGlobalWeights npy .none redis newWeights roundNumber)
    | .error _ => none
  | _ => none

/-- The next statement of a submission. -/
def advanceStore (now : Workers ι Id npy.Bytes) (i : ι) (call : StoreCall Id K) :
    Workers ι Id npy.Bytes :=
  match now.phase i with
  | .ready =>
    now.goto i (.inserting ((now.stores.updates.filter fun row =>
      row.deviceId = call.deviceId ∧ row.roundNumber = call.roundNumber).map FLModelUpdate.id))
  | .inserting found =>
    { now.goto i .counting with
      stores :=
        { now.stores with
          updates := withoutFound now.stores.updates found (fun row =>
            row.deviceId = call.deviceId ∧ row.roundNumber = call.roundNumber) ++
              [call.update npy] }
      submitted := now.submitted ++ [call.update npy] }
  | .counting =>
    now.goto i (.replied (storeReply call (submissionCount now.stores call.roundNumber)))
  | _ => now

/-- The next statement of an aggregation. -/
def advanceAggregate (now : Workers ι Id npy.Bytes) (i : ι)
    (order : RowOrder (FLModelUpdate Id npy.Bytes)) (roundNumber : Int) :
    Workers ι Id npy.Bytes :=
  match now.phase i with
  | .ready =>
    let submissions := order.arrange (now.stores.ofRound roundNumber)
    if submissions.length < minDevicesPerRound then now.goto i .stopped
    else now.goto i (.averaging submissions)
  | .averaging rows =>
    match averageInto npy now.stores.redis rows roundNumber with
    | some redis => { now.goto i (.saved rows) with stores := { now.stores with redis } }
    | none => now.goto i .stopped
  | .saved rows =>
    now.goto i (.deleting rows ((now.stores.ofRound roundNumber).map FLModelUpdate.id))
  | .deleting rows found =>
    { now.goto i (.aggregated rows) with
      stores :=
        { now.stores with
          updates := withoutFound now.stores.updates found fun row =>
            row.roundNumber = roundNumber } }
  | _ => now

/-- The next statement of a call. -/
def advance (calls : ι → FlCall Id npy) (now : Workers ι Id npy.Bytes) (i : ι) :
    Workers ι Id npy.Bytes :=
  match (calls i).1 with
  | .store call => advanceStore npy now i call
  | .aggregate roundNumber => advanceAggregate npy now i (calls i).2 roundNumber

/-! ### Everything a statement can do -/

variable {npy} (calls : ι → FlCall Id npy)

/-- The rows, the submissions and the phases after one statement of a call. -/
inductive WorkMoves (now : Workers ι Id npy.Bytes) (i : ι) : Workers ι Id npy.Bytes → Prop
  | idle (noInsert : ∀ call found, (calls i).1 = .store call → now.phase i ≠ .inserting found)
    (noDelete : ∀ roundNumber rows found, (calls i).1 = .aggregate roundNumber →
      now.phase i ≠ .deleting rows found) : WorkMoves now i now
  | matched {call : StoreCall Id K} (own : (calls i).1 = .store call)
    (here : now.phase i = .ready) (found : List Id) :
    WorkMoves now i (now.goto i (.inserting found))
  | inserted {call : StoreCall Id K} (own : (calls i).1 = .store call) {found : List Id}
    (here : now.phase i = .inserting found) :
    WorkMoves now i
      { now.goto i .counting with
        stores :=
          { now.stores with
            updates := withoutFound now.stores.updates found (fun row =>
              row.deviceId = call.deviceId ∧ row.roundNumber = call.roundNumber) ++
                [call.update npy] }
        submitted := now.submitted ++ [call.update npy] }
  | answered {call : StoreCall Id K} (own : (calls i).1 = .store call)
    (here : now.phase i = .counting) :
    WorkMoves now i
      (now.goto i (.replied (storeReply call (submissionCount now.stores call.roundNumber))))
  | selected {roundNumber : Int} (own : (calls i).1 = .aggregate roundNumber)
    (here : now.phase i = .ready) {rows : List (FLModelUpdate Id npy.Bytes)}
    (perm : rows.Perm (now.stores.ofRound roundNumber))
    (quorum : minDevicesPerRound ≤ rows.length) :
    WorkMoves now i (now.goto i (.averaging rows))
  | halted (early : now.phase i = .ready ∨ ∃ rows, now.phase i = .averaging rows) :
    WorkMoves now i (now.goto i .stopped)
  | saved {rows : List (FLModelUpdate Id npy.Bytes)} (here : now.phase i = .averaging rows)
    (redis : ModelKeys npy.Bytes) :
    WorkMoves now i { now.goto i (.saved rows) with stores := { now.stores with redis } }
  | cleaning {rows : List (FLModelUpdate Id npy.Bytes)} (here : now.phase i = .saved rows)
    (found : List Id) : WorkMoves now i (now.goto i (.deleting rows found))
  | deleted {roundNumber : Int} (own : (calls i).1 = .aggregate roundNumber)
    {rows : List (FLModelUpdate Id npy.Bytes)} {found : List Id}
    (here : now.phase i = .deleting rows found) :
    WorkMoves now i
      { now.goto i (.aggregated rows) with
        stores :=
          { now.stores with
            updates := withoutFound now.stores.updates found fun row =>
              row.roundNumber = roundNumber } }

variable {calls} {now : Workers ι Id npy.Bytes} {i : ι}

/-- **Everything a statement can do.** -/
theorem advance_moves : WorkMoves calls now i (advance npy calls now i) := by
  unfold advance
  split
  · rename_i call own
    unfold advanceStore
    split
    · rename_i here
      exact .matched own here _
    · rename_i found here
      exact .inserted own here
    · rename_i here
      exact .answered own here
    · rename_i unready others uncounted
      refine .idle (fun call found _ here => others found here)
        fun roundNumber rows found other => ?_
      cases own.symm.trans other
  · rename_i roundNumber own
    unfold advanceAggregate
    split
    · rename_i here
      dsimp only
      split
      · exact .halted (.inl here)
      · rename_i quorum
        exact .selected own here ((calls i).2.perm _) (not_lt.mp quorum)
    · rename_i rows here
      split
      · rename_i redis _
        exact .saved here redis
      · exact .halted (.inr ⟨rows, here⟩)
    · rename_i rows here
      exact .cleaning here _
    · rename_i rows found here
      exact .deleted own here
    · rename_i others
      refine .idle (fun call found other => ?_) fun roundNumber rows found _ here =>
        others rows found here
      cases own.symm.trans other

/-! ### A call that runs alone -/

omit [DecidableEq ι] in
/-- With nothing in between, a `DELETE` finds all the rows that match when it commits. -/
theorem withoutFound_all {Bytes : Type} (rows : List (FLModelUpdate Id Bytes))
    (condition : FLModelUpdate Id Bytes → Prop) [DecidablePred condition] :
    withoutFound rows ((rows.filter fun row => condition row).map FLModelUpdate.id) condition =
      rows.filter fun row => ¬ condition row := by
  refine List.filter_congr fun row member => decide_eq_decide.mpr (not_congr ?_)
  refine and_iff_right_of_imp fun holds => ?_
  exact List.mem_map_of_mem (List.mem_filter.mpr ⟨member, decide_eq_true holds⟩)

/-- **A call that runs alone** leaves the stores as `serve` does. -/
theorem alone_serves (calls : ι → FlCall Id npy) (now : Workers ι Id npy.Bytes) (i : ι)
    (ready : now.phase i = .ready) :
    (run (advance npy calls) now [i, i, i, i]).stores = serve npy now.stores (calls i) := by
  unfold serve
  cases own : (calls i).1 with
  | store call =>
    have steps : (run (advance npy calls) now [i, i, i, i]).stores =
        { now.stores with
          updates := withoutFound now.stores.updates
            ((now.stores.updates.filter fun row => row.deviceId = call.deviceId ∧
              row.roundNumber = call.roundNumber).map FLModelUpdate.id)
            (fun row => row.deviceId = call.deviceId ∧ row.roundNumber = call.roundNumber) ++
              [call.update npy] } := by
      simp only [run_cons, run_nil, advance, own, advanceStore, ready, Workers.goto,
        Function.update_self]
    rw [steps, withoutFound_all]
    rfl
  | aggregate roundNumber =>
    -- the aggregation stops after its `SELECT`, or when it averages, or goes on to its `COMMIT`
    simp only [run_cons, run_nil, advance, own, advanceAggregate, ready]
    unfold runAggregation
    by_cases few : ((calls i).2.arrange (now.stores.ofRound roundNumber)).length <
        minDevicesPerRound
    · simp only [few, if_true, Workers.goto, Function.update_self]
    simp only [few, if_false, Workers.goto, Function.update_self, averageInto]
    cases averaged : averageDeltas npy ((calls i).2.arrange (now.stores.ofRound roundNumber)) with
    | error raised => simp only [Function.update_self, bind, Except.bind]
    | ok mean =>
      cases mean with
      | none => simp only [Function.update_self, bind, Except.bind, pure, Except.pure]
      | some averagedDelta =>
        cases added : addToGlobal npy .none now.stores.redis averagedDelta with
        | error raised => simp only [added, Function.update_self, bind, Except.bind]
        | ok newWeights =>
          simp only [added, Function.update_self, bind, Except.bind, pure, Except.pure]
          have all := withoutFound_all now.stores.updates fun row => row.roundNumber = roundNumber
          exact congrArg (fun updates => FlState.mk updates _) all

end Machine

end ScreenSync.Fl
