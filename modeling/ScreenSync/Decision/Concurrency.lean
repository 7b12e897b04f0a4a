/-
**Two usage events at once.**

Between the budget read of `process_usage_event` and its charge there are awaits. Two calls on one
device and one day, with a row for it, are interleaved at these two steps: the read, which also
creates a missing row, and the rest of the call, whose increment of `used_seconds` is atomic.

* `stepUsage` — the next step of one of the calls.
* `usageGate`, `Mirrors`, `stepUsage_mirrors` — the calls are two admissions to the used seconds of
  the row: each decides on what it read, and charges the row as it is by then.
* `usage_serializable_iff` — what the calls charge and answer is that of one of the two orders
  exactly if neither reads between the other's read and charge, or if the rules answer one of them
  alike on the first row and on the row that the other one leaves.
* `two_sessions_admitted` — two sessions of which either would be the last are both admitted.
-/

import Mathlib.Algebra.Group.Int.Defs
import ScreenSync.Foundation.Admission
import ScreenSync.Decision.Accounting

namespace ScreenSync.Decision

open ScreenSync.Foundation ScreenSync.Shared

/-! ### The steps of the calls -/

/-- How far a call of `process_usage_event` has come. -/
inductive UsagePhase
  | ready
  | read (budget : Option BudgetDict)
  | answered (outcome : UsageOutcome)
  | raised (error : PyError)

/-- The store and two calls. -/
structure UsageRace where
  store : Store
  phase : Bool → UsagePhase

/-- Before any of the calls has started. -/
def UsageRace.start (store : Store) : UsageRace := ⟨store, fun _ => .ready⟩

section Usage

variable (device : Device) (day : Date) (row : Budget) (calls : Bool → UsageCall)

/-- The next step of a call: step 1 of the pipeline, then steps 2 to 6. -/
def stepUsage (race : UsageRace) (i : Bool) : UsageRace :=
  match race.phase i with
  | .ready =>
    match ensureBudget device race.store (calls i) with
    | .error error => { race with phase := Function.update race.phase i (.raised error) }
    | .ok (budget, store) => { store, phase := Function.update race.phase i (.read budget) }
  | .read budget =>
    let (outcome, store) := answerUsage device race.store budget (calls i)
    { store, phase := Function.update race.phase i (.answered outcome) }
  | .answered _ => race
  | .raised _ => race

/-- The call has answered with this action. -/
def UsageRace.AnsweredWith (race : UsageRace) (i : Bool) (action : Action) : Prop :=
  ∃ outcome, race.phase i = .answered outcome ∧ outcome.action = action

/-- Both calls have answered. -/
def UsageRace.Finished (race : UsageRace) : Prop := ∀ i, ∃ action, race.AnsweredWith i action

/-- The step does not read the budget between the other call's read and its charge. -/
def ReadsApart (race : UsageRace) (i : Bool) : Prop :=
  race.phase i = .ready → ∀ budget, race.phase (!i) ≠ .read budget

/-- The used seconds of the device on a day. -/
def usedOn (store : Store) : Option Int :=
  (store.db.budgets.find (device.id, day)).map Budget.usedSeconds

/-- What is charged and answered is what running call `i` and then the other one charges and
answers. -/
def RanInOrder (store : Store) (race : UsageRace) (i : Bool) : Prop :=
  ∃ first between second final,
    processUsageEvent device store (calls i) = .ok (first, between) ∧
      processUsageEvent device between (calls (!i)) = .ok (second, final) ∧
      race.AnsweredWith i first.action ∧ race.AnsweredWith (!i) second.action ∧
      usedOn device day race.store = usedOn device day final

/-- The action of the rules on a call that reads this row. -/
def actionOn (call : UsageCall) (row : Budget) : Action :=
  (evaluateRules (contextOf device call (remainingSeconds row))).action

/-- The row after a call that reads it and charges it. -/
def chargedRow (call : UsageCall) (row : Budget) : Budget :=
  { row with
    usedSeconds := row.usedSeconds +
      if actionOn device call row ≠ .block then effectiveCost call.appCategory call.rawSeconds
      else 0 }

/-! ### Admission to the row -/

/-- The row with some other number of used seconds. -/
def withUsed (row : Budget) (used : Int) : Budget := { row with usedSeconds := used }

/-- The two calls as admissions to the used seconds of the row. -/
def usageGate : Gate Int Int Action where
  view used := remainingSeconds (withUsed row used)
  verdict i remaining := (evaluateRules (contextOf device (calls i) remaining)).action
  charge i action :=
    if action ≠ .block then effectiveCost (calls i).appCategory (calls i).rawSeconds else 0

/-- A call that has read the row with some used seconds has seen what remained of it. -/
inductive PhaseMirrors : UsagePhase → Stage Int Action → Prop
  | ready : PhaseMirrors .ready .ready
  | read (used : Int) : PhaseMirrors (.read (some (budgetToDict (withUsed row used))))
      (.checked (remainingSeconds (withUsed row used)))
  | answered (outcome : UsageOutcome) : PhaseMirrors (.answered outcome) (.charged outcome.action)

/-- The store holds the row with the total of the pair, and the calls are as far. -/
structure Mirrors (race : UsageRace) (pair : Pair Int Int Action) : Prop where
  found : race.store.db.budgets.find (device.id, day) = some (withUsed row pair.total)
  coherent : Coherent race.store (device.id, day)
  phase : ∀ i, PhaseMirrors row (race.phase i) (pair.stage i)

variable {device day row calls}

theorem start_mirrors {store : Store} (found : store.db.budgets.find (device.id, day) = some row)
    (coherent : Coherent store (device.id, day)) :
    Mirrors device day row (.start store) (.start row.usedSeconds) where
  found := found
  coherent := coherent
  phase _ := .ready

/-- The phase of one call is replaced. -/
theorem phaseMirrors_update {phase : Bool → UsagePhase} {stage : Bool → Stage Int Action}
    (mirrors : ∀ i, PhaseMirrors row (phase i) (stage i)) (i : Bool) {next : UsagePhase}
    {later : Stage Int Action} (same : PhaseMirrors row next later) (j : Bool) :
    PhaseMirrors row (Function.update phase i next j) (Function.update stage i later j) := by
  rw [Function.update_apply, Function.update_apply]
  split
  · exact same
  · exact mirrors j

/-- **One step of a call is one step of the admission.** -/
theorem stepUsage_mirrors (sameDay : ∀ i, (calls i).today = day) {race : UsageRace}
    {pair : Pair Int Int Action} (mirrors : Mirrors device day row race pair) (i : Bool) :
    Mirrors device day row (stepUsage device calls race i)
      (proceed (usageGate device row calls) pair i) := by
  obtain ⟨found, coherent, phase⟩ := mirrors
  have here := phase i
  unfold stepUsage proceed
  cases at_i : race.phase i with
  | ready =>
    rw [at_i] at here
    cases stage : pair.stage i with
    | ready =>
      have read := ensureBudget_found (sameDay i ▸ found) (sameDay i ▸ coherent)
      simp only [read]
      refine ⟨by rw [getBudget_db]; exact found, getBudget_coherent coherent _ _, ?_⟩
      exact phaseMirrors_update phase i (.read pair.total)
    | _ =>
      rw [stage] at here
      cases here
  | read budget =>
    rw [at_i] at here
    generalize stage : pair.stage i = now at here
    cases here with
    | read used =>
      refine ⟨?_, deduct_coherent coherent _ _ _ _, phaseMirrors_update phase i (.answered _)⟩
      refine (deduct_find ..).trans ?_
      have seen : remainingOf (some (budgetToDict (withUsed row used))) =
          remainingSeconds (withUsed row used) := rfl
      rw [found, Option.map_some, sameDay i, seen]
      simp only [and_true, usageGate]
      split
      · rfl
      · rw [add_zero]
  | answered outcome =>
    rw [at_i] at here
    generalize stage : pair.stage i = now at here
    cases here
    exact ⟨found, coherent, phase⟩
  | raised error =>
    rw [at_i] at here
    cases here

theorem run_mirrors {store : Store} (found : store.db.budgets.find (device.id, day) = some row)
    (coherent : Coherent store (device.id, day)) (sameDay : ∀ i, (calls i).today = day)
    (schedule : List Bool) :
    Mirrors device day row (run (stepUsage device calls) (.start store) schedule)
      (run (proceed (usageGate device row calls)) (.start row.usedSeconds) schedule) :=
  run_simulates (Mirrors device day row) (fun _ => True)
    (fun _ _ i mirrors _ => stepUsage_mirrors sameDay mirrors i) (start_mirrors found coherent)
    fun _ _ => trivial

/-! ### What the mirror shows -/

theorem Mirrors.answeredWith_iff {race : UsageRace} {pair : Pair Int Int Action}
    (mirrors : Mirrors device day row race pair) (i : Bool) (action : Action) :
    race.AnsweredWith i action ↔ pair.stage i = .charged action := by
  have here := mirrors.phase i
  unfold UsageRace.AnsweredWith
  generalize race.phase i = phase at here ⊢
  generalize pair.stage i = stage at here ⊢
  cases here <;> simp

theorem Mirrors.readsApart_iff {race : UsageRace} {pair : Pair Int Int Action}
    (mirrors : Mirrors device day row race pair) (i : Bool) :
    ReadsApart race i ↔ Apart pair i := by
  have here := mirrors.phase i
  have there := mirrors.phase (!i)
  unfold ReadsApart Apart
  generalize race.phase i = phase at here ⊢
  generalize pair.stage i = stage at here ⊢
  generalize race.phase (!i) = others at there ⊢
  generalize pair.stage (!i) = stages at there ⊢
  cases here <;> cases there <;> simp

theorem meets_readsApart_iff {store : Store}
    (found : store.db.budgets.find (device.id, day) = some row)
    (coherent : Coherent store (device.id, day)) (sameDay : ∀ i, (calls i).today = day)
    (schedule : List Bool) :
    Meets (stepUsage device calls) ReadsApart (.start store) schedule ↔
      Meets (proceed (usageGate device row calls)) Apart (.start row.usedSeconds) schedule := by
  refine forall_congr' fun before => forall_congr' fun i => forall_congr' fun after =>
    imp_congr_right fun _ => ?_
  exact (run_mirrors found coherent sameDay before).readsApart_iff i

/-- A call that runs by itself. -/
theorem processUsageEvent_alone {store : Store} {used : Int}
    (found : store.db.budgets.find (device.id, day) = some (withUsed row used))
    (coherent : Coherent store (device.id, day)) (sameDay : ∀ i, (calls i).today = day) (i : Bool) :
    ∃ outcome next, processUsageEvent device store (calls i) = .ok (outcome, next) ∧
      outcome.action = (usageGate device row calls).decision i used ∧
      next.db.budgets.find (device.id, day) =
        some (withUsed row ((usageGate device row calls).alone i used)) ∧
      Coherent next (device.id, day) := by
  obtain ⟨outcome, next, answered, charged⟩ :=
    processUsageEvent_found (sameDay i ▸ found) (sameDay i ▸ coherent)
  have action : outcome.action = (usageGate device row calls).decision i used :=
    (charged.verdict _ (sameDay i ▸ found)).1
  refine ⟨outcome, next, answered, action, ?_, charged.coherent _ coherent⟩
  rw [charged.rows, found, Option.map_some, sameDay i, charged.cost, action]
  simp only [and_true, Gate.alone, usageGate]
  split
  · rfl
  · rw [add_zero]

theorem Mirrors.ranInOrder_iff {store : Store}
    (found : store.db.budgets.find (device.id, day) = some row)
    (coherent : Coherent store (device.id, day)) (sameDay : ∀ i, (calls i).today = day)
    {race : UsageRace} {pair : Pair Int Int Action} (mirrors : Mirrors device day row race pair)
    (i : Bool) : RanInOrder device day calls store race i ↔
      InOrder (usageGate device row calls) row.usedSeconds i pair := by
  have unused : store.db.budgets.find (device.id, day) =
      some (withUsed row row.usedSeconds) := found
  obtain ⟨first, between, ran, action, there, kept⟩ :=
    processUsageEvent_alone unused coherent sameDay i
  obtain ⟨second, final, later, reaction, last, -⟩ :=
    processUsageEvent_alone there kept sameDay (!i)
  have used : usedOn device day race.store = some pair.total := by
    rw [usedOn, mirrors.found]
    rfl
  have ended : usedOn device day final = some ((usageGate device row calls).alone (!i)
      ((usageGate device row calls).alone i row.usedSeconds)) := by
    rw [usedOn, last]
    rfl
  constructor
  · rintro ⟨first', between', second', final', ran', later', mine, other, same⟩
    cases ran.symm.trans ran'
    cases later.symm.trans later'
    rw [mirrors.answeredWith_iff] at mine other
    exact ⟨Option.some.inj (used.symm.trans (same.trans ended)), action ▸ mine, reaction ▸ other⟩
  · rintro ⟨total, mine, other⟩
    refine ⟨first, between, second, final, ran, later, ?_, ?_, ?_⟩
    · rw [mirrors.answeredWith_iff, action]
      exact mine
    · rw [mirrors.answeredWith_iff, reaction]
      exact other
    · rw [used, ended, total]

theorem Mirrors.finished {race : UsageRace} {pair : Pair Int Int Action}
    (mirrors : Mirrors device day row race pair) (finished : race.Finished) : pair.Finished := by
  intro i
  obtain ⟨action, answered⟩ := finished i
  exact ⟨action, (mirrors.answeredWith_iff i action).mp answered⟩

end Usage

/-! ### Serializability -/

/-- **Two usage events** on a device with a row for their day, interleaved in any way: what they
charge and answer is that of one of the two orders exactly if neither reads the budget between the
other's read and charge, or if the rules give one of them the same action on the first row and on
the row that the other one leaves. -/
theorem usage_serializable_iff (device : Device) (store : Store) (day : Date) (row : Budget)
    (calls : Bool → UsageCall) (schedule : List Bool)
    (found : store.db.budgets.find (device.id, day) = some row)
    (coherent : Coherent store (device.id, day)) (sameDay : ∀ i, (calls i).today = day)
    (finished : (run (stepUsage device calls) (.start store) schedule).Finished) :
    (∃ i, RanInOrder device day calls store
        (run (stepUsage device calls) (.start store) schedule) i) ↔
      Meets (stepUsage device calls) ReadsApart (.start store) schedule ∨
        ∃ i, actionOn device (calls (!i)) (chargedRow device (calls i) row) =
          actionOn device (calls (!i)) row := by
  have mirrors := run_mirrors found coherent sameDay schedule
  rw [meets_readsApart_iff found coherent sameDay]
  exact (exists_congr fun i => mirrors.ranInOrder_iff found coherent sameDay i).trans
    (inOrder_iff _ _ schedule (mirrors.finished finished))

/-- Two sessions of ten minutes. -/
def twoSessions (_ : Bool) : UsageCall := tenMinutes "productivity"

def oneAfterTheOther : List Bool := [true, true, false, false]

/-- Both read before one of them charges. -/
def bothAtOnce : List Bool := [true, false, true, false]

theorem usage_serializable_iff_twoSessions :
    (∃ i, RanInOrder tablet someDay twoSessions tabletStore
        (run (stepUsage tablet twoSessions) (.start tabletStore) oneAfterTheOther) i) ↔
      Meets (stepUsage tablet twoSessions) ReadsApart (.start tabletStore) oneAfterTheOther ∨
        ∃ i, actionOn tablet (twoSessions (!i)) (chargedRow tablet (twoSessions i) tabletRow) =
          actionOn tablet (twoSessions (!i)) tabletRow :=
  usage_serializable_iff tablet tabletStore someDay tabletRow twoSessions oneAfterTheOther
    tabletStore_found tabletStore_coherent (fun _ => rfl)
    (by intro i; cases i <;> exact ⟨_, _, rfl, rfl⟩)

/-- With a second left, either session would be the last one if they ran in turn; both are answered
with a warning and charged. -/
theorem two_sessions_admitted :
    (run (stepUsage tablet twoSessions) (.start tabletStore) bothAtOnce).Finished ∧
      ¬ ∃ i, RanInOrder tablet someDay twoSessions tabletStore
        (run (stepUsage tablet twoSessions) (.start tabletStore) bothAtOnce) i := by
  have warned : ∀ i, (run (stepUsage tablet twoSessions) (.start tabletStore)
      bothAtOnce).AnsweredWith i .warn := by
    intro i
    cases i <;> exact ⟨_, rfl, by decide +kernel⟩
  refine ⟨fun i => ⟨_, warned i⟩, ?_⟩
  rintro ⟨i, first, between, second, final, ran, later, -, ⟨outcome, answered, action⟩, -⟩
  have row : tabletStore.db.budgets.find (tablet.id, someDay) = some (withUsed tabletRow 7199) :=
    tabletStore_found
  have sameDay : ∀ j, (twoSessions j).today = someDay := fun _ => rfl
  obtain ⟨first', between', ran', -, there, kept⟩ :=
    processUsageEvent_alone row tabletStore_coherent sameDay i
  cases ran.symm.trans ran'
  obtain ⟨second', final', later', reaction, -⟩ :=
    processUsageEvent_alone there kept sameDay (!i)
  cases later.symm.trans later'
  have exhausted : (usageGate tablet tabletRow twoSessions).decision (!i)
      ((usageGate tablet tabletRow twoSessions).alone i 7199) = .block := by
    cases i <;> decide +kernel
  obtain ⟨outcome', answered', warning⟩ := warned (!i)
  cases answered.symm.trans answered'
  rw [warning, reaction, exhausted] at action
  cases action

end ScreenSync.Decision
