/-
**The usage pipeline.**

`processUsageEvent` reads the budget of a device for today, creating it first if it is missing,
evaluates the rules on what remains, charges the weighted cost unless the event is blocked, and
hands an enforcement message to the MQTT client. Readings of the clocks and the keys drawn for new
rows are part of the call.

* `processUsageEvent_found` — on a device with a row, the whole of what a call does: it answers
  with the rules' verdict on what remains of that row, and charges it or not.
* `ChargedBy` — the same as a relation between the rows before and after.
-/

import ScreenSync.Decision.Budget
import ScreenSync.Decision.Rules

namespace ScreenSync.Decision

open ScreenSync.Foundation ScreenSync.Shared

/-! ### The pipeline -/

/-- A call of `process_usage_event`: its arguments, and what it reads of its surroundings.
`timestamp` and `publishedAt` are its two readings of the clock. -/
structure UsageCall where
  appCategory : String
  rawSeconds : Int
  today : Date
  timestamp : UtcTime
  publishedAt : UtcTime
  uuid : DeviceId → String

/-- What `process_usage_event` returns, and the message it hands to the MQTT client. -/
structure UsageOutcome where
  deviceId : DeviceId
  appCategory : String
  rawSeconds : Int
  effectiveCostSeconds : Int
  action : Action
  reason : String
  metadata : Dict Json
  budget : Option BudgetDict
  published : Message

/-- `budget["remaining_seconds"] if budget else 0`. -/
def remainingOf (budget : Option BudgetDict) : Int :=
  match budget with
  | some budget => budget.remainingSeconds
  | none => 0

/-- `_publish_enforcement`. -/
def publishEnforcement (device : Device) (result : RuleResult) (budget : Option BudgetDict)
    (now : UtcTime) : Message where
  topic := "screensync/" ++ device.userId ++ "/" ++ device.id ++ "/control/enforce"
  payload := [("action", .str result.action.value), ("reason", .str result.reason),
    ("remaining_secs", .int (remainingOf budget)), ("ts", .str now.isoformat)]
  qos := 2

/-- Step 1: the budget for today, created if it is missing. -/
def ensureBudget (device : Device) (store : Store) (call : UsageCall) :
    Except PyError (Option BudgetDict × Store) :=
  match getBudget store device.id call.today with
  | (some budget, store) => .ok (some budget, store)
  | (none, store) => do
    let (_, store) ← initialiseDailyBudgets store device.userId call.today call.uuid
    return getBudget store device.id call.today

/-- All facts the rules are given. -/
def contextOf (device : Device) (call : UsageCall) (remaining : Int) : RuleContext where
  deviceId := device.id
  userId := device.userId
  appCategory := call.appCategory
  durationSeconds := call.rawSeconds
  remainingSeconds := remaining
  devicePriority := device.priority
  timestamp := call.timestamp

/-- Step 4: deduct only if allowed. -/
def deduct (device : Device) (store : Store) (budget : Option BudgetDict) (call : UsageCall)
    (action : Action) : Option BudgetDict × Store :=
  if action ≠ .block then
    recordUsage store device.id (effectiveCost call.appCategory call.rawSeconds) call.today
  else (budget, store)

/-- Steps 2 to 6, on the budget that step 1 found. -/
def answerUsage (device : Device) (store : Store) (budget : Option BudgetDict) (call : UsageCall) :
    UsageOutcome × Store :=
  let result := evaluateRules (contextOf device call (remainingOf budget))
  let (updatedBudget, store) := deduct device store budget call result.action
  ({ deviceId := device.id
     appCategory := call.appCategory
     rawSeconds := call.rawSeconds
     effectiveCostSeconds := effectiveCost call.appCategory call.rawSeconds
     action := result.action
     reason := result.reason
     metadata := result.metadata
     budget := updatedBudget
     published := publishEnforcement device result updatedBudget call.publishedAt }, store)

/-- `process_usage_event`. -/
def processUsageEvent (device : Device) (store : Store) (call : UsageCall) :
    Except PyError (UsageOutcome × Store) := do
  let (budget, store) ← ensureBudget device store call
  return answerUsage device store budget call

/-! ### The rebalance trigger -/

/-- The broadcast of one update. -/
def rebalanceMessage (userId : UserId) (update : RebalancedBudget) (now : UtcTime) : Message where
  topic := "screensync/" ++ userId ++ "/" ++ update.deviceId ++ "/budget/receive"
  payload := [("remaining_secs", .int update.newTotalBudgetSeconds), ("rebalanced", .bool true),
    ("ts", .str now.isoformat)]
  qos := 2

/-- `trigger_rebalance`; the clock is read once more for each broadcast. -/
def triggerRebalance (store : Store) (userId : UserId) (today : Date) (now : UtcTime)
    (publishedAt : Nat → UtcTime) : List RebalancedBudget × List Message × Store :=
  let (updates, store) := rebalanceBudgets store userId today now
  (updates, updates.mapIdx fun i update => rebalanceMessage userId update (publishedAt i), store)

/-! ### What a call does -/

theorem ensureBudget_found {device : Device} {store : Store} {call : UsageCall} {row : Budget}
    (found : store.db.budgets.find (device.id, call.today) = some row)
    (coherent : Coherent store (device.id, call.today)) :
    ensureBudget device store call =
      .ok (some (budgetToDict row), (getBudget store device.id call.today).2) := by
  have answer : (getBudget store device.id call.today).1 = some (budgetToDict row) := by
    rw [getBudget_fst coherent, found]
    rfl
  rw [ensureBudget]
  split
  · rename_i budget next read
    rw [read] at answer ⊢
    cases answer
    rfl
  · rename_i next read
    rw [read] at answer
    cases answer

/-- The verdict on a call, its cost, and its charge to the row of today. -/
structure ChargedBy (device : Device) (store : Store) (call : UsageCall) (outcome : UsageOutcome)
    (next : Store) : Prop where
  verdict : ∀ row, store.db.budgets.find (device.id, call.today) = some row →
    outcome.action = (evaluateRules (contextOf device call (remainingSeconds row))).action ∧
      outcome.reason = (evaluateRules (contextOf device call (remainingSeconds row))).reason
  cost : outcome.effectiveCostSeconds = effectiveCost call.appCategory call.rawSeconds
  rows : ∀ key, next.db.budgets.find key = (store.db.budgets.find key).map fun b =>
    if outcome.action ≠ .block ∧ (device.id, call.today) = key then
      { b with usedSeconds := b.usedSeconds + outcome.effectiveCostSeconds }
    else b
  coherent : ∀ key, Coherent store key → Coherent next key

theorem deduct_find (device : Device) (store : Store) (budget : Option BudgetDict)
    (call : UsageCall) (action : Action) (key : BudgetKey) :
    (deduct device store budget call action).2.db.budgets.find key =
      (store.db.budgets.find key).map fun b =>
        if action ≠ .block ∧ (device.id, call.today) = key then
          { b with usedSeconds :=
              b.usedSeconds + effectiveCost call.appCategory call.rawSeconds }
        else b := by
  rw [deduct]
  split
  · rename_i taken
    rw [recordUsage_find]
    simp only [ne_eq, taken, not_false_eq_true, true_and]
  · rename_i blocked
    simp only [not_not.mp blocked, ne_eq, not_true_eq_false, false_and, if_false, Option.map_id']

theorem deduct_coherent {store : Store} {key : BudgetKey} (coherent : Coherent store key)
    (device : Device) (budget : Option BudgetDict) (call : UsageCall) (action : Action) :
    Coherent (deduct device store budget call action).2 key := by
  rw [deduct]
  split
  · exact recordUsage_coherent coherent _ _ _
  · exact coherent

theorem answerUsage_chargedBy {device : Device} {store : Store} {call : UsageCall} {row : Budget}
    (found : store.db.budgets.find (device.id, call.today) = some row) :
    ChargedBy device store call
      (answerUsage device (getBudget store device.id call.today).2 (some (budgetToDict row)) call).1
      (answerUsage device (getBudget store device.id call.today).2 (some (budgetToDict row))
        call).2 := by
  refine ⟨fun current same => ?_, rfl, fun key => ?_, fun key kept => ?_⟩
  · cases found.symm.trans same
    exact ⟨rfl, rfl⟩
  · exact (deduct_find ..).trans (by rw [getBudget_db]; rfl)
  · exact deduct_coherent (getBudget_coherent kept _ _) _ _ _ _

/-- **A call on a device with a row** for today always answers. -/
theorem processUsageEvent_found {device : Device} {store : Store} {call : UsageCall} {row : Budget}
    (found : store.db.budgets.find (device.id, call.today) = some row)
    (coherent : Coherent store (device.id, call.today)) :
    ∃ outcome next, processUsageEvent device store call = .ok (outcome, next) ∧
      ChargedBy device store call outcome next :=
  ⟨_, _, by rw [processUsageEvent, ensureBudget_found found coherent]; rfl,
    answerUsage_chargedBy found⟩

end ScreenSync.Decision
