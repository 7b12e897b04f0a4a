/-
**Granted time.**

`grant_extra_time` adds to the total of a row. A row whose events have run past its total is
overdrawn, and the grant pays for that first.

* `serveEngine` — a call of `get_budget`, `initialise_daily_budgets`, `record_usage`,
  `process_usage_event`, `rebalance_budgets` or `grant_extra_time`.
* `remainingSeconds_add` — what more on the total does to what remains.
* `grant_raises` — so a grant raises what remains by its seconds less the overdraft, in every state
  of every run, and by all its seconds exactly if the row is not overdrawn.
* `grant_swallowed` — an hour for a tablet that is overdrawn.
-/

import ScreenSync.Decision.Engine
import ScreenSync.Foundation.Run

namespace ScreenSync.Decision

open ScreenSync.Foundation ScreenSync.Shared

/-! ### Runs of the engine -/

inductive EngineCall
  | get (deviceId : DeviceId) (targetDate : Date)
  | initialise (userId : UserId) (targetDate : Date) (uuid : DeviceId → String)
  | record (deviceId : DeviceId) (seconds : Int) (targetDate : Date)
  | usage (device : Device) (call : UsageCall)
  | rebalance (userId : UserId) (targetDate : Date) (now : UtcTime)
  | grant (deviceId : DeviceId) (extraSeconds : Int) (targetDate : Date)

/-- The store after a call; one that raises is rolled back. -/
def serveEngine (store : Store) : EngineCall → Store
  | .get deviceId targetDate => (getBudget store deviceId targetDate).2
  | .initialise userId targetDate uuid => serveBudget store (.initialise userId targetDate uuid)
  | .record deviceId seconds targetDate =>
    serveBudget store (.record deviceId seconds targetDate)
  | .usage device call =>
    match processUsageEvent device store call with
    | .ok (_, next) => next
    | .error _ => store
  | .rebalance userId targetDate now => serveBudget store (.rebalance userId targetDate now)
  | .grant deviceId extraSeconds targetDate =>
    serveBudget store (.grant deviceId extraSeconds targetDate)

/-! ### What a grant is worth -/

/-- The seconds a row has been used for beyond its total. -/
def overdraft (b : Budget) : Int := max 0 (b.usedSeconds - b.totalBudgetSeconds)

/-- **More on the total** pays for the overdraft first. -/
theorem remainingSeconds_add (b : Budget) {extraSeconds : Int} (positive : 0 < extraSeconds) :
    remainingSeconds { b with totalBudgetSeconds := b.totalBudgetSeconds + extraSeconds } =
      remainingSeconds b + max 0 (extraSeconds - overdraft b) := by
  simp only [remainingSeconds, overdraft]
  omega

theorem raised_by_all_iff (b : Budget) {extraSeconds : Int} (positive : 0 < extraSeconds) :
    remainingSeconds b + max 0 (extraSeconds - overdraft b) = remainingSeconds b + extraSeconds ↔
      b.usedSeconds ≤ b.totalBudgetSeconds := by
  simp only [overdraft]
  omega

/-- **What a grant writes and answers.** -/
theorem grantExtraTime_found {store : Store} {deviceId : DeviceId} {targetDate : Date} {b : Budget}
    (found : store.db.budgets.find (deviceId, targetDate) = some b) (extraSeconds : Int) :
    (grantExtraTime store deviceId extraSeconds targetDate).1 =
        some (budgetToDict
          { b with totalBudgetSeconds := b.totalBudgetSeconds + extraSeconds }) ∧
      (grantExtraTime store deviceId extraSeconds targetDate).2.db.budgets.find
          (deviceId, targetDate) =
        some { b with totalBudgetSeconds := b.totalBudgetSeconds + extraSeconds } := by
  have own : b.deviceId = deviceId ∧ b.date = targetDate :=
    Budget.key_eq_iff.mp (Table.find_eq_some.mp found).2.symm
  have written : (store.db.updateBudgets (fun b => b.deviceId = deviceId ∧ b.date = targetDate)
      (fun b => { b with totalBudgetSeconds := b.totalBudgetSeconds + extraSeconds })
      fun _ => ⟨rfl, rfl⟩).budgets.find (deviceId, targetDate) =
        some { b with totalBudgetSeconds := b.totalBudgetSeconds + extraSeconds } := by
    rw [Database.updateBudgets_find, found, Option.map_some, if_pos own]
  constructor
  · refine (getBudget_fst (forget_coherent _ (deviceId, targetDate))).trans ?_
    rw [forget_db, written]
    rfl
  · rw [grantExtraTime, getBudget_db, forget_db, written]

/-! ### Every state of every run -/

/-- **A grant raises what remains by its seconds less the overdraft**, and by all of them exactly if
there is none. -/
theorem grant_raises (devices : Table Device.id) (cache : BudgetKey → Option BudgetDict)
    (calls : List EngineCall) {deviceId : DeviceId} {targetDate : Date} {b : Budget}
    (found : (run serveEngine (.start devices cache) calls).db.budgets.find
      (deviceId, targetDate) = some b) {extraSeconds : Int} (positive : 0 < extraSeconds) :
    ∃ raised,
      (grantExtraTime (run serveEngine (.start devices cache) calls) deviceId extraSeconds
          targetDate).1 = some (budgetToDict raised) ∧
        (serveEngine (run serveEngine (.start devices cache) calls)
          (.grant deviceId extraSeconds targetDate)).db.budgets.find (deviceId, targetDate) =
            some raised ∧
        remainingSeconds raised = remainingSeconds b + max 0 (extraSeconds - overdraft b) ∧
        (remainingSeconds raised = remainingSeconds b + extraSeconds ↔
          b.usedSeconds ≤ b.totalBudgetSeconds) := by
  obtain ⟨answer, written⟩ := grantExtraTime_found found extraSeconds
  have raises := remainingSeconds_add b positive
  refine ⟨_, answer, written, raises, ?_⟩
  rw [raises]
  exact raised_by_all_iff b positive

/-! ### An overdrawn tablet -/

/-- Three hours of work on a budget of two. -/
def threeHours : UsageCall where
  appCategory := "unknown"
  rawSeconds := 10800
  today := someDay
  timestamp := someTime 12 30
  publishedAt := someTime 12 30
  uuid := id

/-- A day of the tablet on which it runs an hour past its total. -/
def overdrawnDay : List EngineCall := [.initialise "family" someDay id, .usage tablet threeHours]

/-- The tablet's row at the end of it. -/
def overdrawnRow : Budget :=
  { tabletRow with id := "tablet", usedSeconds := 10800 }

theorem overdrawnDay_found :
    (run serveEngine (.start tabletDb.devices fun _ => none) overdrawnDay).db.budgets.find
      ("tablet", someDay) = some overdrawnRow := by
  decide +kernel

theorem grant_raises_overdrawn :
    ∃ raised,
      (grantExtraTime (run serveEngine (.start tabletDb.devices fun _ => none) overdrawnDay)
          "tablet" 5400 someDay).1 = some (budgetToDict raised) ∧
        (serveEngine (run serveEngine (.start tabletDb.devices fun _ => none) overdrawnDay)
          (.grant "tablet" 5400 someDay)).db.budgets.find ("tablet", someDay) = some raised ∧
        remainingSeconds raised =
          remainingSeconds overdrawnRow + max 0 (5400 - overdraft overdrawnRow) ∧
        (remainingSeconds raised = remainingSeconds overdrawnRow + 5400 ↔
          overdrawnRow.usedSeconds ≤ overdrawnRow.totalBudgetSeconds) :=
  grant_raises tabletDb.devices (fun _ => none) overdrawnDay overdrawnDay_found (by decide)

/-- An hour is granted, and nothing remains. -/
theorem grant_swallowed :
    (run serveEngine (.start tabletDb.devices fun _ => none) overdrawnDay).db.budgets.find
        ("tablet", someDay) = some overdrawnRow ∧
      ((serveEngine (run serveEngine (.start tabletDb.devices fun _ => none) overdrawnDay)
        (.grant "tablet" 3600 someDay)).db.budgets.find ("tablet", someDay)).map
          remainingSeconds = some 0 ∧
      remainingSeconds overdrawnRow + 3600 = 3600 := by
  decide +kernel

end ScreenSync.Decision
