/-
**Enforcement accounting.**

Any sequence of usage events on a device that has a row for their day. Each event leaves an entry:
the cost it charged to the row, or nothing when it was blocked. With these entries the row is a
gated counter, since the rules block whenever nothing remains.

* `served_row`, `served_gated` — the row after a run, and the gate, from `ChargedBy`.
* `usage_accounted` — at every point of a run: the row has used exactly the costs of the events
  that were not blocked, its overdraft is less than the last of them, and once the total is
  reached every event is blocked and the row stands still.
* `warned_before_exhausted` — the event that takes the last of the budget costs at least what
  remains, so it is answered with a warning.
-/

import ScreenSync.Foundation.Meter
import ScreenSync.Decision.Engine

namespace ScreenSync.Decision

open ScreenSync.Foundation ScreenSync.Shared

/-! ### Entries -/

/-- What an answered call charges to the device's row for a date. -/
def entryFor (date : Date) (call : UsageCall) (outcome : UsageOutcome) : Option Int :=
  if outcome.action ≠ .block ∧ call.today = date then some outcome.effectiveCostSeconds else none

/-- The costs of the calls that were not blocked. -/
def chargedCosts (calls : List UsageCall) (outcomes : List UsageOutcome) : List Int :=
  ((calls.zip outcomes).filter fun served => served.2.action ≠ .block).map fun served =>
    effectiveCost served.1.appCategory served.1.rawSeconds

variable {device : Device} {store next final : Store} {calls : List UsageCall}
  {outcomes : List UsageOutcome}

theorem ChargedBy.find_row {call : UsageCall} {outcome : UsageOutcome}
    (charged : ChargedBy device store call outcome next) {date : Date} {row : Budget}
    (found : store.db.budgets.find (device.id, date) = some row) :
    next.db.budgets.find (device.id, date) =
      some { row with usedSeconds := settle row.usedSeconds (entryFor date call outcome) } := by
  rw [charged.rows, found, Option.map_some, entryFor]
  by_cases taken : outcome.action ≠ .block ∧ call.today = date
  · rw [if_pos taken, if_pos ⟨taken.1, by rw [taken.2]⟩]
    rfl
  · rw [if_neg taken, if_neg fun both => taken ⟨both.1, (Prod.mk.inj both.2).2⟩]
    rfl

/-- **The row after a run.** -/
theorem served_row (chain : Served (ChargedBy device) store calls outcomes final) {date : Date}
    {row : Budget} (found : store.db.budgets.find (device.id, date) = some row) :
    final.db.budgets.find (device.id, date) =
      some { row with
        usedSeconds :=
          run settle row.usedSeconds (List.zipWith (entryFor date) calls outcomes) } := by
  induction chain generalizing row with
  | nil => exact found
  | cons charged _ ih =>
    rw [ih (charged.find_row found)]
    rfl

/-- **The gate**: when the total is used up, a call charges nothing. -/
theorem served_gated (chain : Served (ChargedBy device) store calls outcomes final) {date : Date}
    {row : Budget} (found : store.db.budgets.find (device.id, date) = some row) :
    Gated row.totalBudgetSeconds row.usedSeconds (List.zipWith (entryFor date) calls outcomes) := by
  induction chain generalizing row with
  | nil => exact .nil _ _
  | @cons store next final call outcome later answers charged _ ih =>
    refine meets_cons.mpr ⟨fun spent => ?_, ih (charged.find_row found)⟩
    refine if_neg fun both => both.1 ?_
    obtain ⟨action, -⟩ := charged.verdict row (both.2 ▸ found)
    rw [action]
    exact evaluateRules_exhausted (max_le le_rfl (sub_nonpos.mpr spent))

/-- On a single day the entries are the costs of the calls that were not blocked. -/
theorem served_costs (chain : Served (ChargedBy device) store calls outcomes final)
    {date : Date} (sameDay : ∀ call ∈ calls, call.today = date) :
    (List.zipWith (entryFor date) calls outcomes).reduceOption = chargedCosts calls outcomes := by
  induction chain with
  | nil => rfl
  | @cons store next final call outcome later answers charged _ ih =>
    have rest := ih fun other member => sameDay other (List.mem_cons_of_mem _ member)
    have today := sameDay call List.mem_cons_self
    rw [List.zipWith_cons_cons, chargedCosts, List.zip_cons_cons, List.filter_cons]
    by_cases taken : outcome.action ≠ .block
    · rw [entryFor, if_pos ⟨taken, today⟩, List.reduceOption_cons_of_some, rest, charged.cost,
        if_pos (decide_eq_true taken)]
      rfl
    · rw [entryFor, if_neg fun both => taken both.1, List.reduceOption_cons_of_none, rest,
        if_neg (by simpa using taken)]
      rfl

/-- Where no entry charges, every event was blocked. -/
theorem served_blocked (chain : Served (ChargedBy device) store calls outcomes final) {date : Date}
    (sameDay : ∀ call ∈ calls, call.today = date)
    (refused : ∀ entry ∈ List.zipWith (entryFor date) calls outcomes, entry = none) :
    ∀ outcome ∈ outcomes, outcome.action = .block := by
  induction chain with
  | nil => exact fun outcome member => (by cases member)
  | @cons store next final call outcome later answers charged _ ih =>
    rw [List.zipWith_cons_cons] at refused
    obtain ⟨first, rest⟩ := List.forall_mem_cons.mp refused
    refine List.forall_mem_cons.mpr
      ⟨?_, ih (fun other member => sameDay other (List.mem_cons_of_mem _ member)) rest⟩
    by_contra taken
    rw [entryFor, if_pos ⟨taken, sameDay call List.mem_cons_self⟩] at first
    cases first

/-! ### A tablet with a second left -/

/-- Ten minutes of some category at half past twelve. -/
def tenMinutes (appCategory : String) : UsageCall where
  appCategory := appCategory
  rawSeconds := 600
  today := someDay
  timestamp := someTime 12 30
  publishedAt := someTime 12 30
  uuid := id

theorem tabletStore_found : tabletStore.db.budgets.find (tablet.id, someDay) = some tabletRow := by
  decide

theorem tabletStore_coherent : Coherent tabletStore (tablet.id, someDay) :=
  fun _ hit => (by cases hit)

/-! ### Whole runs -/

/-- The device has a row for each of the dates, and what is cached of it is current. -/
def Budgeted (device : Device) (dates : Date → Prop) (store : Store) : Prop :=
  ∀ date, dates date →
    (∃ row, store.db.budgets.find (device.id, date) = some row) ∧ Coherent store (device.id, date)

/-- A run on dates that have a row never raises. -/
theorem serve_usage {dates : Date → Prop} (budgeted : Budgeted device dates store)
    (days : ∀ call ∈ calls, dates call.today) :
    ∃ outcomes final, serve (processUsageEvent device) store calls = .ok (outcomes, final) ∧
      Budgeted device dates final ∧ Served (ChargedBy device) store calls outcomes final := by
  refine serve_total _ (fun store call budgeted day => ?_) budgeted days
  obtain ⟨⟨row, found⟩, coherent⟩ := budgeted call.today day
  obtain ⟨outcome, next, answered, charged⟩ := processUsageEvent_found found coherent
  refine ⟨outcome, next, answered, fun date inDates => ?_, charged⟩
  obtain ⟨⟨other, there⟩, kept⟩ := budgeted date inDates
  exact ⟨⟨_, charged.find_row there⟩, charged.coherent _ kept⟩

/-- The account of a run of usage events between two states of the row for the day. -/
structure UsageAccount (row : Budget) (calls : List UsageCall) (outcomes : List UsageOutcome)
    (after : Budget) : Prop where
  total : after.totalBudgetSeconds = row.totalBudgetSeconds
  used : after.usedSeconds = row.usedSeconds + (chargedCosts calls outcomes).sum
  overdraft : row.usedSeconds < row.totalBudgetSeconds →
    after.totalBudgetSeconds < after.usedSeconds →
      ∃ last, (chargedCosts calls outcomes).getLast? = some last ∧
        after.usedSeconds - after.totalBudgetSeconds < last
  closed : row.totalBudgetSeconds ≤ row.usedSeconds →
    after.usedSeconds = row.usedSeconds ∧ ∀ outcome ∈ outcomes, outcome.action = .block

theorem served_account (chain : Served (ChargedBy device) store calls outcomes final) {day : Date}
    {row : Budget} (found : store.db.budgets.find (device.id, day) = some row)
    (sameDay : ∀ call ∈ calls, call.today = day) :
    ∃ after, final.db.budgets.find (device.id, day) = some after ∧
      UsageAccount row calls outcomes after := by
  have gated := served_gated chain found
  have costs := served_costs chain sameDay
  refine ⟨_, served_row chain found, rfl, ?_, fun below exceeded => ?_, fun reached => ?_⟩
  · rw [run_settle, costs]
  · rw [← costs]
    exact overdraft_lt gated below exceeded
  · obtain ⟨same, refused⟩ := closed_of_limit_le gated reached
    exact ⟨same, served_blocked chain sameDay refused⟩

/-- **Enforcement accounting.** For a device with a row for the day, every run of usage events on
that day answers; the account holds of the run, and of both of its parts at every point. -/
theorem usage_accounted (device : Device) (store : Store) (day : Date) (row : Budget)
    (calls : List UsageCall) (found : store.db.budgets.find (device.id, day) = some row)
    (coherent : Coherent store (device.id, day)) (sameDay : ∀ call ∈ calls, call.today = day) :
    ∃ outcomes final after,
      serve (processUsageEvent device) store calls = .ok (outcomes, final) ∧
        final.db.budgets.find (device.id, day) = some after ∧
        UsageAccount row calls outcomes after ∧
        ∀ first second, calls = first ++ second → ∃ early late mid between,
          serve (processUsageEvent device) store first = .ok (early, mid) ∧
            mid.db.budgets.find (device.id, day) = some between ∧
            outcomes = early ++ late ∧ UsageAccount row first early between ∧
            UsageAccount between second late after := by
  have budgeted : Budgeted device (· = day) store := by
    rintro date rfl
    exact ⟨⟨row, found⟩, coherent⟩
  obtain ⟨outcomes, final, answered, -, chain⟩ := serve_usage budgeted sameDay
  obtain ⟨after, there, account⟩ := served_account chain found sameDay
  refine ⟨outcomes, final, after, answered, there, account, ?_⟩
  rintro first second rfl
  obtain ⟨beforeDay, afterDay⟩ := List.forall_mem_append.mp sameDay
  obtain ⟨early, mid, opening, still, chainFirst⟩ := serve_usage budgeted beforeDay
  obtain ⟨late, last, closing, -, chainSecond⟩ := serve_usage still afterDay
  obtain ⟨between, here, accountFirst⟩ := served_account chainFirst found beforeDay
  obtain ⟨ended, done, accountSecond⟩ := served_account chainSecond here afterDay
  have whole := answered.symm.trans (serve_append opening closing)
  cases whole
  cases there.symm.trans done
  exact ⟨early, late, mid, between, opening, here, rfl, accountFirst, accountSecond⟩

theorem usage_accounted_tablet :
    ∃ outcomes final after,
      serve (processUsageEvent tablet) tabletStore
          [tenMinutes "entertainment", tenMinutes "productivity"] = .ok (outcomes, final) ∧
        final.db.budgets.find (tablet.id, someDay) = some after ∧
        UsageAccount tabletRow [tenMinutes "entertainment", tenMinutes "productivity"] outcomes
          after := by
  obtain ⟨outcomes, final, after, answered, found, account, -⟩ :=
    usage_accounted tablet tabletStore someDay tabletRow
      [tenMinutes "entertainment", tenMinutes "productivity"] tabletStore_found
      tabletStore_coherent (by simp [tenMinutes])
  exact ⟨outcomes, final, after, answered, found, account⟩

/-! ### No cut-off without a warning -/

/-- **The event that takes the last of a row** is answered with a warning: it is not blocked, since
it charges, and not simply allowed, since it costs at least what remains. -/
theorem ChargedBy.warned {call : UsageCall} {outcome : UsageOutcome}
    (charged : ChargedBy device store call outcome next) {date : Date} {row : Budget}
    (found : store.db.budgets.find (device.id, date) = some row)
    (room : row.usedSeconds < row.totalBudgetSeconds) {cost : Int}
    (entry : entryFor date call outcome = some cost)
    (enough : row.totalBudgetSeconds - row.usedSeconds ≤ cost) : outcome.action = .warn := by
  rw [entryFor] at entry
  split at entry
  · rename_i taken
    cases entry
    obtain ⟨notBlocked, rfl⟩ := taken
    obtain ⟨verdict, -⟩ := charged.verdict row found
    have positive : 0 < row.totalBudgetSeconds - row.usedSeconds := sub_pos.mpr room
    have remaining : remainingSeconds row = row.totalBudgetSeconds - row.usedSeconds :=
      max_eq_right positive.le
    have notAllowed : outcome.action ≠ .allow := by
      rw [verdict, remaining]
      exact evaluateRules_ne_allow positive (charged.cost ▸ enough)
    cases action : outcome.action with
    | allow => exact absurd action notAllowed
    | warn => rfl
    | block => exact absurd action notBlocked
  · cases entry

/-- A run that uses up a row has an event that was answered with a warning. -/
theorem served_warned (chain : Served (ChargedBy device) store calls outcomes final) {date : Date}
    {row after : Budget} (found : store.db.budgets.find (device.id, date) = some row)
    (below : row.usedSeconds < row.totalBudgetSeconds)
    (there : final.db.budgets.find (device.id, date) = some after)
    (spent : remainingSeconds after ≤ 0) : ∃ outcome ∈ outcomes, outcome.action = .warn := by
  cases there.symm.trans (served_row chain found)
  have reached : row.totalBudgetSeconds ≤
      run settle row.usedSeconds (List.zipWith (entryFor date) calls outcomes) :=
    sub_nonpos.mp ((le_max_right _ _).trans spent)
  obtain ⟨before, cost, later, split, room, enough⟩ := exists_crossing below reached
  obtain ⟨first, call, second, early, outcome, late, mid, next, rfl, rfl, opening, charged, rfl,
    entry⟩ := chain.split_entry split
  exact ⟨outcome, List.mem_append_right _ List.mem_cons_self,
    charged.warned (served_row opening found) room entry enough⟩

/-- **A device is never cut off without a warning.** A run of usage events whose days all start with
something left of their budget always answers, and an event that is blocked because the budget is
exhausted comes after one that was answered with a warning. -/
theorem warned_before_exhausted (device : Device) (store : Store) (calls : List UsageCall)
    (coherent : ∀ call ∈ calls, Coherent store (device.id, call.today))
    (below : ∀ call ∈ calls, ∃ row, store.db.budgets.find (device.id, call.today) = some row ∧
      row.usedSeconds < row.totalBudgetSeconds) :
    ∃ outcomes final, serve (processUsageEvent device) store calls = .ok (outcomes, final) ∧
      ∀ early outcome late, outcomes = early ++ outcome :: late → outcome.action = .block →
        outcome.reason = "budget_exhausted" → ∃ warned ∈ early, warned.action = .warn := by
  have budgeted : Budgeted device (fun date => ∃ call ∈ calls, call.today = date) store := by
    rintro date ⟨call, member, rfl⟩
    obtain ⟨row, found, -⟩ := below call member
    exact ⟨⟨row, found⟩, coherent call member⟩
  obtain ⟨outcomes, final, answered, -, chain⟩ :=
    serve_usage budgeted fun call member => ⟨call, member, rfl⟩
  refine ⟨outcomes, final, answered, fun early outcome late split _ exhausted => ?_⟩
  obtain ⟨first, call, second, before, last, after, mid, next, rfl, -, opening, charged, same,
    rfl⟩ :=
    chain.split_entry (chain.zipWith_answers.trans split)
  obtain rfl : before = early := opening.zipWith_answers.symm.trans same
  obtain ⟨row, found, less⟩ :=
    below call (List.mem_append_right _ List.mem_cons_self)
  have here := served_row opening found
  obtain ⟨-, reason⟩ := charged.verdict _ here
  exact served_warned opening found less here
    (remaining_le_of_budget_exhausted (reason.symm.trans exhausted))

theorem warned_before_exhausted_tablet :
    ∃ outcomes final,
      serve (processUsageEvent tablet) tabletStore
          [tenMinutes "entertainment", tenMinutes "productivity"] = .ok (outcomes, final) ∧
        ∀ early outcome late, outcomes = early ++ outcome :: late → outcome.action = .block →
          outcome.reason = "budget_exhausted" → ∃ warned ∈ early, warned.action = .warn :=
  warned_before_exhausted tablet tabletStore
    [tenMinutes "entertainment", tenMinutes "productivity"]
    (by simpa [tenMinutes] using tabletStore_coherent)
    (by simpa [tenMinutes] using ⟨tabletRow, tabletStore_found, by decide⟩)

end ScreenSync.Decision
