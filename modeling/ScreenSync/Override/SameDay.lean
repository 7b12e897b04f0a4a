/-
**The day that is judged and the day that is charged.**

`_validate_usage_pattern` takes the date of the instant in UTC, for the cache key and for the query.
`process_usage_event` takes `date.today()`, the date of the server's local time, and charges the row
of that date. The two dates differ for as many hours of the day as the zone is away from UTC.

* `today_eq_iff` — when the local date is the date in UTC.
* `processUsageEvent_charges` — a call charges no row but that of its device and its date.
* `charges_productive` — at every instant, some call charges the row of the local date.
* `judgesCharged_iff` — the judge reads the row that is charged exactly in the hours that are on the
  same date in both zones.
-/

import ScreenSync.Decision.Conservation
import ScreenSync.Decision.Engine
import ScreenSync.Override.Quorum

namespace ScreenSync.Override

open ScreenSync.Foundation ScreenSync.Shared ScreenSync.Decision

/-! ### The server's clock -/

/-- A reading of the server's clock: the instant, and the UTC offset of the local zone in
microseconds. The local time is in the calendar. -/
structure ServerClock where
  now : UtcTime
  utcOffset : Int
  inCalendar : 0 ≤ now.micros + utcOffset ∧ now.micros + utcOffset < calendarDays * dayMicros

/-- The local time. -/
def ServerClock.localTime (clock : ServerClock) : UtcTime where
  micros := (clock.now.micros + clock.utcOffset).toNat
  inRange := by
    have within := clock.inCalendar
    omega

/-- `date.today()`. -/
def ServerClock.today (clock : ServerClock) : Date := clock.localTime.date

/-- **The local date is the date in UTC** as long as the time of day, moved by the offset, stays
within the day. -/
theorem today_eq_iff (clock : ServerClock) :
    clock.today = clock.now.date ↔
      0 ≤ clock.now.time + clock.utcOffset ∧ clock.now.time + clock.utcOffset < dayMicros := by
  have within := clock.inCalendar.1
  have days : clock.today = clock.now.date ↔
      (clock.now.micros + clock.utcOffset).toNat / dayMicros = clock.now.micros / dayMicros :=
    ⟨congrArg Date.days, fun same => by
      unfold ServerClock.today ServerClock.localTime UtcTime.date
      simp only [same]⟩
  rw [days, UtcTime.time]
  unfold dayMicros at *
  omega

/-! ### What is judged -/

/-- The cache key that `_validate_usage_pattern` reads. -/
def patternCacheKey (deviceId : DeviceId) (now : UtcTime) : String :=
  "budget:" ++ deviceId ++ ":" ++ now.date.isoformat

/-- The row that its query names; the import of `Budget` before the query raises. -/
def patternRowKey (deviceId : DeviceId) (now : UtcTime) : BudgetKey := (deviceId, now.date)

/-- `_validate_usage_pattern`, on the cache. -/
def validateUsagePatternAt (cache : String → Option (Dict Json)) (deviceId : DeviceId)
    (now : UtcTime) : Except PyError Bool :=
  validateUsagePattern (cache (patternCacheKey deviceId now))

/-- The verdicts of a vote are taken from that read. -/
theorem validatorResults_at {call : VoteCall}
    {cache : String → Option (Dict Json)} {deviceId : DeviceId} {votes : Dict Bool}
    (read : call.cachedBudget = cache (patternCacheKey deviceId call.patternAt)) :
    validatorResults votes call =
      (validateUsagePatternAt cache deviceId call.patternAt).map fun pattern =>
        [(ValidatorKey.parent.value, validateParentApproval votes),
          (ValidatorKey.policy.value, validateTimeOfDay call.localTime),
          (ValidatorKey.pattern.value, pattern)] := by
  unfold validatorResults validateUsagePatternAt
  rw [read]
  split
  · rename_i raised failed
    rw [failed]
    rfl
  · rename_i pattern passed
    rw [passed]
    rfl

/-! ### What is charged -/

/-- The call is made at an instant. -/
structure MadeAt (clock : ServerClock) (call : UsageCall) : Prop where
  today : call.today = clock.today
  timestamp : call.timestamp = clock.now

/-- The call changes the used seconds of the row under the key. -/
def Charges (device : Device) (store : Store) (call : UsageCall) (key : BudgetKey) : Prop :=
  ∃ outcome next before after, processUsageEvent device store call = .ok (outcome, next) ∧
    store.db.budgets.find key = some before ∧ next.db.budgets.find key = some after ∧
    after.usedSeconds ≠ before.usedSeconds

variable {device : Device} {store : Store} {call : UsageCall} {key : BudgetKey}

theorem initialise_keeps {userId : UserId} {targetDate : Date} {uuid : DeviceId → String}
    {answer : List CreatedBudget × Store} {row : Budget}
    (initialised : initialiseDailyBudgets store userId targetDate uuid = .ok answer)
    (found : store.db.budgets.find key = some row) :
    answer.2.db.budgets.find key = some row := by
  unfold initialiseDailyBudgets at initialised
  cases looped : (store.db.devices.rows.filter fun device =>
      device.userId = userId ∧ device.isOnline = true).foldlM (initialiseDevice targetDate uuid)
      ([], store.db) with
  | error raised =>
    simp only [looped] at initialised
    cases initialised
  | ok final =>
    simp only [looped] at initialised
    cases initialised
    obtain ⟨created, -, appended, -⟩ := initialise_appends looped
    obtain ⟨member, own⟩ := Table.find_eq_some.mp found
    refine Table.find_eq_some.mpr ⟨?_, own⟩
    show row ∈ final.2.budgets.rows
    rw [appended]
    exact List.mem_append_left _ member

/-- The rows that were there are still there when the budget for today has been found. -/
theorem ensureBudget_keeps {budget : Option BudgetDict} {next : Store} {row : Budget}
    (ensured : ensureBudget device store call = .ok (budget, next))
    (found : store.db.budgets.find key = some row) : next.db.budgets.find key = some row := by
  unfold ensureBudget at ensured
  split at ensured
  · rename_i cached mid read
    cases ensured
    have same := getBudget_db store device.id call.today
    rw [read] at same
    rw [same, found]
  · rename_i mid read
    have same := getBudget_db store device.id call.today
    rw [read] at same
    cases initialised : initialiseDailyBudgets mid device.userId call.today call.uuid with
    | error raised =>
      rw [initialised] at ensured
      cases ensured
    | ok answer =>
      rw [initialised] at ensured
      have reread : getBudget answer.2 device.id call.today = (budget, next) :=
        Except.ok.inj ensured
      have kept := initialise_keeps initialised (same ▸ found)
      have last := getBudget_db answer.2 device.id call.today
      rw [reread] at last
      rw [last, kept]

/-- **What a call charges** is the row of its device for its date, and no other. -/
theorem processUsageEvent_charges (charged : Charges device store call key) :
    key = (device.id, call.today) := by
  obtain ⟨outcome, next, before, after, answered, found, written, changed⟩ := charged
  unfold processUsageEvent at answered
  cases ensured : ensureBudget device store call with
  | error raised =>
    rw [ensured] at answered
    cases answered
  | ok read =>
    rw [ensured] at answered
    have served : answerUsage device read.2 read.1 call = (outcome, next) :=
      Except.ok.inj answered
    let action := (evaluateRules (contextOf device call (remainingOf read.1))).action
    have stored : (deduct device read.2 read.1 call action).2 = next := congrArg Prod.snd served
    have rows := deduct_find device read.2 read.1 call action key
    rw [stored, written, ensureBudget_keeps ensured found, Option.map_some] at rows
    by_contra other
    have apart : (device.id, call.today) ≠ key := Ne.symm other
    rw [if_neg fun both => apart both.2] at rows
    exact changed (congrArg Budget.usedSeconds (Option.some.inj rows))

/-! ### A call that charges -/

/-- A row of the tablet for a date, two hours left. -/
def freshRow (date : Date) : Budget where
  id := "row"
  deviceId := tablet.id
  date := date
  totalBudgetSeconds := 7200
  usedSeconds := 0
  rebalancedAt := none

def freshStore (date : Date) : Store where
  db :=
    { devices := tabletDb.devices
      budgets := Table.empty.insert (freshRow date) rfl
      budgetIds := List.nodup_singleton _ }
  cache _ := none

/-- Two seconds of work, reported at an instant. -/
def workAt (clock : ServerClock) : UsageCall where
  appCategory := "productivity"
  rawSeconds := 2
  today := clock.today
  timestamp := clock.now
  publishedAt := clock.now
  uuid := id

/-- **At every instant, some call charges the row of the local date.** -/
theorem charges_productive (clock : ServerClock) :
    Charges tablet (freshStore clock.today) (workAt clock) (tablet.id, clock.today) := by
  have found : (freshStore clock.today).db.budgets.find (tablet.id, clock.today) =
      some (freshRow clock.today) :=
    Table.find_eq_some.mpr ⟨List.mem_singleton_self _, rfl⟩
  have coherent : Coherent (freshStore clock.today) (tablet.id, clock.today) :=
    fun entry hit => by cases hit
  obtain ⟨outcome, next, answered, charged⟩ :=
    @processUsageEvent_found tablet _ (workAt clock) _ found coherent
  have allowed : outcome.action ≠ .block := by
    rw [(charged.verdict _ found).1]
    have left : (0 : Int) < max 0 (7200 - 0) := by decide
    exact evaluateRules_productive rfl left
  have written := charged.rows (tablet.id, clock.today)
  rw [found, Option.map_some, if_pos ⟨allowed, rfl⟩] at written
  refine ⟨outcome, next, _, _, answered, found, written, ?_⟩
  have cost : outcome.effectiveCostSeconds = 1 := by
    have halved : effectiveCost "productivity" 2 = 1 := by decide +kernel
    exact charged.cost.trans halved
  show (0 : Int) + outcome.effectiveCostSeconds ≠ 0
  rw [cost]
  decide

/-! ### The judge and the charger -/

/-- The judge reads a row, whether through the cache or through the database. -/
structure Reads (deviceId : DeviceId) (now : UtcTime) (key : BudgetKey) : Prop where
  cached : patternCacheKey deviceId now = budgetCacheText key
  stored : patternRowKey deviceId now = key

/-- The row that is charged for a device at an instant is the row that is judged. -/
def JudgesCharged (clock : ServerClock) : Prop :=
  ∀ device store call key, MadeAt clock call → Charges device store call key →
    Reads device.id clock.now key

/-- **The judge reads the row that is charged** exactly in the hours that are on the same date in
both zones. -/
theorem judgesCharged_iff (clock : ServerClock) :
    JudgesCharged clock ↔
      0 ≤ clock.now.time + clock.utcOffset ∧ clock.now.time + clock.utcOffset < dayMicros := by
  rw [← today_eq_iff]
  constructor
  · intro judges
    have read := judges _ _ _ _ ⟨rfl, rfl⟩ (charges_productive clock)
    exact (congrArg Prod.snd read.stored).symm
  · intro sameDay device store call key made charged
    have row := processUsageEvent_charges charged
    rw [made.today, sameDay] at row
    subst row
    exact ⟨rfl, rfl⟩

/-- Half past eleven at night, an hour east of Greenwich. -/
def lateEvening : ServerClock where
  now := someTime 23 30
  utcOffset := 3600000000
  inCalendar := by decide

/-- The judge reads yesterday's row. -/
theorem yesterday_judged : ¬ JudgesCharged lateEvening := by
  intro judges
  have read := judges _ _ _ _ ⟨rfl, rfl⟩ (charges_productive lateEvening)
  have days := congrArg (fun key : BudgetKey => key.2.days) read.stored
  exact absurd days (by decide)

end ScreenSync.Override
