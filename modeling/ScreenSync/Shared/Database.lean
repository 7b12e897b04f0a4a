/-
**The tables `devices` and `budgets`.**

The rows hold the columns that the modelled functions read or write. `Database` carries the
constraints the schema declares: the primary keys, and `uq_budget_device_date`, at most one budget
row for a device and a date. `updateBudgets` is an `UPDATE budgets SET … WHERE …` that leaves both
keys alone, `insertBudget` an insert that the database refuses when it breaks one of them, and
`budgetRows` the join of a user's devices with their budget rows for a date.
-/

import ScreenSync.Foundation.Clock
import ScreenSync.Foundation.Table
import ScreenSync.Shared.Message

namespace ScreenSync.Shared

open ScreenSync.Foundation

/-- A row of `devices`. The registration schema admits no priority below 1. -/
structure Device where
  id : DeviceId
  userId : UserId
  priority : Nat
  isOnline : Bool
  priority_pos : 1 ≤ priority
  deriving DecidableEq

/-- A row of `budgets`. -/
structure Budget where
  id : String
  deviceId : DeviceId
  date : Date
  totalBudgetSeconds : Int
  usedSeconds : Int
  rebalancedAt : Option UtcTime
  deriving DecidableEq

abbrev BudgetKey := DeviceId × Date

/-- The columns of `uq_budget_device_date`. -/
def Budget.key (b : Budget) : BudgetKey := (b.deviceId, b.date)

theorem Budget.key_eq_iff {b : Budget} {deviceId : DeviceId} {date : Date} :
    (deviceId, date) = b.key ↔ b.deviceId = deviceId ∧ b.date = date := by
  rw [Budget.key, Prod.mk.injEq, eq_comm, @eq_comm _ date]

/-- The two tables, with the constraints of the schema. -/
structure Database where
  devices : Table Device.id
  budgets : Table Budget.key
  budgetIds : (budgets.rows.map Budget.id).Nodup

namespace Database

/-- Budget rows are determined by their primary key. -/
theorem budget_eq_of_id (db : Database) {first second : Budget} (inFirst : first ∈ db.budgets.rows)
    (inSecond : second ∈ db.budgets.rows) (same : first.id = second.id) : first = second :=
  List.inj_on_of_nodup_map db.budgetIds inFirst inSecond same

/-- `UPDATE budgets SET … WHERE condition`. -/
def updateBudgets (db : Database) (condition : Budget → Prop) [DecidablePred condition]
    (set : Budget → Budget) (keeps : ∀ b, (set b).id = b.id ∧ (set b).key = b.key) : Database where
  devices := db.devices
  budgets := db.budgets.updateWhere condition set fun b => (keeps b).2
  budgetIds := by
    have same : (fun b : Budget => (if condition b then set b else b).id) = Budget.id := by
      funext b
      split
      · exact (keeps b).1
      · rfl
    simp only [Table.updateWhere, Table.update, List.map_map, Function.comp_def, same]
    exact db.budgetIds

/-- `INSERT INTO budgets`; refused when the row breaks a unique constraint. -/
def insertBudget (db : Database) (row : Budget) : Except PyError Database :=
  if fresh : db.budgets.find row.key = none ∧ row.id ∉ db.budgets.rows.map Budget.id then
    .ok
      { devices := db.devices
        budgets := db.budgets.insert row fresh.1
        budgetIds := by
          rw [Table.insert, List.map_append, List.nodup_append]
          refine ⟨db.budgetIds, List.nodup_singleton _, ?_⟩
          rintro id member other single rfl
          rw [List.map_singleton, List.mem_singleton] at single
          exact fresh.2 (single ▸ member) }
  else .error .integrityError

/-- The device of a budget row, if it is one of the user's and the row is for the date. -/
def ownerOf (db : Database) (userId : UserId) (date : Date) (key : BudgetKey) : Option Device :=
  (db.devices.find key.1).bind fun device =>
    if device.userId = userId ∧ key.2 = date then some device else none

/-- `SELECT Budget, Device … JOIN … WHERE Device.user_id = userId AND Budget.date = date`. -/
def budgetRows (db : Database) (userId : UserId) (date : Date) : List (Budget × Device) :=
  db.budgets.rows.filterMap fun budget =>
    (db.ownerOf userId date budget.key).map fun device => (budget, device)

/-- The rows after an update that was not met with a constraint. -/
@[simp] theorem updateBudgets_rows (db : Database) (condition : Budget → Prop)
    [DecidablePred condition] (set : Budget → Budget)
    (keeps : ∀ b, (set b).id = b.id ∧ (set b).key = b.key) :
    (db.updateBudgets condition set keeps).budgets.rows =
      db.budgets.rows.map fun b => if condition b then set b else b := rfl

@[simp] theorem updateBudgets_devices (db : Database) (condition : Budget → Prop)
    [DecidablePred condition] (set : Budget → Budget)
    (keeps : ∀ b, (set b).id = b.id ∧ (set b).key = b.key) :
    (db.updateBudgets condition set keeps).devices = db.devices := rfl

theorem updateBudgets_find (db : Database) (condition : Budget → Prop) [DecidablePred condition]
    (set : Budget → Budget) (keeps : ∀ b, (set b).id = b.id ∧ (set b).key = b.key)
    (key : BudgetKey) : (db.updateBudgets condition set keeps).budgets.find key =
      (db.budgets.find key).map fun b => if condition b then set b else b :=
  db.budgets.find_updateWhere condition set (fun b => (keeps b).2) key

/-- What an accepted insert leaves behind. -/
theorem insertBudget_ok {db next : Database} {row : Budget}
    (accepted : db.insertBudget row = .ok next) :
    db.budgets.find row.key = none ∧ next.devices = db.devices ∧
      next.budgets.rows = db.budgets.rows ++ [row] := by
  unfold insertBudget at accepted
  split at accepted
  · rename_i fresh
    cases accepted
    exact ⟨fresh.1, rfl, rfl⟩
  · cases accepted

theorem ownerOf_eq_some {db : Database} {userId : UserId} {date : Date} {key : BudgetKey}
    {device : Device} : db.ownerOf userId date key = some device ↔
      db.devices.find key.1 = some device ∧ device.userId = userId ∧ key.2 = date := by
  rw [ownerOf, Option.bind_eq_some_iff]
  constructor
  · rintro ⟨found, owner, kept⟩
    split at kept
    · rename_i both
      cases kept
      exact ⟨owner, both⟩
    · cases kept
  · rintro ⟨owner, both⟩
    exact ⟨device, owner, if_pos both⟩

theorem mem_budgetRows {db : Database} {userId : UserId} {date : Date} {row : Budget × Device} :
    row ∈ db.budgetRows userId date ↔
      row.1 ∈ db.budgets.rows ∧ db.ownerOf userId date row.1.key = some row.2 := by
  rw [budgetRows, List.mem_filterMap]
  constructor
  · rintro ⟨budget, member, paired⟩
    obtain ⟨device, owner, rfl⟩ := Option.map_eq_some_iff.mp paired
    exact ⟨member, owner⟩
  · rintro ⟨member, owner⟩
    exact ⟨row.1, member, by rw [owner]; rfl⟩

/-- The rows of a list that belong to a user and a date, each with its device. -/
def joined (db : Database) (userId : UserId) (date : Date) (budgets : List Budget) :
    List (Budget × Device) :=
  budgets.filterMap fun budget =>
    (db.ownerOf userId date budget.key).map fun device => (budget, device)

/-- **The join after a write** that rewrites the rows without touching their keys and appends new
ones: the old join rewritten row by row, then the new rows of the user. -/
theorem budgetRows_map_append {db next : Database} {f : Budget → Budget} {created : List Budget}
    (userId : UserId) (date : Date) (devices : next.devices = db.devices)
    (rows : next.budgets.rows = db.budgets.rows.map f ++ created)
    (keeps : ∀ b, (f b).key = b.key) :
    next.budgetRows userId date =
      (db.budgetRows userId date).map (fun row => (f row.1, row.2)) ++
        db.joined userId date created := by
  simp only [budgetRows, joined, rows, List.filterMap_append, List.filterMap_map,
    List.map_filterMap, ownerOf, devices]
  congr 1
  refine List.filterMap_congr fun budget _ => ?_
  simp only [Function.comp_apply, keeps, Option.map_map, Function.comp_def]

/-- Two databases with the same rows are the same. -/
theorem ext_rows {first second : Database} (devices : first.devices = second.devices)
    (rows : first.budgets.rows = second.budgets.rows) : first = second := by
  obtain ⟨_, ⟨_, _⟩, _⟩ := first
  obtain ⟨_, ⟨_, _⟩, _⟩ := second
  cases devices
  cases rows
  rfl

end Database

/-! ### A family with one tablet -/

def tablet : Device where
  id := "tablet"
  userId := "family"
  priority := 1
  isOnline := true
  priority_pos := le_rfl

def someDay : Date := ⟨738000, by decide⟩

def nextDay : Date := ⟨738001, by decide⟩

-- Named, so that a literal hour or minute is the same term in every module.
instance neZero_hours : NeZero 24 := ⟨by decide⟩

instance neZero_minutes : NeZero 60 := ⟨by decide⟩

/-- A time of that day. -/
def someTime (hour : Fin 24) (minute : Fin 60) : UtcTime where
  micros := 738000 * dayMicros + timeOfDay hour minute
  inRange := by
    simp only [timeOfDay, dayMicros, calendarDays]
    omega

/-- The tablet's budget for the day, a second of it left. -/
def tabletRow : Budget where
  id := "row"
  deviceId := "tablet"
  date := someDay
  totalBudgetSeconds := 7200
  usedSeconds := 7199
  rebalancedAt := none

def tabletDb : Database where
  devices := Table.empty.insert tablet rfl
  budgets := Table.empty.insert tabletRow rfl
  budgetIds := List.nodup_singleton _

end ScreenSync.Shared
