/-
**`decision_engine/budget.py`: daily budgets.**

A `Store` is the database and the budget cache, read as the module uses it: dictionaries under the
key of a device and a date, with `get`, `set` and `delete` that return normally. Every function is
run to completion.

* `initialiseDailyBudgets` creates a row for every online device of a user that has none;
* `getBudget` answers from the cache, else from the table, and then fills the cache;
* `recordUsage` and `grantExtraTime` are one relative `UPDATE` each, followed by a cache delete;
* `rebalanceBudgets` pools what is unspent and hands it out by priority.

`serve` runs one `BudgetCall`; a call that raises leaves the store alone. `Coherent` says that every
cached entry shows the current row; reads, charges and grants keep it (`getBudget_coherent`,
`recordUsage_coherent`).
-/

import Mathlib.Data.Rat.Floor
import ScreenSync.Foundation.Share
import ScreenSync.Shared.Database

namespace ScreenSync.Decision

open ScreenSync.Foundation ScreenSync.Shared

/-! ### The store -/

/-- What `_budget_to_dict` returns. -/
structure BudgetDict where
  id : String
  deviceId : DeviceId
  date : String
  totalBudgetSeconds : Int
  usedSeconds : Int
  remainingSeconds : Int
  rebalancedAt : Option String
  deriving DecidableEq

def budgetToDict (budget : Budget) : BudgetDict where
  id := budget.id
  deviceId := budget.deviceId
  date := budget.date.isoformat
  totalBudgetSeconds := budget.totalBudgetSeconds
  usedSeconds := budget.usedSeconds
  remainingSeconds := max 0 (budget.totalBudgetSeconds - budget.usedSeconds)
  rebalancedAt := budget.rebalancedAt.map UtcTime.isoformat

/-- What remains of a row. -/
def remainingSeconds (b : Budget) : Int := max 0 (b.totalBudgetSeconds - b.usedSeconds)

/-- The database and the budget cache. -/
structure Store where
  db : Database
  cache : BudgetKey → Option BudgetDict

/-- `_budget_cache_key`, as the pair that the text `budget:{device_id}:{date}` spells out. -/
def budgetCacheKey (deviceId : DeviceId) (date : Date) : BudgetKey := (deviceId, date)

/-- That text. -/
def budgetCacheText (key : BudgetKey) : String := "budget:" ++ key.1 ++ ":" ++ key.2.isoformat

/-- `redis_client.delete`. -/
def Store.forget (store : Store) (key : BudgetKey) : Store :=
  { store with cache := Function.update store.cache key none }

/-! ### Initialisation -/

/-- 2 hours per device. -/
def defaultDailyBudgetSeconds : Int := 2 * 3600

def priorityAdjustedBudget (priority : Nat) : Int :=
  let base := defaultDailyBudgetSeconds
  let bonusPerPoint := 720
  base + ((priority : Int) - 1) * bonusPerPoint

/-- An entry of the list `initialise_daily_budgets` returns. -/
structure CreatedBudget where
  deviceId : DeviceId
  totalBudgetSeconds : Int

/-- The row a device starts a day with. -/
def initialBudget (device : Device) (targetDate : Date) (uuid : DeviceId → String) : Budget where
  id := uuid device.id
  deviceId := device.id
  date := targetDate
  totalBudgetSeconds := priorityAdjustedBudget device.priority
  usedSeconds := 0
  rebalancedAt := none

/-- One turn of the loop over the devices. -/
def initialiseDevice (targetDate : Date) (uuid : DeviceId → String)
    (soFar : List CreatedBudget × Database) (device : Device) :
    Except PyError (List CreatedBudget × Database) :=
  match soFar.2.budgets.find (device.id, targetDate) with
  | some _ => .ok soFar
  | none => do
    let budget := initialBudget device targetDate uuid
    let db ← soFar.2.insertBudget budget
    return (soFar.1 ++ [⟨device.id, budget.totalBudgetSeconds⟩], db)

/-- `initialise_daily_budgets`; `uuid` is the primary key drawn for the row of each device. -/
def initialiseDailyBudgets (store : Store) (userId : UserId) (targetDate : Date)
    (uuid : DeviceId → String) : Except PyError (List CreatedBudget × Store) := do
  let devices := store.db.devices.rows.filter fun device =>
    device.userId = userId ∧ device.isOnline = true
  let (created, db) ← devices.foldlM (initialiseDevice targetDate uuid) ([], store.db)
  return (created, { store with db })

/-! ### Reads -/

/-- `get_budget`: the cache first, then the table. -/
def getBudget (store : Store) (deviceId : DeviceId) (targetDate : Date) :
    Option BudgetDict × Store :=
  let cacheKey := budgetCacheKey deviceId targetDate
  match store.cache cacheKey with
  | some cached => (some cached, store)
  | none =>
    match store.db.budgets.find (deviceId, targetDate) with
    | none => (none, store)
    | some budget =>
      let data := budgetToDict budget
      (some data, { store with cache := Function.update store.cache cacheKey (some data) })

/-! ### Writes -/

/-- `record_usage`. -/
def recordUsage (store : Store) (deviceId : DeviceId) (seconds : Int) (targetDate : Date) :
    Option BudgetDict × Store :=
  let db := store.db.updateBudgets (fun b => b.deviceId = deviceId ∧ b.date = targetDate)
    (fun b => { b with usedSeconds := b.usedSeconds + seconds }) fun _ => ⟨rfl, rfl⟩
  getBudget ({ store with db }.forget (budgetCacheKey deviceId targetDate)) deviceId targetDate

/-- `grant_extra_time`. -/
def grantExtraTime (store : Store) (deviceId : DeviceId) (extraSeconds : Int) (targetDate : Date) :
    Option BudgetDict × Store :=
  let db := store.db.updateBudgets (fun b => b.deviceId = deviceId ∧ b.date = targetDate)
    (fun b => { b with totalBudgetSeconds := b.totalBudgetSeconds + extraSeconds })
    fun _ => ⟨rfl, rfl⟩
  getBudget ({ store with db }.forget (budgetCacheKey deviceId targetDate)) deviceId targetDate

/-- An entry of the list `rebalance_budgets` returns. -/
structure RebalancedBudget where
  deviceId : DeviceId
  newTotalBudgetSeconds : Int
  deriving DecidableEq

/-- The unspent seconds of a list of rows. -/
def totalPool (rows : List (Budget × Device)) : Int :=
  (rows.map fun row => max 0 (row.1.totalBudgetSeconds - row.1.usedSeconds)).sum

/-- The priorities of a list of rows, those of exhausted devices included. -/
def totalPriority (rows : List (Budget × Device)) : Nat := (rows.map fun row => row.2.priority).sum

/-- `int(total_pool * (device.priority / total_priority))`. -/
def rebalanceShare (pool : Int) (priorities : Nat) (device : Device) : Int :=
  truncate ((pool : ℚ) * ((device.priority : ℚ) / (priorities : ℚ)))

/-- Whether the loop only stamps a row. -/
def Exhausted (budget : Budget) : Prop := budget.totalBudgetSeconds ≤ budget.usedSeconds

instance (budget : Budget) : Decidable (Exhausted budget) :=
  inferInstanceAs (Decidable (_ ≤ _))

/-- The total an active row is given. -/
def newTotal (pool : Int) (priorities : Nat) (row : Budget × Device) : Int :=
  row.1.usedSeconds + rebalanceShare pool priorities row.2

/-- The values the loop sets for a row it has read. -/
def rebalanceValues (pool : Int) (priorities : Nat) (now : UtcTime) (row : Budget × Device)
    (stored : Budget) : Budget :=
  if Exhausted row.1 then { stored with rebalancedAt := some now }
  else { stored with totalBudgetSeconds := newTotal pool priorities row, rebalancedAt := some now }

theorem rebalanceValues_keeps (pool : Int) (priorities : Nat) (now : UtcTime)
    (row : Budget × Device) (stored : Budget) :
    (rebalanceValues pool priorities now row stored).id = stored.id ∧
      (rebalanceValues pool priorities now row stored).key = stored.key := by
  unfold rebalanceValues
  split <;> exact ⟨rfl, rfl⟩

/-- One turn of the loop over the rows. -/
def rebalanceRow (pool : Int) (priorities : Nat) (now : UtcTime) (targetDate : Date)
    (soFar : List RebalancedBudget × Store) (row : Budget × Device) :
    List RebalancedBudget × Store :=
  let (updated, store) := soFar
  let written := { store with
    db := store.db.updateBudgets (fun b => b.id = row.1.id)
      (rebalanceValues pool priorities now row)
      (rebalanceValues_keeps pool priorities now row) }
  if Exhausted row.1 then (updated, written)
  else (updated ++ [⟨row.2.id, newTotal pool priorities row⟩],
    written.forget (budgetCacheKey row.2.id targetDate))

/-- `rebalance_budgets`. -/
def rebalanceBudgets (store : Store) (userId : UserId) (targetDate : Date) (now : UtcTime) :
    List RebalancedBudget × Store :=
  let rows := store.db.budgetRows userId targetDate
  if rows = [] then ([], store)
  else rows.foldl (rebalanceRow (totalPool rows) (totalPriority rows) now targetDate) ([], store)

/-! ### Calls -/

/-- A call of one of the functions that write budgets. -/
inductive BudgetCall
  | initialise (userId : UserId) (targetDate : Date) (uuid : DeviceId → String)
  | record (deviceId : DeviceId) (seconds : Int) (targetDate : Date)
  | rebalance (userId : UserId) (targetDate : Date) (now : UtcTime)
  | grant (deviceId : DeviceId) (extraSeconds : Int) (targetDate : Date)

/-- The store after a call; one that raises is rolled back. -/
def serveBudget (store : Store) : BudgetCall → Store
  | .initialise userId targetDate uuid =>
    match initialiseDailyBudgets store userId targetDate uuid with
    | .ok (_, next) => next
    | .error _ => store
  | .record deviceId seconds targetDate => (recordUsage store deviceId seconds targetDate).2
  | .rebalance userId targetDate now => (rebalanceBudgets store userId targetDate now).2
  | .grant deviceId extraSeconds targetDate =>
    (grantExtraTime store deviceId extraSeconds targetDate).2

/-- A store without budget rows, over some devices and with some cache. -/
def Store.start (devices : Table Device.id) (cache : BudgetKey → Option BudgetDict) : Store where
  db := { devices, budgets := .empty, budgetIds := List.nodup_nil }
  cache

/-! ### What the functions do to the tables -/

/-- Reading a budget writes nothing but the cache. -/
@[simp] theorem getBudget_db (store : Store) (deviceId : DeviceId) (targetDate : Date) :
    (getBudget store deviceId targetDate).2.db = store.db := by
  simp only [getBudget]
  split
  · rfl
  · split <;> rfl

@[simp] theorem forget_db (store : Store) (key : BudgetKey) : (store.forget key).db = store.db :=
  rfl

theorem forget_cache (store : Store) (key name : BudgetKey) :
    (store.forget key).cache name = if name = key then none else store.cache name :=
  Function.update_apply ..

@[simp] theorem recordUsage_devices (store : Store) (deviceId : DeviceId) (seconds : Int)
    (targetDate : Date) :
    (recordUsage store deviceId seconds targetDate).2.db.devices = store.db.devices := by
  rw [recordUsage, getBudget_db, forget_db, Database.updateBudgets_devices]

@[simp] theorem grantExtraTime_devices (store : Store) (deviceId : DeviceId) (extraSeconds : Int)
    (targetDate : Date) :
    (grantExtraTime store deviceId extraSeconds targetDate).2.db.devices = store.db.devices := by
  rw [grantExtraTime, getBudget_db, forget_db, Database.updateBudgets_devices]

theorem recordUsage_rows (store : Store) (deviceId : DeviceId) (seconds : Int) (targetDate : Date) :
    (recordUsage store deviceId seconds targetDate).2.db.budgets.rows =
      store.db.budgets.rows.map fun b =>
        if b.deviceId = deviceId ∧ b.date = targetDate then
          { b with usedSeconds := b.usedSeconds + seconds }
        else b := by
  rw [recordUsage, getBudget_db, forget_db, Database.updateBudgets_rows]

theorem grantExtraTime_rows (store : Store) (deviceId : DeviceId) (extraSeconds : Int)
    (targetDate : Date) :
    (grantExtraTime store deviceId extraSeconds targetDate).2.db.budgets.rows =
      store.db.budgets.rows.map fun b =>
        if b.deviceId = deviceId ∧ b.date = targetDate then
          { b with totalBudgetSeconds := b.totalBudgetSeconds + extraSeconds }
        else b := by
  rw [grantExtraTime, getBudget_db, forget_db, Database.updateBudgets_rows]

theorem recordUsage_find (store : Store) (deviceId : DeviceId) (seconds : Int) (targetDate : Date)
    (key : BudgetKey) :
    (recordUsage store deviceId seconds targetDate).2.db.budgets.find key =
      (store.db.budgets.find key).map fun b =>
        if (deviceId, targetDate) = key then { b with usedSeconds := b.usedSeconds + seconds }
        else b := by
  rw [recordUsage, getBudget_db, forget_db, Database.updateBudgets_find]
  cases found : store.db.budgets.find key with
  | none => rfl
  | some b =>
    obtain ⟨-, rfl⟩ := Table.find_eq_some.mp found
    simp only [Option.map_some, Budget.key_eq_iff]

/-- The database side of one turn of the rebalancing loop. -/
theorem rebalanceRow_db (pool : Int) (priorities : Nat) (now : UtcTime) (targetDate : Date)
    (soFar : List RebalancedBudget × Store) (row : Budget × Device) :
    (rebalanceRow pool priorities now targetDate soFar row).2.db =
      soFar.2.db.updateBudgets (fun b => b.id = row.1.id) (rebalanceValues pool priorities now row)
        (rebalanceValues_keeps pool priorities now row) := by
  simp only [rebalanceRow]
  split <;> rfl

@[simp] theorem rebalanceBudgets_devices (store : Store) (userId : UserId) (targetDate : Date)
    (now : UtcTime) :
    (rebalanceBudgets store userId targetDate now).2.db.devices = store.db.devices := by
  rw [rebalanceBudgets]
  split
  · rfl
  · refine List.foldlRecOn (motive := fun soFar : List RebalancedBudget × Store =>
      soFar.2.db.devices = store.db.devices) _ _ rfl fun soFar same row _ => ?_
    rw [rebalanceRow_db, Database.updateBudgets_devices, same]

/-- The rows a user's join lists have pairwise different primary keys. -/
theorem budgetRows_ids_nodup (db : Database) (userId : UserId) (date : Date) :
    ((db.budgetRows userId date).map fun row => row.1.id).Nodup := by
  have sub : ((db.budgetRows userId date).map fun row => row.1.id).Sublist
      (db.budgets.rows.map Budget.id) := by
    have kept : (db.budgetRows userId date).map Prod.fst =
        db.budgets.rows.filter fun b => (db.ownerOf userId date b.key).isSome := by
      rw [Database.budgetRows, List.map_filterMap, ← List.filterMap_eq_filter]
      refine List.filterMap_congr fun b _ => ?_
      cases owner : db.ownerOf userId date b.key <;> simp [Option.guard, owner]
    have split : ((db.budgetRows userId date).map fun row => row.1.id) =
        ((db.budgetRows userId date).map Prod.fst).map Budget.id := by rw [List.map_map]; rfl
    rw [split, kept]
    exact List.filter_sublist.map _
  exact db.budgetIds.sublist sub

/-- What a rebalance over the rows it has read makes of a stored row. -/
def rebalanced (rows : List (Budget × Device)) (now : UtcTime) : Budget → Budget :=
  assign Budget.id (fun row : Budget × Device => row.1.id)
    (rebalanceValues (totalPool rows) (totalPriority rows) now) rows

/-- A rebalance keeps what no value it sets touches. -/
theorem rebalanced_keeps {γ : Type*} (field : Budget → γ) (rows : List (Budget × Device))
    (now : UtcTime) (b : Budget)
    (untouched : ∀ pool priorities row,
      field (rebalanceValues pool priorities now row b) = field b) :
    field (rebalanced rows now b) = field b := by
  rw [rebalanced, assign]
  split
  · exact untouched _ _ _
  · rfl

theorem rebalanced_key (rows : List (Budget × Device)) (now : UtcTime) (b : Budget) :
    (rebalanced rows now b).key = b.key :=
  rebalanced_keeps Budget.key rows now b fun _ _ _ => (rebalanceValues_keeps ..).2

theorem rebalanced_usedSeconds (rows : List (Budget × Device)) (now : UtcTime) (b : Budget) :
    (rebalanced rows now b).usedSeconds = b.usedSeconds :=
  rebalanced_keeps Budget.usedSeconds rows now b fun _ _ _ => by
    rw [rebalanceValues]
    split <;> rfl

/-- **The rows after a rebalance**: each row the user's join listed is set to its values, every
other row is left alone. -/
theorem rebalanceBudgets_rows (store : Store) (userId : UserId) (targetDate : Date)
    (now : UtcTime) :
    (rebalanceBudgets store userId targetDate now).2.db.budgets.rows =
      store.db.budgets.rows.map (rebalanced (store.db.budgetRows userId targetDate) now) := by
  rw [rebalanceBudgets]
  split
  · rename_i noRows
    rw [noRows]
    exact (List.map_id' _).symm
  · rw [rebalanced, ← foldl_assign (fun row b => (rebalanceValues_keeps _ _ now row b).1) _
      (budgetRows_ids_nodup store.db userId targetDate)]
    exact (List.foldl_hom (fun soFar : List RebalancedBudget × Store => soFar.2.db.budgets.rows)
      fun soFar row => by rw [rebalanceRow_db, Database.updateBudgets_rows]).symm

/-! ### The cache shows the rows -/

/-- What is cached under a key is the current row of that key. -/
def Coherent (store : Store) (key : BudgetKey) : Prop :=
  ∀ entry, store.cache key = some entry → (store.db.budgets.find key).map budgetToDict = some entry

theorem forget_coherent (store : Store) (key : BudgetKey) : Coherent (store.forget key) key := by
  intro entry hit
  rw [forget_cache, if_pos rfl] at hit
  cases hit

/-- **A read of a coherent key answers with the current row.** -/
theorem getBudget_fst {store : Store} {deviceId : DeviceId} {targetDate : Date}
    (coherent : Coherent store (deviceId, targetDate)) :
    (getBudget store deviceId targetDate).1 =
      (store.db.budgets.find (deviceId, targetDate)).map budgetToDict := by
  simp only [getBudget, budgetCacheKey]
  split
  · rename_i cached hit
    exact (coherent cached hit).symm
  · split
    · rename_i absent
      rw [absent]
      rfl
    · rename_i budget found
      rw [found]
      rfl

theorem getBudget_coherent {store : Store} {key : BudgetKey} (coherent : Coherent store key)
    (deviceId : DeviceId) (targetDate : Date) :
    Coherent (getBudget store deviceId targetDate).2 key := by
  simp only [getBudget, budgetCacheKey]
  split
  · exact coherent
  · split
    · exact coherent
    · rename_i budget found
      intro entry hit
      replace hit : Function.update store.cache (deviceId, targetDate)
          (some (budgetToDict budget)) key = some entry := hit
      rw [Function.update_apply] at hit
      by_cases same : key = (deviceId, targetDate)
      · rw [if_pos same] at hit
        show (store.db.budgets.find key).map budgetToDict = some entry
        rw [same, found, ← hit]
        rfl
      · rw [if_neg same] at hit
        exact coherent entry hit

theorem recordUsage_coherent {store : Store} {key : BudgetKey} (coherent : Coherent store key)
    (deviceId : DeviceId) (seconds : Int) (targetDate : Date) :
    Coherent (recordUsage store deviceId seconds targetDate).2 key := by
  refine getBudget_coherent (fun entry hit => ?_) deviceId targetDate
  rw [forget_cache] at hit
  split at hit
  · cases hit
  · -- the row of another key is not the one the update is for
    rename_i other
    have unchanged := recordUsage_find store deviceId seconds targetDate key
    rw [recordUsage, getBudget_db] at unchanged
    have apart : (deviceId, targetDate) ≠ key := Ne.symm other
    simp only [if_neg apart, Option.map_id'] at unchanged
    rw [unchanged]
    exact coherent entry hit

/-! ### A tablet with a second left -/

def tabletStore : Store where
  db := tabletDb
  cache _ := none

end ScreenSync.Decision
