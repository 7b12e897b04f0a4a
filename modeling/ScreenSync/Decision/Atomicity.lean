/-
**Charges and grants against the shared Redis client.**

`record_usage` and `grant_extra_time` commit their `UPDATE`, and then ask `redis_client` to delete
the cached entry. `RedisClient` defines no `delete`, so both raise with the change committed.

* `Charging` — what is committed, and what the session sees; a call that raises keeps what it has
  committed.
* `writeBudget_refines` — an object that does define `delete`: the call does what the store of
  `Decision.Budget` has it do.
* `writeBudget_raises` — one that does not: the change is committed, and the call raises.
* `retry_safe_iff` — so a charge or a grant that raises has left the row as it was exactly if it was
  for no seconds.
* `charged_twice` — a minute that is charged again.
-/

import ScreenSync.Decision.Budget
import ScreenSync.Foundation.Session

namespace ScreenSync.Decision.Client

open ScreenSync.Foundation ScreenSync.Shared

/-! ### The client -/

/-- A Redis client: the methods that its class defines, and what its `get` returns. -/
structure RedisObject where
  methods : List String
  cached : Option String

/-- `RedisClient`. Its methods catch what Redis raises; `get` then returns `None`. -/
def redisClient (cached : Option String) : RedisObject where
  methods := ["initialize", "close", "ping", "get", "set", "get_raw", "set_raw"]
  cached

/-! ### Sessions -/

inductive ChargeError
  | attributeError (name : String)
  deriving DecidableEq

/-- What is committed, and what the session of the call sees. -/
structure Charging where
  committed : Database
  session : Database

abbrev ChargeSession (α : Type) := Session ChargeError Charging α

/-- The lookup of a method. -/
def lookUp (client : RedisObject) (name : String) : ChargeSession Unit :=
  if name ∈ client.methods then pure () else throw (.attributeError name)

/-- `db.execute` of a statement that writes. -/
def execute (statement : Database → Database) : ChargeSession Unit :=
  modify fun s => { s with session := statement s.session }

/-- `db.commit`. -/
def commit : ChargeSession Unit := modify fun s => { s with committed := s.session }

/-! ### The functions -/

/-- What `get_budget` returns: a text that `get` returned, or the dictionary of a row. -/
inductive BudgetAnswer
  | text (cached : String)
  | dict (budget : BudgetDict)

/-- `get_budget`. -/
def getBudget (client : RedisObject) (deviceId : DeviceId) (targetDate : Date) :
    ChargeSession (Option BudgetAnswer) := do
  lookUp client "get"
  match client.cached.filter fun cached => cached ≠ "" with
  | some cached => return some (.text cached)
  | none =>
    let s ← get
    match s.session.budgets.find (deviceId, targetDate) with
    | none => return none
    | some budget =>
      lookUp client "set"
      return some (.dict (budgetToDict budget))

/-- An `UPDATE` of the row of a device and a date, its commit, the invalidation of the cache, and
the read that answers. -/
def writeBudget (client : RedisObject) (deviceId : DeviceId) (targetDate : Date)
    (set : Budget → Budget) (keeps : ∀ b, (set b).id = b.id ∧ (set b).key = b.key) :
    ChargeSession (Option BudgetAnswer) := do
  execute fun db =>
    db.updateBudgets (fun b => b.deviceId = deviceId ∧ b.date = targetDate) set keeps
  commit
  lookUp client "delete"
  getBudget client deviceId targetDate

def charged (seconds : Int) (b : Budget) : Budget :=
  { b with usedSeconds := b.usedSeconds + seconds }

def granted (extraSeconds : Int) (b : Budget) : Budget :=
  { b with totalBudgetSeconds := b.totalBudgetSeconds + extraSeconds }

/-- `record_usage`. -/
def recordUsage (client : RedisObject) (deviceId : DeviceId) (seconds : Int) (targetDate : Date) :
    ChargeSession (Option BudgetAnswer) :=
  writeBudget client deviceId targetDate (charged seconds) fun _ => ⟨rfl, rfl⟩

/-- `grant_extra_time`. -/
def grantExtraTime (client : RedisObject) (deviceId : DeviceId) (extraSeconds : Int)
    (targetDate : Date) : ChargeSession (Option BudgetAnswer) :=
  writeBudget client deviceId targetDate (granted extraSeconds) fun _ => ⟨rfl, rfl⟩

/-! ### What a call does -/

variable {client : RedisObject} {deviceId : DeviceId} {targetDate : Date} {set : Budget → Budget}
  {keeps : ∀ b, (set b).id = b.id ∧ (set b).key = b.key} {db : Database} {b : Budget}

theorem lookUp_exec_of_mem {name : String} (defined : name ∈ client.methods) (s : Charging) :
    (lookUp client name).exec s = (.ok (), s) := by
  unfold lookUp
  rw [if_pos defined]
  rfl

theorem lookUp_exec_of_not_mem {name : String} (undefined : name ∉ client.methods)
    (s : Charging) : (lookUp client name).exec s = (.error (.attributeError name), s) := by
  unfold lookUp
  rw [if_neg undefined]
  rfl

/-- The row after the `UPDATE`. -/
theorem find_written (found : db.budgets.find (deviceId, targetDate) = some b) :
    (db.updateBudgets (fun b => b.deviceId = deviceId ∧ b.date = targetDate) set
      keeps).budgets.find (deviceId, targetDate) = some (set b) := by
  have own : b.deviceId = deviceId ∧ b.date = targetDate :=
    Budget.key_eq_iff.mp (Table.find_eq_some.mp found).2.symm
  rw [Database.updateBudgets_find, found, Option.map_some, if_pos own]

/-- The two statements that come before the invalidation. -/
theorem writeBudget_exec (db : Database) :
    (writeBudget client deviceId targetDate set keeps).exec ⟨db, db⟩ =
      (do lookUp client "delete"; getBudget client deviceId targetDate :
        ChargeSession (Option BudgetAnswer)).exec
        ⟨db.updateBudgets (fun b => b.deviceId = deviceId ∧ b.date = targetDate) set keeps,
          db.updateBudgets (fun b => b.deviceId = deviceId ∧ b.date = targetDate) set keeps⟩ := rfl

/-- **Without `delete`** the change is committed, and the call raises. -/
theorem writeBudget_raises (undefined : "delete" ∉ client.methods) (db : Database) :
    (writeBudget client deviceId targetDate set keeps).exec ⟨db, db⟩ =
      (.error (.attributeError "delete"),
        ⟨db.updateBudgets (fun b => b.deviceId = deviceId ∧ b.date = targetDate) set keeps,
          db.updateBudgets (fun b => b.deviceId = deviceId ∧ b.date = targetDate) set keeps⟩) := by
  rw [writeBudget_exec, Session.exec_bind, lookUp_exec_of_not_mem undefined]

/-- A read that misses the cache answers with the row. -/
theorem getBudget_exec (defined : "get" ∈ client.methods ∧ "set" ∈ client.methods)
    (missed : client.cached = none) (s : Charging) :
    (getBudget client deviceId targetDate).exec s =
      (.ok ((s.session.budgets.find (deviceId, targetDate)).map fun b => .dict (budgetToDict b)),
        s) := by
  rw [getBudget, Session.exec_bind, lookUp_exec_of_mem defined.1, missed]
  simp only [Option.filter_none, Session.exec_bind, Session.exec_get]
  split
  · rename_i absent
    rw [absent]
    rfl
  · rename_i budget found
    rw [Session.exec_bind, lookUp_exec_of_mem defined.2, found]
    rfl

/-- **With `delete`**, and a cache that has forgotten the entry, the call answers with the row it
has written. -/
theorem writeBudget_answers
    (defined : "get" ∈ client.methods ∧ "set" ∈ client.methods ∧ "delete" ∈ client.methods)
    (missed : client.cached = none) (db : Database) :
    (writeBudget client deviceId targetDate set keeps).exec ⟨db, db⟩ =
      (.ok (((db.updateBudgets (fun b => b.deviceId = deviceId ∧ b.date = targetDate) set
          keeps).budgets.find (deviceId, targetDate)).map fun b => .dict (budgetToDict b)),
        ⟨db.updateBudgets (fun b => b.deviceId = deviceId ∧ b.date = targetDate) set keeps,
          db.updateBudgets (fun b => b.deviceId = deviceId ∧ b.date = targetDate) set keeps⟩) := by
  rw [writeBudget_exec, Session.exec_bind, lookUp_exec_of_mem defined.2.2]
  exact getBudget_exec ⟨defined.1, defined.2.1⟩ missed _

/-- With `delete` the call does to the database what it does to the store, and answers the same. -/
theorem writeBudget_refines
    (defined : "get" ∈ client.methods ∧ "set" ∈ client.methods ∧ "delete" ∈ client.methods)
    (missed : client.cached = none) (store : Store) {answer : Option BudgetDict} {next : Store}
    (stored : Decision.getBudget
      ({ store with
          db := store.db.updateBudgets (fun b => b.deviceId = deviceId ∧ b.date = targetDate) set
            keeps }.forget (budgetCacheKey deviceId targetDate)) deviceId targetDate =
        (answer, next)) :
    (writeBudget client deviceId targetDate set keeps).exec ⟨store.db, store.db⟩ =
      (.ok (answer.map .dict), ⟨next.db, next.db⟩) := by
  have read := getBudget_fst (forget_coherent
    { store with
      db := store.db.updateBudgets (fun b => b.deviceId = deviceId ∧ b.date = targetDate) set
        keeps }
    (deviceId, targetDate))
  have kept := getBudget_db
    ({ store with
        db := store.db.updateBudgets (fun b => b.deviceId = deviceId ∧ b.date = targetDate) set
          keeps }.forget (budgetCacheKey deviceId targetDate)) deviceId targetDate
  rw [stored, forget_db] at kept
  rw [writeBudget_answers defined missed, kept]
  refine Prod.ext (congrArg Except.ok ?_) rfl
  rw [budgetCacheKey] at stored
  rw [stored, forget_db] at read
  simp only at read
  rw [read, Option.map_map]
  rfl

theorem recordUsage_refines
    (defined : "get" ∈ client.methods ∧ "set" ∈ client.methods ∧ "delete" ∈ client.methods)
    (missed : client.cached = none) (store : Store) (seconds : Int) :
    (recordUsage client deviceId seconds targetDate).exec ⟨store.db, store.db⟩ =
      (.ok ((Decision.recordUsage store deviceId seconds targetDate).1.map .dict),
        ⟨(Decision.recordUsage store deviceId seconds targetDate).2.db,
          (Decision.recordUsage store deviceId seconds targetDate).2.db⟩) :=
  writeBudget_refines defined missed store rfl

theorem grantExtraTime_refines
    (defined : "get" ∈ client.methods ∧ "set" ∈ client.methods ∧ "delete" ∈ client.methods)
    (missed : client.cached = none) (store : Store) (extraSeconds : Int) :
    (grantExtraTime client deviceId extraSeconds targetDate).exec ⟨store.db, store.db⟩ =
      (.ok ((Decision.grantExtraTime store deviceId extraSeconds targetDate).1.map .dict),
        ⟨(Decision.grantExtraTime store deviceId extraSeconds targetDate).2.db,
          (Decision.grantExtraTime store deviceId extraSeconds targetDate).2.db⟩) :=
  writeBudget_refines defined missed store rfl

/-! ### All or nothing -/

/-- The call on a row returns its dictionary with the change applied, or raises and leaves the
committed row as it was. -/
def AllOrNothing (call : ChargeSession (Option BudgetAnswer)) (db : Database) (b : Budget)
    (change : Budget → Budget) : Prop :=
  match call.exec ⟨db, db⟩ with
  | (.ok answer, after) => answer = some (.dict (budgetToDict (change b))) ∧
      after.committed.budgets.find b.key = some (change b)
  | (.error _, after) => after.committed.budgets.find b.key = some b

/-- With `delete`, and a cache that has forgotten the entry, a call is all or nothing. -/
theorem allOrNothing_of_delete
    (defined : "get" ∈ client.methods ∧ "set" ∈ client.methods ∧ "delete" ∈ client.methods)
    (missed : client.cached = none) (found : db.budgets.find (deviceId, targetDate) = some b) :
    AllOrNothing (writeBudget client deviceId targetDate set keeps) db b set := by
  rw [AllOrNothing, writeBudget_answers defined missed, (Table.find_eq_some.mp found).2]
  have written : (db.updateBudgets (fun b => b.deviceId = deviceId ∧ b.date = targetDate) set
      keeps).budgets.find (deviceId, targetDate) = some (set b) := find_written found
  rw [written]
  exact ⟨rfl, written⟩

/-- Without `delete` it is only if the change is none. -/
theorem allOrNothing_iff (undefined : "delete" ∉ client.methods)
    (found : db.budgets.find (deviceId, targetDate) = some b) :
    AllOrNothing (writeBudget client deviceId targetDate set keeps) db b set ↔ set b = b := by
  rw [AllOrNothing, writeBudget_raises undefined, (Table.find_eq_some.mp found).2]
  show (db.updateBudgets _ set keeps).budgets.find (deviceId, targetDate) = some b ↔ _
  rw [find_written found, Option.some.injEq]

theorem charged_eq_iff (seconds : Int) (b : Budget) : charged seconds b = b ↔ seconds = 0 := by
  unfold charged
  rw [Budget.mk.injEq]
  simp

theorem granted_eq_iff (extraSeconds : Int) (b : Budget) :
    granted extraSeconds b = b ↔ extraSeconds = 0 := by
  unfold granted
  rw [Budget.mk.injEq]
  simp

theorem delete_not_mem (cached : Option String) : "delete" ∉ (redisClient cached).methods := by
  simp [redisClient]

/-- **A charge or a grant may be retried after an error** exactly if it is for no seconds. -/
theorem retry_safe_iff (cached : Option String) (db : Database) (deviceId : DeviceId)
    (targetDate : Date) (b : Budget) (found : db.budgets.find (deviceId, targetDate) = some b)
    (seconds : Int) :
    (AllOrNothing (recordUsage (redisClient cached) deviceId seconds targetDate) db b
        (charged seconds) ↔ seconds = 0) ∧
      (AllOrNothing (grantExtraTime (redisClient cached) deviceId seconds targetDate) db b
        (granted seconds) ↔ seconds = 0) := by
  constructor
  · rw [recordUsage, allOrNothing_iff (delete_not_mem cached) found, charged_eq_iff]
  · rw [grantExtraTime, allOrNothing_iff (delete_not_mem cached) found, granted_eq_iff]

/-! ### A minute on the tablet -/

theorem tabletDb_found : tabletDb.budgets.find ("tablet", someDay) = some tabletRow := by
  decide

theorem retry_safe_iff_tablet :
    (AllOrNothing (recordUsage (redisClient none) "tablet" 60 someDay) tabletDb tabletRow
        (charged 60) ↔ (60 : Int) = 0) ∧
      (AllOrNothing (grantExtraTime (redisClient none) "tablet" 60 someDay) tabletDb tabletRow
        (granted 60) ↔ (60 : Int) = 0) :=
  retry_safe_iff none tabletDb "tablet" someDay tabletRow tabletDb_found 60

/-- The tablet's minute. -/
def minute : ChargeSession (Option BudgetAnswer) :=
  recordUsage (redisClient none) "tablet" 60 someDay

/-- The minute is charged by the call that raises, and charged again when it is retried. -/
theorem charged_twice :
    ¬ AllOrNothing minute tabletDb tabletRow (charged 60) ∧
      ((minute.exec (minute.exec ⟨tabletDb, tabletDb⟩).2).2.committed.budgets.find
        ("tablet", someDay)).map Budget.usedSeconds = some (tabletRow.usedSeconds + 120) := by
  constructor
  · intro nothing
    have kept : (minute.exec ⟨tabletDb, tabletDb⟩).2.committed.budgets.find
        ("tablet", someDay) = some tabletRow := nothing
    exact absurd kept (by decide +kernel)
  · decide +kernel

end ScreenSync.Decision.Client
