/-
**Families and days apart.**

The budgets of all families and all days are rows of one table, and their cached copies keys of one
Redis. `familyDay` is the part of one family and one day: the rows of the join that a rebalance
reads, and the cache entries of their keys. The engine's calls for another family, or for another
day, neither read nor write it.

* `familyDay_of_effect` — what a write to the rows makes of it.
* `serveEngine_stays` — a call for others leaves it alone.
* `serveEngine_follows` — a call for the family and the day is answered and carried out by it alone.
* `families_apart` — so the calls for others can be left out of a run: the family has the same
  budgets on the day and is answered the same.
-/

import ScreenSync.Decision.Coherence
import ScreenSync.Decision.Grant
import ScreenSync.Decision.Initialisation
import ScreenSync.Decision.Rebalancing
import ScreenSync.Foundation.Purge

namespace ScreenSync.Decision

open ScreenSync.Foundation ScreenSync.Shared

/-! ### The part of a family and a day -/

/-- The rows of a family for a day, each with its device, and what is cached under their keys. -/
structure FamilyDay where
  rows : List (Budget × Device)
  cache : BudgetKey → Option (Option BudgetDict)

section Views

variable (userId : UserId) (date : Date)

def familyDay (store : Store) : FamilyDay where
  rows := store.db.budgetRows userId date
  cache key := (store.db.ownerOf userId date key).map fun _ => store.cache key

/-- The key is that of a device of the family, for the day. -/
def OwnKey (devices : Table Device.id) (key : BudgetKey) : Prop :=
  ∃ device, devices.find key.1 = some device ∧ device.userId = userId ∧ key.2 = date

end Views

variable {userId : UserId} {date : Date} {store next s t : Store} {key : BudgetKey}

theorem ownKey_iff {db : Database} :
    OwnKey userId date db.devices key ↔ ∃ device, db.ownerOf userId date key = some device := by
  simp only [OwnKey, Database.ownerOf_eq_some]

theorem ownerOf_congr {first second : Database} (devices : first.devices = second.devices)
    (userId : UserId) (date : Date) (key : BudgetKey) :
    first.ownerOf userId date key = second.ownerOf userId date key := by
  rw [Database.ownerOf, Database.ownerOf, devices]

/-- Two stores that show a family and a day the same, over the same devices. -/
structure SameDay (userId : UserId) (date : Date) (s t : Store) : Prop where
  devices : s.db.devices = t.db.devices
  view : familyDay userId date s = familyDay userId date t

theorem SameDay.trans {between : Store} (first : SameDay userId date s between)
    (second : SameDay userId date between t) : SameDay userId date s t :=
  ⟨first.devices.trans second.devices, first.view.trans second.view⟩

theorem SameDay.rows (same : SameDay userId date s t) :
    s.db.budgetRows userId date = t.db.budgetRows userId date := congrArg FamilyDay.rows same.view

theorem SameDay.cache (same : SameDay userId date s t) (own : OwnKey userId date s.db.devices key) :
    s.cache key = t.cache key := by
  obtain ⟨device, owner⟩ := ownKey_iff.mp own
  have owner' := (ownerOf_congr same.devices userId date key).symm.trans owner
  have cached := congrFun (congrArg FamilyDay.cache same.view) key
  simp only [familyDay, owner, owner', Option.map_some, Option.some.injEq] at cached
  exact cached

/-- A row of the day is found in both or in neither. -/
theorem SameDay.find (same : SameDay userId date s t) (own : OwnKey userId date s.db.devices key) :
    s.db.budgets.find key = t.db.budgets.find key := by
  obtain ⟨device, owner⟩ := ownKey_iff.mp own
  have owner' := (ownerOf_congr same.devices userId date key).symm.trans owner
  have listed : ∀ {db : Database}, db.ownerOf userId date key = some device → ∀ b,
      db.budgets.find key = some b ↔ (b, device) ∈ db.budgetRows userId date ∧ b.key = key := by
    intro db owner b
    rw [Table.find_eq_some, Database.mem_budgetRows]
    constructor
    · rintro ⟨member, rfl⟩
      exact ⟨⟨member, owner⟩, rfl⟩
    · rintro ⟨⟨member, -⟩, here⟩
      exact ⟨member, here⟩
  refine Option.ext fun b => ?_
  rw [listed owner, listed owner', same.rows]

/-- **A write to the rows** that rewrites them by keys and appends others. -/
theorem familyDay_of_effect {f : Budget → Budget} {created : List Budget}
    (devices : next.db.devices = store.db.devices)
    (rows : next.db.budgets.rows = store.db.budgets.rows.map f ++ created)
    (keeps : ∀ b, (f b).key = b.key) :
    familyDay userId date next =
      { rows := (store.db.budgetRows userId date).map (fun row => (f row.1, row.2)) ++
          store.db.joined userId date created
        cache := fun key => (store.db.ownerOf userId date key).map fun _ => next.cache key } := by
  unfold familyDay
  rw [Database.budgetRows_map_append userId date devices rows keeps]
  simp only [ownerOf_congr devices]

/-- A write that leaves the rows and the cache of the day alone. -/
theorem familyDay_of_spared {f : Budget → Budget} {created : List Budget}
    (devices : next.db.devices = store.db.devices)
    (rows : next.db.budgets.rows = store.db.budgets.rows.map f ++ created)
    (keeps : ∀ b, (f b).key = b.key)
    (spared : ∀ b ∈ store.db.budgets.rows, OwnKey userId date store.db.devices b.key → f b = b)
    (others : ∀ b ∈ created, ¬ OwnKey userId date store.db.devices b.key)
    (cache : ∀ key, OwnKey userId date store.db.devices key → next.cache key = store.cache key) :
    SameDay userId date next store := by
  refine ⟨devices, ?_⟩
  rw [familyDay_of_effect devices rows keeps]
  have same : (store.db.budgetRows userId date).map (fun row => (f row.1, row.2)) =
      store.db.budgetRows userId date := by
    conv_rhs => rw [← List.map_id (store.db.budgetRows userId date)]
    refine List.map_congr_left fun row member => ?_
    obtain ⟨inside, owner⟩ := Database.mem_budgetRows.mp member
    exact Prod.ext (spared row.1 inside (ownKey_iff.mpr ⟨row.2, owner⟩)) rfl
  have none : store.db.joined userId date created = [] := by
    refine List.filterMap_eq_nil_iff.mpr fun b member => ?_
    cases owner : store.db.ownerOf userId date b.key with
    | none => rfl
    | some device => exact absurd (ownKey_iff.mpr ⟨device, owner⟩) (others b member)
  rw [same, none, List.append_nil]
  refine congrArg (FamilyDay.mk _) (funext fun key => ?_)
  cases owner : store.db.ownerOf userId date key with
  | none => rfl
  | some device => exact congrArg some (cache key (ownKey_iff.mpr ⟨device, owner⟩))

/-- The same write to two stores that show the same. -/
theorem SameDay.of_effect {s' t' : Store} {f : Budget → Budget} {created : List Budget}
    (same : SameDay userId date s t) (devices : s'.db.devices = s.db.devices)
    (devices' : t'.db.devices = t.db.devices)
    (rows : s'.db.budgets.rows = s.db.budgets.rows.map f ++ created)
    (rows' : t'.db.budgets.rows = t.db.budgets.rows.map f ++ created)
    (keeps : ∀ b, (f b).key = b.key)
    (cache : ∀ key, OwnKey userId date s.db.devices key → s'.cache key = t'.cache key) :
    SameDay userId date s' t' := by
  refine ⟨devices.trans (same.devices.trans devices'.symm), ?_⟩
  rw [familyDay_of_effect devices rows keeps, familyDay_of_effect devices' rows' keeps, same.rows]
  have joined : s.db.joined userId date created = t.db.joined userId date created := by
    unfold Database.joined
    simp only [ownerOf_congr same.devices]
  rw [joined]
  refine congrArg (FamilyDay.mk _) (funext fun key => ?_)
  rw [← ownerOf_congr same.devices]
  cases owner : s.db.ownerOf userId date key with
  | none => rfl
  | some device => exact congrArg some (cache key (ownKey_iff.mpr ⟨device, owner⟩))

/-! ### Reads -/

/-- After a read, the cache holds the answer under its key. -/
theorem getBudget_cache (store : Store) (deviceId : DeviceId) (targetDate : Date)
    (name : BudgetKey) :
    (getBudget store deviceId targetDate).2.cache name =
      if name = (deviceId, targetDate) then (getBudget store deviceId targetDate).1
      else store.cache name := by
  simp only [getBudget, budgetCacheKey]
  cases hit : store.cache (deviceId, targetDate) with
  | some cached =>
    dsimp only
    split
    · rename_i same
      rw [same, hit]
    · rfl
  | none =>
    cases store.db.budgets.find (deviceId, targetDate) with
    | none =>
      dsimp only
      split
      · rename_i same
        rw [same, hit]
      · rfl
    | some budget => exact Function.update_apply ..

variable {deviceId : DeviceId}

theorem getBudget_follows (same : SameDay userId date s t)
    (own : OwnKey userId date s.db.devices (deviceId, date)) :
    (getBudget s deviceId date).1 = (getBudget t deviceId date).1 ∧
      SameDay userId date (getBudget s deviceId date).2 (getBudget t deviceId date).2 := by
  have answers : (getBudget s deviceId date).1 = (getBudget t deviceId date).1 := by
    simp only [getBudget, budgetCacheKey]
    rw [same.cache own, same.find own]
    cases t.cache (deviceId, date) with
    | some cached => rfl
    | none => cases t.db.budgets.find (deviceId, date) <;> rfl
  refine ⟨answers, ?_⟩
  refine same.of_effect (f := id) (by rw [getBudget_db]) (by rw [getBudget_db])
    (by rw [getBudget_db, List.map_id, List.append_nil])
    (by rw [getBudget_db, List.map_id, List.append_nil]) (fun _ => rfl) fun key inside => ?_
  rw [getBudget_cache, getBudget_cache, answers, same.cache inside]

theorem getBudget_spared {targetDate : Date}
    (foreign : ¬ OwnKey userId date store.db.devices (deviceId, targetDate)) :
    SameDay userId date (getBudget store deviceId targetDate).2 store := by
  refine familyDay_of_spared (f := id) (by rw [getBudget_db])
    (by rw [getBudget_db, List.map_id, List.append_nil]) (fun _ => rfl) (fun _ _ _ => rfl)
    (by simp) fun key own => ?_
  rw [getBudget_cache, if_neg]
  rintro rfl
  exact foreign own

/-! ### Increments -/

/-- `record_usage` and `grant_extra_time`. -/
def increase (store : Store) (increment : Increment) (deviceId : DeviceId) (targetDate : Date) :
    Option BudgetDict × Store :=
  getBudget ({ store with db := increment.commit (deviceId, targetDate) store.db }.forget
    (deviceId, targetDate)) deviceId targetDate

theorem recordUsage_eq (store : Store) (deviceId : DeviceId) (seconds : Int) (targetDate : Date) :
    recordUsage store deviceId seconds targetDate =
      increase store (.usage seconds) deviceId targetDate := rfl

theorem grantExtraTime_eq (store : Store) (deviceId : DeviceId) (extraSeconds : Int)
    (targetDate : Date) : grantExtraTime store deviceId extraSeconds targetDate =
      increase store (.extra extraSeconds) deviceId targetDate := rfl

/-- What an increment makes of a row. -/
def Increment.rewrite (increment : Increment) (key : BudgetKey) (b : Budget) : Budget :=
  if b.deviceId = key.1 ∧ b.date = key.2 then increment.values b else b

theorem Increment.rewrite_key (increment : Increment) (key : BudgetKey) (b : Budget) :
    (increment.rewrite key b).key = b.key := by
  unfold Increment.rewrite
  split
  · exact (increment.values_keeps b).2
  · rfl

theorem Increment.rewrite_of_ne (increment : Increment) {key : BudgetKey} {b : Budget}
    (apart : b.key ≠ key) : increment.rewrite key b = b :=
  if_neg fun both => apart (Prod.ext both.1 both.2)

theorem increase_follows (same : SameDay userId date s t) (increment : Increment)
    (own : OwnKey userId date s.db.devices (deviceId, date)) :
    (increase s increment deviceId date).1 = (increase t increment deviceId date).1 ∧
      SameDay userId date (increase s increment deviceId date).2
        (increase t increment deviceId date).2 := by
  have written : SameDay userId date
      ({ s with db := increment.commit (deviceId, date) s.db }.forget (deviceId, date))
      ({ t with db := increment.commit (deviceId, date) t.db }.forget (deviceId, date)) := by
    refine same.of_effect (f := increment.rewrite (deviceId, date)) rfl rfl
      (List.append_nil _).symm (List.append_nil _).symm (increment.rewrite_key _)
      fun key inside => ?_
    rw [forget_cache, forget_cache, same.cache inside]
  exact getBudget_follows written own

theorem increase_spared {targetDate : Date} (increment : Increment)
    (foreign : ¬ OwnKey userId date store.db.devices (deviceId, targetDate)) :
    SameDay userId date (increase store increment deviceId targetDate).2 store := by
  have written : SameDay userId date
      ({ store with db := increment.commit (deviceId, targetDate) store.db }.forget
        (deviceId, targetDate)) store := by
    refine familyDay_of_spared (f := increment.rewrite (deviceId, targetDate)) rfl
      (List.append_nil _).symm (increment.rewrite_key _) (fun b _ own => ?_) (by simp)
      fun key own => ?_
    · refine increment.rewrite_of_ne fun here => foreign ?_
      rw [← here]
      exact own
    · rw [forget_cache, if_neg]
      rintro rfl
      exact foreign own
  refine SameDay.trans ?_ written
  exact getBudget_spared foreign

/-! ### Initialisation -/

variable {uuid : DeviceId → String} {otherUser : UserId} {otherDate : Date}

/-- A device of the family has a key of the day. -/
theorem ownKey_of_online {device : Device}
    (online : device ∈ onlineDevices store.db userId) (date : Date) :
    OwnKey userId date store.db.devices (device.id, date) := by
  obtain ⟨listed, both⟩ := List.mem_filter.mp online
  exact ⟨device, Table.find_key listed, (of_decide_eq_true both).1, rfl⟩

theorem initialise_follows (same : SameDay userId date s t) (fresh : FreshKeys s.db uuid)
    (fresh' : FreshKeys t.db uuid) :
    ∃ created s' t', initialiseDailyBudgets s userId date uuid = .ok (created, s') ∧
      initialiseDailyBudgets t userId date uuid = .ok (created, t') ∧
      SameDay userId date s' t' ∧ s'.db.devices = s.db.devices := by
  obtain ⟨db, answered, devices, rows⟩ :=
    @initialise_returns date uuid s userId fresh
  obtain ⟨db', answered', devices', rows'⟩ :=
    @initialise_returns date uuid t userId fresh'
  have online : onlineDevices t.db userId = onlineDevices s.db userId := by
    rw [onlineDevices, onlineDevices, same.devices]
  have missed : missing t.db date (onlineDevices t.db userId) =
      missing s.db date (onlineDevices s.db userId) := by
    rw [online]
    refine List.filter_congr fun device member => ?_
    rw [same.find (ownKey_of_online member date)]
  rw [missed] at answered' rows'
  refine ⟨_, _, _, answered, answered', ?_, devices⟩
  exact same.of_effect (f := id) devices devices' (by rw [rows, List.map_id])
    (by rw [rows', List.map_id]) (fun _ => rfl) fun key own => same.cache own

theorem initialise_spared (fresh : FreshKeys store.db uuid)
    (apart : ¬ (otherUser = userId ∧ otherDate = date)) :
    ∃ created next, initialiseDailyBudgets store otherUser otherDate uuid = .ok (created, next) ∧
      SameDay userId date next store := by
  obtain ⟨db, answered, devices, rows⟩ :=
    @initialise_returns otherDate uuid store otherUser fresh
  refine ⟨_, _, answered, ?_⟩
  refine familyDay_of_spared (f := id) devices (by rw [rows, List.map_id]) (fun _ => rfl)
    (fun _ _ _ => rfl) (fun b member own => ?_) fun _ _ => rfl
  obtain ⟨device, selected, rfl⟩ := List.mem_map.mp member
  obtain ⟨listed, both⟩ := List.mem_filter.mp (List.mem_of_mem_filter selected)
  obtain ⟨owner, found, mine, day⟩ := own
  have here : owner = device := Option.some.inj (found.symm.trans (Table.find_key listed))
  exact apart ⟨(of_decide_eq_true both).1.symm.trans (here ▸ mine), day⟩

/-! ### Rebalancing -/

/-- The answer of a rebalance is that of the rows it has read. -/
theorem rebalanceBudgets_fst (userId : UserId) (targetDate : Date) (now : UtcTime)
    (rows : s.db.budgetRows userId targetDate = t.db.budgetRows userId targetDate) :
    (rebalanceBudgets s userId targetDate now).1 = (rebalanceBudgets t userId targetDate now).1 := by
  have updates : ∀ (pool : Int) (priorities : Nat) (rows : List (Budget × Device))
      (soFar soFar' : List RebalancedBudget × Store), soFar.1 = soFar'.1 →
      (rows.foldl (rebalanceRow pool priorities now targetDate) soFar).1 =
        (rows.foldl (rebalanceRow pool priorities now targetDate) soFar').1 := by
    intro pool priorities rows
    induction rows with
    | nil => exact fun _ _ same => same
    | cons row later ih =>
      intro soFar soFar' same
      rw [List.foldl_cons, List.foldl_cons]
      refine ih _ _ ?_
      simp only [rebalanceRow]
      split
      · exact same
      · exact congrArg (· ++ _) same
  rw [rebalanceBudgets, rebalanceBudgets, rows]
  split
  · rfl
  · exact updates _ _ _ _ _ rfl

/-- The cache after a rebalance. -/
theorem rebalanceBudgets_cache (store : Store) (userId : UserId) (targetDate : Date) (now : UtcTime)
    (key : BudgetKey) :
    (rebalanceBudgets store userId targetDate now).2.cache key =
      if ∃ row ∈ store.db.budgetRows userId targetDate, ¬ Exhausted row.1 ∧
        (row.2.id, targetDate) = key then none else store.cache key := by
  have forgets : ∀ (pool : Int) (priorities : Nat) (rows : List (Budget × Device))
      (soFar : List RebalancedBudget × Store),
      (rows.foldl (rebalanceRow pool priorities now targetDate) soFar).2.cache key =
        if ∃ row ∈ rows, ¬ Exhausted row.1 ∧ (row.2.id, targetDate) = key then none
        else soFar.2.cache key := by
    intro pool priorities rows
    induction rows with
    | nil => intro soFar; simp
    | cons row later ih =>
      intro soFar
      rw [List.foldl_cons, ih]
      by_cases further : ∃ row ∈ later, ¬ Exhausted row.1 ∧ (row.2.id, targetDate) = key
      · rw [if_pos further, if_pos (further.imp fun _ both =>
          ⟨List.mem_cons_of_mem _ both.1, both.2⟩)]
      · rw [if_neg further]
        simp only [List.exists_mem_cons_iff, further, or_false]
        by_cases exhausted : Exhausted row.1
        · simp [rebalanceRow, exhausted]
        · simp only [rebalanceRow, exhausted, not_false_eq_true, true_and, if_false, forget_cache,
            budgetCacheKey]
          exact if_congr eq_comm rfl rfl
  rw [rebalanceBudgets]
  by_cases noRows : store.db.budgetRows userId targetDate = []
  · rw [if_pos noRows, noRows]
    simp
  · rw [if_neg noRows]
    exact forgets _ _ _ _

/-- A key is of one family and one day. -/
theorem OwnKey.unique {devices : Table Device.id} (own : OwnKey userId date devices key)
    (other : OwnKey otherUser otherDate devices key) : otherUser = userId ∧ otherDate = date := by
  obtain ⟨device, found, rfl, rfl⟩ := own
  obtain ⟨device', found', rfl, rfl⟩ := other
  exact ⟨congrArg Device.userId (Option.some.inj (found'.symm.trans found)), rfl⟩

/-- A row that the join lists has a key of the family and the day, and so has its device. -/
theorem ownKey_of_budgetRows {row : Budget × Device} {db : Database}
    (listed : row ∈ db.budgetRows userId date) :
    OwnKey userId date db.devices row.1.key ∧ (row.2.id, date) = row.1.key := by
  obtain ⟨-, owner⟩ := Database.mem_budgetRows.mp listed
  obtain ⟨found, -, day⟩ := Database.ownerOf_eq_some.mp owner
  exact ⟨ownKey_iff.mpr ⟨row.2, owner⟩, Prod.ext (Table.find_eq_some.mp found).2 day.symm⟩

theorem rebalanceBudgets_effect (store : Store) (userId : UserId) (targetDate : Date)
    (now : UtcTime) :
    (rebalanceBudgets store userId targetDate now).2.db.budgets.rows =
      store.db.budgets.rows.map (rebalanced (store.db.budgetRows userId targetDate) now) ++ [] := by
  rw [rebalanceBudgets_rows, List.append_nil]

theorem rebalance_follows (same : SameDay userId date s t) (now : UtcTime) :
    (rebalanceBudgets s userId date now).1 = (rebalanceBudgets t userId date now).1 ∧
      SameDay userId date (rebalanceBudgets s userId date now).2
        (rebalanceBudgets t userId date now).2 := by
  refine ⟨rebalanceBudgets_fst userId date now same.rows, ?_⟩
  refine same.of_effect (rebalanceBudgets_devices ..) (rebalanceBudgets_devices ..)
    (rebalanceBudgets_effect s userId date now) ?_ (rebalanced_key _ now) fun key own => ?_
  · rw [same.rows]
    exact rebalanceBudgets_effect t userId date now
  · rw [rebalanceBudgets_cache, rebalanceBudgets_cache, same.rows, same.cache own]

theorem rebalance_spared (now : UtcTime) (apart : ¬ (otherUser = userId ∧ otherDate = date)) :
    SameDay userId date (rebalanceBudgets store otherUser otherDate now).2 store := by
  refine familyDay_of_spared (rebalanceBudgets_devices ..)
    (rebalanceBudgets_effect store otherUser otherDate now) (rebalanced_key _ now)
    (fun b member own => ?_) (by simp) fun key own => ?_
  · refine assign_of_forall_ne fun row listed sameId => apart ?_
    obtain ⟨inside, -⟩ := Database.mem_budgetRows.mp listed
    have same : row.1 = b := store.db.budget_eq_of_id inside member sameId
    exact own.unique (same ▸ (ownKey_of_budgetRows listed).1)
  · rw [rebalanceBudgets_cache, if_neg]
    rintro ⟨row, listed, -, rfl⟩
    obtain ⟨other, same⟩ := ownKey_of_budgetRows listed
    exact apart (own.unique (same ▸ other))

/-! ### Usage events -/

variable {device : Device} {call : UsageCall}

theorem answerUsage_follows (same : SameDay userId date s t) (budget : Option BudgetDict)
    (own : OwnKey userId date s.db.devices (device.id, call.today)) (today : call.today = date) :
    (answerUsage device s budget call).1 = (answerUsage device t budget call).1 ∧
      SameDay userId date (answerUsage device s budget call).2
        (answerUsage device t budget call).2 := by
  subst today
  simp only [answerUsage, deduct]
  split
  · obtain ⟨answers, after⟩ := increase_follows same
      (.usage (effectiveCost call.appCategory call.rawSeconds)) own
    rw [← recordUsage_eq, ← recordUsage_eq] at answers after
    rw [answers]
    exact ⟨rfl, after⟩
  · exact ⟨rfl, same⟩

theorem ensureBudget_follows (same : SameDay userId date s t) (fresh : FreshKeys s.db call.uuid)
    (fresh' : FreshKeys t.db call.uuid) (registered : s.db.devices.find device.id = some device)
    (owner : device.userId = userId) (today : call.today = date) :
    ∃ budget s' t', ensureBudget device s call = .ok (budget, s') ∧
      ensureBudget device t call = .ok (budget, t') ∧ SameDay userId date s' t' ∧
      s'.db.devices = s.db.devices := by
  subst today
  have own : OwnKey userId call.today s.db.devices (device.id, call.today) :=
    ⟨device, registered, owner, rfl⟩
  obtain ⟨answers, read⟩ := getBudget_follows same own
  have kept := getBudget_db s device.id call.today
  have kept' := getBudget_db t device.id call.today
  unfold ensureBudget
  generalize getBudget s device.id call.today = first at answers read kept
  generalize getBudget t device.id call.today = second at answers read kept'
  obtain ⟨budget, s'⟩ := first
  obtain ⟨budget', t'⟩ := second
  obtain rfl : budget = budget' := answers
  cases budget with
  | some budget => exact ⟨some budget, s', t', rfl, rfl, read, congrArg Database.devices kept⟩
  | none =>
    dsimp only at kept kept' read
    obtain ⟨created, s'', t'', initialised, initialised', after, devices⟩ := initialise_follows
      read (kept.symm ▸ fresh) (kept'.symm ▸ fresh')
    have same : s''.db.devices = s.db.devices :=
      devices.trans (congrArg Database.devices kept)
    obtain ⟨answers, last⟩ := getBudget_follows after (same.symm ▸ own)
    refine ⟨(getBudget s'' device.id call.today).1, (getBudget s'' device.id call.today).2,
      (getBudget t'' device.id call.today).2, ?_, ?_, last, ?_⟩
    · simp only [owner, initialised]
      rfl
    · simp only [owner, initialised', answers]
      rfl
    · rw [getBudget_db, same]

theorem answerUsage_devices (store : Store) (budget : Option BudgetDict) (call : UsageCall) :
    (answerUsage device store budget call).2.db.devices = store.db.devices := by
  simp only [answerUsage, deduct]
  split
  · exact recordUsage_devices ..
  · rfl

theorem usage_follows (same : SameDay userId date s t) (fresh : FreshKeys s.db call.uuid)
    (fresh' : FreshKeys t.db call.uuid) (registered : s.db.devices.find device.id = some device)
    (owner : device.userId = userId) (today : call.today = date) :
    ∃ outcome s' t', processUsageEvent device s call = .ok (outcome, s') ∧
      processUsageEvent device t call = .ok (outcome, t') ∧ SameDay userId date s' t' ∧
      s'.db.devices = s.db.devices := by
  obtain ⟨budget, s', t', ensured, ensured', after, devices⟩ :=
    ensureBudget_follows same fresh fresh' registered owner today
  have own : OwnKey userId date s'.db.devices (device.id, call.today) :=
    ⟨device, devices.symm ▸ registered, owner, today⟩
  obtain ⟨answers, last⟩ := answerUsage_follows after budget own today
  refine ⟨(answerUsage device s' budget call).1, (answerUsage device s' budget call).2,
    (answerUsage device t' budget call).2, ?_, ?_, last,
    (answerUsage_devices s' budget call).trans devices⟩
  · rw [processUsageEvent, ensured]
    rfl
  · rw [processUsageEvent, ensured', answers]
    rfl

theorem usage_spared (fresh : FreshKeys store.db call.uuid)
    (registered : store.db.devices.find device.id = some device)
    (apart : ¬ (device.userId = userId ∧ call.today = date)) :
    ∃ outcome next, processUsageEvent device store call = .ok (outcome, next) ∧
      SameDay userId date next store := by
  have foreign : ∀ {now : Store}, now.db.devices = store.db.devices →
      ¬ OwnKey userId date now.db.devices (device.id, call.today) := by
    rintro now devices ⟨owner, found, mine, day⟩
    rw [devices, registered] at found
    exact apart ⟨Option.some.inj found ▸ mine, day⟩
  have read : SameDay userId date (getBudget store device.id call.today).2 store :=
    getBudget_spared (foreign rfl)
  have ensured : ∃ budget next, ensureBudget device store call = .ok (budget, next) ∧
      SameDay userId date next store := by
    have kept := getBudget_db store device.id call.today
    unfold ensureBudget
    generalize getBudget store device.id call.today = first at read kept
    obtain ⟨budget, between⟩ := first
    cases budget with
    | some budget => exact ⟨some budget, between, rfl, read⟩
    | none =>
      dsimp only at kept read
      obtain ⟨created, next, initialised, after⟩ :=
        initialise_spared (kept.symm ▸ fresh) apart
      have last : SameDay userId date (getBudget next device.id call.today).2 next :=
        getBudget_spared (foreign (after.devices.trans read.devices))
      refine ⟨(getBudget next device.id call.today).1, (getBudget next device.id call.today).2, ?_,
        last.trans (after.trans read)⟩
      simp only [initialised]
      rfl
  obtain ⟨budget, next, ensured, after⟩ := ensured
  have answered : SameDay userId date (answerUsage device next budget call).2 next := by
    simp only [answerUsage, deduct]
    split
    · rw [recordUsage_eq]
      exact increase_spared _ (foreign after.devices)
    · exact ⟨rfl, rfl⟩
  refine ⟨(answerUsage device next budget call).1, (answerUsage device next budget call).2, ?_,
    answered.trans after⟩
  rw [processUsageEvent, ensured]
  rfl

/-! ### Primary keys -/

/-- The primary keys of the budget rows. -/
def rowIds (store : Store) : List String := store.db.budgets.rows.map Budget.id

/-- The function that draws the primary keys of new rows. -/
def draws : EngineCall → Option (DeviceId → String)
  | .get .. => none
  | .initialise _ _ uuid => some uuid
  | .record .. => none
  | .usage _ call => some call.uuid
  | .rebalance .. => none
  | .grant .. => none

theorem increase_rowIds (store : Store) (increment : Increment) (deviceId : DeviceId)
    (targetDate : Date) :
    rowIds (increase store increment deviceId targetDate).2 = rowIds store := by
  have kept : ∀ b, (increment.rewrite (deviceId, targetDate) b).id = b.id := by
    intro b
    unfold Increment.rewrite
    split
    · exact (increment.values_keeps b).1
    · rfl
  unfold rowIds increase
  rw [getBudget_db]
  show (store.db.budgets.rows.map (increment.rewrite (deviceId, targetDate))).map Budget.id = _
  rw [List.map_map]
  exact List.map_congr_left fun b _ => kept b

theorem rebalance_rowIds (store : Store) (userId : UserId) (targetDate : Date) (now : UtcTime) :
    rowIds (rebalanceBudgets store userId targetDate now).2 = rowIds store := by
  unfold rowIds
  rw [rebalanceBudgets_rows, List.map_map]
  refine List.map_congr_left fun b _ => ?_
  exact rebalanced_keeps Budget.id _ now b fun _ _ _ => (rebalanceValues_keeps ..).1

theorem initialise_rowIds {store next : Store} {userId : UserId} {targetDate : Date}
    {created : List CreatedBudget} (fresh : FreshKeys store.db uuid)
    (returned : initialiseDailyBudgets store userId targetDate uuid = .ok (created, next)) :
    ∀ id ∈ rowIds next, id ∈ rowIds store ∨ ∃ deviceId, id = uuid deviceId := by
  obtain ⟨db, answered, -, rows⟩ := @initialise_returns targetDate uuid store userId fresh
  cases returned.symm.trans answered
  intro id member
  unfold rowIds at member ⊢
  rw [rows, List.map_append] at member
  rcases List.mem_append.mp member with before | added
  · exact .inl before
  · obtain ⟨row, inside, rfl⟩ := List.mem_map.mp added
    obtain ⟨device, -, rfl⟩ := List.mem_map.mp inside
    exact .inr ⟨device.id, rfl⟩

theorem usage_rowIds {store next : Store} {outcome : UsageOutcome}
    (fresh : FreshKeys store.db call.uuid)
    (returned : processUsageEvent device store call = .ok (outcome, next)) :
    ∀ id ∈ rowIds next, id ∈ rowIds store ∨ ∃ deviceId, id = call.uuid deviceId := by
  have ensured : ∀ {budget : Option BudgetDict} {between : Store},
      ensureBudget device store call = .ok (budget, between) →
        ∀ id ∈ rowIds between, id ∈ rowIds store ∨ ∃ deviceId, id = call.uuid deviceId := by
    intro budget between given
    have kept := getBudget_db store device.id call.today
    unfold ensureBudget at given
    generalize getBudget store device.id call.today = first at given kept
    obtain ⟨found, read⟩ := first
    dsimp only at kept
    cases found with
    | some found =>
      cases given
      intro id member
      unfold rowIds at member
      rw [kept] at member
      exact .inl member
    | none =>
      cases initialised : initialiseDailyBudgets read device.userId call.today call.uuid with
      | error raised =>
        simp only [initialised] at given
        cases given
      | ok both =>
        simp only [initialised] at given
        have last : getBudget both.2 device.id call.today = (budget, between) :=
          Except.ok.inj given
        have same : between.db = both.2.db := by
          rw [← getBudget_db both.2 device.id call.today, last]
        intro id member
        unfold rowIds at member
        rw [same] at member
        rcases initialise_rowIds (kept.symm ▸ fresh) initialised id member with before | drawn
        · unfold rowIds at before
          rw [kept] at before
          exact .inl before
        · exact .inr drawn
  unfold processUsageEvent at returned
  cases ensures : ensureBudget device store call with
  | error raised =>
    rw [ensures] at returned
    cases returned
  | ok both =>
    rw [ensures] at returned
    have last : answerUsage device both.2 both.1 call = (outcome, next) := Except.ok.inj returned
    have same : rowIds next = rowIds both.2 := by
      rw [show next = (answerUsage device both.2 both.1 call).2 from (congrArg Prod.snd last).symm]
      simp only [answerUsage, deduct]
      split
      · rw [recordUsage_eq, increase_rowIds]
      · rfl
    intro id member
    rw [same] at member
    exact ensured ensures id member

theorem serveEngine_rowIds {call : EngineCall}
    (fresh : ∀ uuid ∈ draws call, FreshKeys store.db uuid) :
    ∀ id ∈ rowIds (serveEngine store call), id ∈ rowIds store ∨
      ∃ uuid ∈ draws call, ∃ deviceId, id = uuid deviceId := by
  intro id member
  cases call with
  | get deviceId targetDate =>
    refine .inl ?_
    unfold rowIds at member ⊢
    rw [← getBudget_db store deviceId targetDate]
    exact member
  | initialise userId targetDate uuid =>
    simp only [serveEngine, serveBudget] at member
    split at member
    · rename_i created next returned
      exact (initialise_rowIds (fresh uuid rfl) returned id member).imp_right fun drawn =>
        ⟨uuid, rfl, drawn⟩
    · exact .inl member
  | record deviceId seconds targetDate =>
    simp only [serveEngine, serveBudget, recordUsage_eq, increase_rowIds] at member
    exact .inl member
  | usage device usage =>
    simp only [serveEngine] at member
    split at member
    · rename_i outcome next returned
      exact (usage_rowIds (fresh usage.uuid rfl) returned id member).imp_right fun drawn =>
        ⟨usage.uuid, rfl, drawn⟩
    · exact .inl member
  | rebalance userId targetDate now =>
    refine .inl ?_
    rw [← rebalance_rowIds store userId targetDate now]
    exact member
  | grant deviceId extraSeconds targetDate =>
    simp only [serveEngine, serveBudget, grantExtraTime_eq, increase_rowIds] at member
    exact .inl member

/-! ### Runs -/

/-- `OwnKey`, computed. -/
def concernsKey (devices : Table Device.id) (userId : UserId) (date : Date) (key : BudgetKey) :
    Bool :=
  (devices.find key.1).any (·.userId = userId) ∧ key.2 = date

/-- The calls that are made for a family and a day; a usage event is for the day it is processed
on. -/
def concernsDay (devices : Table Device.id) (userId : UserId) (date : Date) : EngineCall → Bool
  | .get deviceId targetDate => concernsKey devices userId date (deviceId, targetDate)
  | .initialise user targetDate _ => user = userId ∧ targetDate = date
  | .record deviceId _ targetDate => concernsKey devices userId date (deviceId, targetDate)
  | .usage device call => device.userId = userId ∧ call.today = date
  | .rebalance user targetDate _ => user = userId ∧ targetDate = date
  | .grant deviceId _ targetDate => concernsKey devices userId date (deviceId, targetDate)

/-- What a call is answered. -/
inductive EngineAnswer
  | created (answer : Except PyError (List CreatedBudget))
  | outcome (answer : Except PyError UsageOutcome)
  | rebalanced (updates : List RebalancedBudget)
  | budget (answer : Option BudgetDict)

def answerEngine (store : Store) : EngineCall → EngineAnswer
  | .get deviceId targetDate => .budget (getBudget store deviceId targetDate).1
  | .initialise userId targetDate uuid =>
    .created ((initialiseDailyBudgets store userId targetDate uuid).map Prod.fst)
  | .record deviceId seconds targetDate =>
    .budget (recordUsage store deviceId seconds targetDate).1
  | .usage device call => .outcome ((processUsageEvent device store call).map Prod.fst)
  | .rebalance userId targetDate now => .rebalanced (rebalanceBudgets store userId targetDate now).1
  | .grant deviceId extraSeconds targetDate =>
    .budget (grantExtraTime store deviceId extraSeconds targetDate).1

/-- The device of a usage event is a registered one. -/
def Registered (devices : Table Device.id) : EngineCall → Prop
  | .usage device _ => devices.find device.id = some device
  | _ => True

/-- What the calls are still to meet: the devices, and primary keys that are new and differ from
each other. -/
structure EngineFits (registry : Table Device.id) (store : Store) (calls : List EngineCall) :
    Prop where
  devices : store.db.devices = registry
  registered : ∀ call ∈ calls, Registered registry call
  fresh : ∀ call ∈ calls, ∀ uuid ∈ draws call, FreshKeys store.db uuid
  apart : calls.Pairwise fun first second => ∀ uuid ∈ draws first, ∀ uuid' ∈ draws second,
    ∀ deviceId deviceId', uuid deviceId ≠ uuid' deviceId'

variable {registry : Table Device.id} {engineCall : EngineCall} {calls : List EngineCall}

theorem serveEngine_devices (fits : EngineFits registry store (engineCall :: calls)) :
    (serveEngine store engineCall).db.devices = registry := by
  have fresh := fits.fresh engineCall List.mem_cons_self
  have registered := fits.registered engineCall List.mem_cons_self
  cases engineCall with
  | get deviceId targetDate =>
    exact (congrArg Database.devices (getBudget_db ..)).trans fits.devices
  | initialise userId targetDate uuid =>
    obtain ⟨db, answered, same, -⟩ :=
      @initialise_returns targetDate uuid store userId (fresh uuid rfl)
    simp only [serveEngine, serveBudget, answered]
    exact same.trans fits.devices
  | record deviceId seconds targetDate => exact (recordUsage_devices ..).trans fits.devices
  | usage device call =>
    have refl : SameDay device.userId call.today store store := ⟨rfl, rfl⟩
    obtain ⟨outcome, next, -, answered, -, -, same⟩ := usage_follows refl (fresh call.uuid rfl)
      (fresh call.uuid rfl) (fits.devices.symm ▸ registered) rfl rfl
    simp only [serveEngine, answered]
    exact same.trans fits.devices
  | rebalance userId targetDate now => exact (rebalanceBudgets_devices ..).trans fits.devices
  | grant deviceId extraSeconds targetDate => exact (grantExtraTime_devices ..).trans fits.devices

theorem EngineFits.skip (fits : EngineFits registry store (engineCall :: calls)) :
    EngineFits registry store calls where
  devices := fits.devices
  registered call member := fits.registered call (List.mem_cons_of_mem _ member)
  fresh call member := fits.fresh call (List.mem_cons_of_mem _ member)
  apart := (List.pairwise_cons.mp fits.apart).2

theorem EngineFits.serve (fits : EngineFits registry store (engineCall :: calls)) :
    EngineFits registry (serveEngine store engineCall) calls where
  devices := serveEngine_devices fits
  registered := fits.skip.registered
  fresh call member uuid drawn :=
    { unused := by
        intro deviceId taken
        have own := fits.fresh engineCall List.mem_cons_self
        rcases serveEngine_rowIds own _ taken with before | ⟨uuid', drawn', deviceId', same⟩
        · exact (fits.skip.fresh call member uuid drawn).unused deviceId before
        · exact (List.pairwise_cons.mp fits.apart).1 call member uuid' drawn' uuid drawn deviceId'
            deviceId same.symm
      distinct := (fits.skip.fresh call member uuid drawn).distinct }
  apart := fits.skip.apart

theorem concernsKey_iff :
    concernsKey registry userId date key = true ↔ OwnKey userId date registry key := by
  simp only [concernsKey, decide_eq_true_eq, OwnKey]
  cases registry.find key.1 <;> simp

theorem not_ownKey (other : concernsKey registry userId date key = false) :
    ¬ OwnKey userId date registry key := fun own =>
  Bool.false_ne_true (other.symm.trans (concernsKey_iff.mpr own))

/-- A key that concerns the family's day is one of its keys, on the day. -/
theorem EngineFits.ownKey (fits : EngineFits registry store (engineCall :: calls))
    (own : concernsKey registry userId date key = true) :
    OwnKey userId date store.db.devices key ∧ key.2 = date := by
  have mine := concernsKey_iff.mp own
  obtain ⟨-, -, -, day⟩ := id mine
  exact ⟨fits.devices.symm ▸ mine, day⟩

/-- **A call for others leaves the family's day alone.** -/
theorem serveEngine_stays (fits : EngineFits registry store (engineCall :: calls))
    (other : concernsDay registry userId date engineCall = false) :
    SameDay userId date (serveEngine store engineCall) store := by
  have fresh := fits.fresh engineCall List.mem_cons_self
  have registered := fits.registered engineCall List.mem_cons_self
  cases engineCall with
  | get deviceId targetDate => exact getBudget_spared (fits.devices.symm ▸ not_ownKey other)
  | initialise user targetDate uuid =>
    obtain ⟨created, next, answered, same⟩ :=
      initialise_spared (fresh uuid rfl) (of_decide_eq_false other)
    simp only [serveEngine, serveBudget, answered]
    exact same
  | record deviceId seconds targetDate =>
    simp only [serveEngine, serveBudget, recordUsage_eq]
    exact increase_spared (.usage seconds) (fits.devices.symm ▸ not_ownKey other)
  | usage device call =>
    obtain ⟨outcome, next, answered, same⟩ := usage_spared (fresh call.uuid rfl)
      (fits.devices.symm ▸ registered) (of_decide_eq_false other)
    simp only [serveEngine, answered]
    exact same
  | rebalance user targetDate now => exact rebalance_spared now (of_decide_eq_false other)
  | grant deviceId extraSeconds targetDate =>
    simp only [serveEngine, serveBudget, grantExtraTime_eq]
    exact increase_spared (.extra extraSeconds) (fits.devices.symm ▸ not_ownKey other)

/-- **A call for the family's day** is answered and carried out by it alone. -/
theorem serveEngine_follows (fits : EngineFits registry s (engineCall :: calls))
    (fits' : EngineFits registry t (engineCall :: calls))
    (own : concernsDay registry userId date engineCall = true) (same : SameDay userId date s t) :
    answerEngine s engineCall = answerEngine t engineCall ∧
      SameDay userId date (serveEngine s engineCall) (serveEngine t engineCall) := by
  have fresh := fits.fresh engineCall List.mem_cons_self
  have fresh' := fits'.fresh engineCall List.mem_cons_self
  have registered := fits.registered engineCall List.mem_cons_self
  cases engineCall with
  | get deviceId targetDate =>
    obtain ⟨mine, rfl⟩ := fits.ownKey own
    obtain ⟨answers, after⟩ := getBudget_follows same mine
    exact ⟨congrArg EngineAnswer.budget answers, after⟩
  | initialise user targetDate uuid =>
    obtain ⟨rfl, rfl⟩ := of_decide_eq_true own
    obtain ⟨created, s', t', answered, answered', after, -⟩ :=
      initialise_follows same (fresh uuid rfl) (fresh' uuid rfl)
    simp only [answerEngine, serveEngine, serveBudget, answered, answered']
    exact ⟨rfl, after⟩
  | record deviceId seconds targetDate =>
    simp only [answerEngine, serveEngine, serveBudget, recordUsage_eq]
    obtain ⟨mine, rfl⟩ := fits.ownKey own
    obtain ⟨answers, after⟩ := increase_follows same (.usage seconds) mine
    exact ⟨congrArg EngineAnswer.budget answers, after⟩
  | usage device call =>
    obtain ⟨owner, today⟩ := of_decide_eq_true own
    obtain ⟨outcome, s', t', answered, answered', after, -⟩ := usage_follows same
      (fresh call.uuid rfl) (fresh' call.uuid rfl) (fits.devices.symm ▸ registered) owner today
    simp only [answerEngine, serveEngine, answered, answered']
    exact ⟨rfl, after⟩
  | rebalance user targetDate now =>
    obtain ⟨rfl, rfl⟩ := of_decide_eq_true own
    obtain ⟨answers, after⟩ := rebalance_follows same now
    exact ⟨congrArg EngineAnswer.rebalanced answers, after⟩
  | grant deviceId extraSeconds targetDate =>
    simp only [answerEngine, serveEngine, serveBudget, grantExtraTime_eq]
    obtain ⟨mine, rfl⟩ := fits.ownKey own
    obtain ⟨answers, after⟩ := increase_follows same (.extra extraSeconds) mine
    exact ⟨congrArg EngineAnswer.budget answers, after⟩

/-- **Families and days apart.** The calls of the engine for other families, and for other days, can
be left out of a run: the family has the same budget rows for the day and the same in the cache, and
every call for it is answered the same. -/
theorem families_apart (userId : UserId) (date : Date) (registry : Table Device.id) (store : Store)
    (calls : List EngineCall) (fits : EngineFits registry store calls) :
    familyDay userId date (run serveEngine store calls) =
        familyDay userId date
          (run serveEngine store (calls.filter (concernsDay registry userId date))) ∧
      heard serveEngine answerEngine (concernsDay registry userId date) store calls =
        heard serveEngine answerEngine (concernsDay registry userId date) store
          (calls.filter (concernsDay registry userId date)) := by
  have later : ∀ store call calls, EngineFits registry store (call :: calls) →
      EngineFits registry (serveEngine store call) calls := fun _ _ _ fits => fits.serve
  have skipped : ∀ store call calls, EngineFits registry store (call :: calls) →
      EngineFits registry store calls := fun _ _ _ fits => fits.skip
  have stays : ∀ store call calls, EngineFits registry store (call :: calls) →
      concernsDay registry userId date call = false →
      familyDay userId date (serveEngine store call) = familyDay userId date store :=
    fun _ _ _ fits other => (serveEngine_stays fits other).view
  have follows : ∀ s t call calls, EngineFits registry s (call :: calls) →
      EngineFits registry t (call :: calls) → concernsDay registry userId date call = true →
      familyDay userId date s = familyDay userId date t →
      answerEngine s call = answerEngine t call ∧
        familyDay userId date (serveEngine s call) = familyDay userId date (serveEngine t call) := by
    intro s t call calls fits fits' own view
    obtain ⟨answers, after⟩ := serveEngine_follows fits fits' own
      ⟨fits.devices.trans fits'.devices.symm, view⟩
    exact ⟨answers, after.view⟩
  exact run_purge _ _ _ later skipped stays follows fits fits rfl

/-! ### Two families -/

/-- A phone of another family. -/
def neighboursPhone : Device where
  id := "phone"
  userId := "neighbours"
  priority := 3
  isOnline := true
  priority_pos := by decide

def twoFamilies : Table Device.id := tabletDb.devices.insert neighboursPhone rfl

/-- Keys with a mark in front. -/
def marked (mark : Char) (deviceId : DeviceId) : String := String.ofList (mark :: deviceId.toList)

theorem marked_inj {first second : Char} {deviceId deviceId' : DeviceId} :
    marked first deviceId = marked second deviceId' ↔ first = second ∧ deviceId = deviceId' := by
  simp [marked]

/-- Both families start their day, and the neighbours use theirs up. -/
def neighboursDay : List EngineCall :=
  [.initialise "family" someDay (marked 'a'),
    .usage neighboursPhone { threeHours with uuid := marked 'b' },
    .record "phone" 60 someDay,
    .record "tablet" 60 someDay,
    .rebalance "neighbours" someDay (someTime 12 0),
    .grant "tablet" 600 someDay,
    .grant "phone" 600 someDay,
    .get "phone" someDay,
    .get "tablet" someDay]

theorem neighboursDay_fits : EngineFits twoFamilies (.start twoFamilies fun _ => none)
    neighboursDay where
  devices := rfl
  registered call member := by
    simp only [neighboursDay, List.mem_cons, List.not_mem_nil, or_false] at member
    rcases member with rfl | rfl | rfl | rfl | rfl | rfl | rfl | rfl | rfl <;> trivial
  fresh call member uuid drawn := by
    have letter : ∃ mark, uuid = marked mark := by
      simp only [neighboursDay, List.mem_cons, List.not_mem_nil, or_false] at member
      rcases member with rfl | rfl | rfl | rfl | rfl | rfl | rfl | rfl | rfl <;> cases drawn <;>
        exact ⟨_, rfl⟩
    obtain ⟨mark, rfl⟩ := letter
    exact ⟨fun _ => List.not_mem_nil, fun _ _ same => (marked_inj.mp same).2⟩
  apart := by
    simp [neighboursDay, draws, marked_inj]

theorem families_apart_neighbours :
    familyDay "family" someDay (run serveEngine (.start twoFamilies fun _ => none) neighboursDay) =
        familyDay "family" someDay (run serveEngine (.start twoFamilies fun _ => none)
          (neighboursDay.filter (concernsDay twoFamilies "family" someDay))) ∧
      heard serveEngine answerEngine (concernsDay twoFamilies "family" someDay)
          (.start twoFamilies fun _ => none) neighboursDay =
        heard serveEngine answerEngine (concernsDay twoFamilies "family" someDay)
          (.start twoFamilies fun _ => none)
          (neighboursDay.filter (concernsDay twoFamilies "family" someDay)) :=
  families_apart "family" someDay twoFamilies (.start twoFamilies fun _ => none) neighboursDay
    neighboursDay_fits

-- The first call of the family starts its day, and the last one of it reads the tablet's budget.
example : neighboursDay.map (concernsDay twoFamilies "family" someDay) =
    [true, false, false, true, false, true, false, false, true] := rfl

end ScreenSync.Decision
