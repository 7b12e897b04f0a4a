/-
**Budgets for every device.**

`initialise_daily_budgets` selects the devices that are online, and creates a row for each of them
that has none. A device that is offline is left without one, and `process_usage_event` then takes
the missing budget for one of which nothing remains.

* `initialise_creates` — the loop over the devices, if the keys it draws are new: it returns, and
  appends the missing rows.
* `ensureBudget_of_provided` — the budget a usage event finds.
* `everyDeviceProvided_iff` — all devices of the user are provided for exactly if those that are
  offline had a row already.
* `offline_tablet_unprovided` — a tablet that is offline.
-/

import ScreenSync.Decision.Engine

namespace ScreenSync.Decision

open ScreenSync.Foundation ScreenSync.Shared

/-! ### The loop -/

/-- The primary keys drawn for new rows are new, and differ from each other. -/
structure FreshKeys (db : Database) (uuid : DeviceId → String) : Prop where
  unused : ∀ deviceId, uuid deviceId ∉ db.budgets.rows.map Budget.id
  distinct : Function.Injective uuid

/-- The devices of a list that have no row for a date. -/
def missing (db : Database) (targetDate : Date) (devices : List Device) : List Device :=
  devices.filter fun device => db.budgets.find (device.id, targetDate) = none

/-- The entry of the answer for a device. -/
def createdBudget (device : Device) : CreatedBudget :=
  ⟨device.id, priorityAdjustedBudget device.priority⟩

variable {targetDate : Date} {uuid : DeviceId → String}

theorem insertBudget_fresh {db : Database} {row : Budget}
    (free : db.budgets.find row.key = none) (unused : row.id ∉ db.budgets.rows.map Budget.id) :
    ∃ next, db.insertBudget row = .ok next ∧ next.devices = db.devices ∧
      next.budgets.rows = db.budgets.rows ++ [row] ∧
      ∀ key, next.budgets.find key = if row.key = key then some row else db.budgets.find key := by
  refine ⟨_, dif_pos ⟨free, unused⟩, rfl, rfl, fun key => ?_⟩
  exact Table.find_insert free key

/-- **One turn of the loop**, for a device that has no row: it appends one, and leaves the lookups
of all other devices as they were. -/
theorem initialiseDevice_creates {device : Device} {soFar : List CreatedBudget × Database}
    (found : soFar.2.budgets.find (device.id, targetDate) = none)
    (unused : uuid device.id ∉ soFar.2.budgets.rows.map Budget.id) :
    ∃ next, initialiseDevice targetDate uuid soFar device =
        .ok (soFar.1 ++ [createdBudget device], next) ∧
      next.devices = soFar.2.devices ∧
      next.budgets.rows = soFar.2.budgets.rows ++ [initialBudget device targetDate uuid] ∧
      ∀ other, other ≠ device.id →
        next.budgets.find (other, targetDate) = soFar.2.budgets.find (other, targetDate) := by
  obtain ⟨next, inserted, devices, appended, finds⟩ :=
    @insertBudget_fresh soFar.2 (initialBudget device targetDate uuid) found unused
  refine ⟨next, ?_, devices, appended, fun other apart => ?_⟩
  · simp only [initialiseDevice, found, inserted]
    rfl
  · have differ : (initialBudget device targetDate uuid).key ≠ (other, targetDate) :=
      fun keys => apart (Prod.mk.inj keys).1.symm
    rw [finds, if_neg differ]

/-- **What the loop appends**: the rows that are missing, in the order of the devices. -/
theorem initialise_creates {devices : List Device} (apart : (devices.map Device.id).Nodup)
    {soFar : List CreatedBudget × Database} (distinct : Function.Injective uuid)
    (unused : ∀ device ∈ devices, uuid device.id ∉ soFar.2.budgets.rows.map Budget.id) :
    ∃ db, devices.foldlM (initialiseDevice targetDate uuid) soFar =
        .ok (soFar.1 ++ (missing soFar.2 targetDate devices).map createdBudget, db) ∧
      db.devices = soFar.2.devices ∧
      db.budgets.rows = soFar.2.budgets.rows ++
        (missing soFar.2 targetDate devices).map fun device =>
          initialBudget device targetDate uuid := by
  induction devices generalizing soFar with
  | nil => exact ⟨soFar.2, by simp [missing]; rfl, rfl, by simp [missing]⟩
  | cons device later ih =>
    obtain ⟨own, others⟩ := List.nodup_cons.mp apart
    obtain ⟨ownUnused, othersUnused⟩ := List.forall_mem_cons.mp unused
    have apartFrom : ∀ other ∈ later, other.id ≠ device.id := fun other inside same =>
      own (List.mem_map.mpr ⟨other, inside, same⟩)
    rw [List.foldlM_cons]
    cases found : soFar.2.budgets.find (device.id, targetDate) with
    | some row =>
      obtain ⟨db, looped, devices, rows⟩ := ih others othersUnused
      have skipped : missing soFar.2 targetDate (device :: later) =
          missing soFar.2 targetDate later := by
        simp [missing, found]
      have stepped : initialiseDevice targetDate uuid soFar device = .ok soFar := by
        unfold initialiseDevice
        rw [found]
      rw [skipped, stepped]
      exact ⟨db, looped, devices, rows⟩
    | none =>
      obtain ⟨next, stepped, sameDevices, appended, finds⟩ :=
        initialiseDevice_creates found ownUnused
      -- the new row is for no later device, and takes the key of none
      have same : missing next targetDate later = missing soFar.2 targetDate later := by
        refine List.filter_congr fun other inside => ?_
        rw [finds other.id (apartFrom other inside)]
      have stillUnused : ∀ other ∈ later, uuid other.id ∉ next.budgets.rows.map Budget.id := by
        intro other inside
        rw [appended, List.map_append, List.mem_append, not_or]
        refine ⟨othersUnused other inside, fun taken => apartFrom other inside ?_⟩
        exact distinct (List.mem_singleton.mp taken)
      obtain ⟨db, looped, devices, rows⟩ :=
        @ih others (soFar.1 ++ [createdBudget device], next) stillUnused
      have first : missing soFar.2 targetDate (device :: later) =
          device :: missing soFar.2 targetDate later := by
        simp [missing, found]
      refine ⟨db, ?_, devices.trans sameDevices, ?_⟩
      · rw [stepped, first, List.map_cons, ← same]
        refine looped.trans ?_
        rw [List.append_assoc]
        rfl
      · rw [rows, appended, same, first, List.append_assoc]
        rfl

/-! ### The call -/

/-- The devices that `initialise_daily_budgets` selects. -/
def onlineDevices (db : Database) (userId : UserId) : List Device :=
  db.devices.rows.filter fun device => device.userId = userId ∧ device.isOnline = true

variable {store : Store} {userId : UserId}

theorem initialise_returns (fresh : FreshKeys store.db uuid) :
    ∃ db, initialiseDailyBudgets store userId targetDate uuid =
        .ok ((missing store.db targetDate (onlineDevices store.db userId)).map createdBudget,
          { store with db }) ∧
      db.devices = store.db.devices ∧
      db.budgets.rows = store.db.budgets.rows ++
        (missing store.db targetDate (onlineDevices store.db userId)).map fun device =>
          initialBudget device targetDate uuid := by
  have apart : ((onlineDevices store.db userId).map Device.id).Nodup :=
    store.db.devices.unique.sublist (List.filter_sublist.map _)
  obtain ⟨db, looped, devices, rows⟩ :=
    @initialise_creates targetDate uuid _ apart ([], store.db) fresh.distinct
      fun device _ => fresh.unused device.id
  refine ⟨db, ?_, devices, rows⟩
  rw [onlineDevices] at looped
  rw [initialiseDailyBudgets, looped]
  rfl

/-- A row that the call appends stands for an online device. -/
theorem find_initialised {db : Database}
    (rows : db.budgets.rows = store.db.budgets.rows ++
      (missing store.db targetDate (onlineDevices store.db userId)).map fun device =>
        initialBudget device targetDate uuid)
    {device : Device} (listed : device ∈ store.db.devices.rows) (owner : device.userId = userId)
    (provided : device.isOnline = false →
      (store.db.budgets.find (device.id, targetDate)).isSome) :
    ∃ row, db.budgets.find (device.id, targetDate) = some row := by
  cases found : store.db.budgets.find (device.id, targetDate) with
  | some row =>
    obtain ⟨member, key⟩ := Table.find_eq_some.mp found
    refine ⟨row, Table.find_eq_some.mpr ⟨?_, key⟩⟩
    rw [rows]
    exact List.mem_append_left _ member
  | none =>
    have online : device.isOnline = true := by
      by_contra offline
      have there := provided (Bool.not_eq_true _ ▸ offline)
      rw [found] at there
      cases there
    have selected : device ∈ missing store.db targetDate (onlineDevices store.db userId) :=
      List.mem_filter.mpr ⟨List.mem_filter.mpr ⟨listed, decide_eq_true ⟨owner, online⟩⟩,
        decide_eq_true found⟩
    refine ⟨initialBudget device targetDate uuid, Table.find_eq_some.mpr ⟨?_, rfl⟩⟩
    rw [rows]
    exact List.mem_append_right _ (List.mem_map_of_mem selected)

/-- **A second call creates nothing.** -/
theorem initialise_again
    (covered : missing store.db targetDate (onlineDevices store.db userId) = [])
    (uuid : DeviceId → String) :
    initialiseDailyBudgets store userId targetDate uuid = .ok ([], store) := by
  have looped : ∀ devices : List Device, missing store.db targetDate devices = [] →
      devices.foldlM (initialiseDevice targetDate uuid) ([], store.db) = .ok ([], store.db) := by
    intro devices none
    induction devices with
    | nil => rfl
    | cons device later ih =>
      have there : ∃ row, store.db.budgets.find (device.id, targetDate) = some row := by
        rw [← Option.ne_none_iff_exists']
        intro absent
        exact List.filter_eq_nil_iff.mp none device List.mem_cons_self (decide_eq_true absent)
      obtain ⟨row, found⟩ := there
      have stepped : initialiseDevice targetDate uuid ([], store.db) device =
          .ok ([], store.db) := by
        simp only [initialiseDevice, found]
      rw [List.foldlM_cons, stepped]
      refine ih (List.filter_eq_nil_iff.mpr fun other inside => ?_)
      exact List.filter_eq_nil_iff.mp none other (List.mem_cons_of_mem _ inside)
  have nothing := looped _ covered
  rw [onlineDevices] at nothing
  rw [initialiseDailyBudgets, nothing]
  rfl

/-! ### Usage events -/

/-- A device with a row, or an entry in the cache, is answered with a budget. -/
theorem getBudget_of_found {deviceId : DeviceId} {row : Budget}
    (found : store.db.budgets.find (deviceId, targetDate) = some row) :
    ∃ budget next, getBudget store deviceId targetDate = (some budget, next) := by
  simp only [getBudget, budgetCacheKey]
  split
  · rename_i cached hit
    exact ⟨cached, store, rfl⟩
  · rw [found]
    exact ⟨_, _, rfl⟩

/-- **The budget a usage event finds**, whether it was there or is created. -/
theorem ensureBudget_of_provided {device : Device} {call : UsageCall}
    (fresh : FreshKeys store.db call.uuid) (listed : device ∈ store.db.devices.rows)
    (provided : device.isOnline = false →
      (store.db.budgets.find (device.id, call.today)).isSome) :
    ∃ budget next, ensureBudget device store call = .ok (some budget, next) := by
  unfold ensureBudget
  split
  · rename_i budget next read
    exact ⟨budget, next, rfl⟩
  · rename_i next read
    have same : next = store := by
      simp only [getBudget] at read
      split at read
      · cases read
      · split at read
        · cases read
          rfl
        · cases read
    rw [same]
    obtain ⟨db, created, -, rows⟩ :=
      @initialise_returns call.today call.uuid store device.userId fresh
    obtain ⟨row, found⟩ := find_initialised rows listed rfl provided
    obtain ⟨budget, last, answer⟩ := @getBudget_of_found call.today { store with db } _ _ found
    refine ⟨budget, last, ?_⟩
    rw [created]
    show Except.ok (getBudget { store with db } device.id call.today) = _
    rw [answer]

/-- A verdict of an exhausted budget blocks, and hands the budget on as it was read. -/
theorem answerUsage_budget {device : Device} {call : UsageCall} {budget : Option BudgetDict}
    (reason : (answerUsage device store budget call).1.reason = "budget_exhausted") :
    (answerUsage device store budget call).1.budget = budget := by
  have nothing := remaining_le_of_budget_exhausted reason
  have blocked := evaluateRules_exhausted nothing
  show (deduct device store budget call _).1 = budget
  unfold deduct
  rw [if_neg (not_not.mpr blocked)]

/-! ### Every device is provided for -/

/-- What `initialise_daily_budgets` has to leave behind. -/
structure Provides (store : Store) (userId : UserId) (targetDate : Date) (next : Store) : Prop where
  everyDevice : ∀ device ∈ store.db.devices.rows, device.userId = userId →
    ∃! row, row ∈ next.db.budgets.rows ∧ row.key = (device.id, targetDate)
  kept : store.db.budgets.rows <+: next.db.budgets.rows
  again : ∀ uuid, initialiseDailyBudgets next userId targetDate uuid = .ok ([], next)

/-- The usage events of a user's devices on a date are answered, and a budget that is reported
exhausted is one. -/
def NoneMissed (store : Store) (userId : UserId) (targetDate : Date) : Prop :=
  ∀ device ∈ store.db.devices.rows, device.userId = userId → ∀ call : UsageCall,
    call.today = targetDate → FreshKeys store.db call.uuid →
      ∃ outcome next, processUsageEvent device store call = .ok (outcome, next) ∧
        (outcome.reason = "budget_exhausted" → outcome.budget ≠ none)

/-- Every device of the user gets a budget. -/
def EveryDeviceProvided (store : Store) (userId : UserId) (targetDate : Date)
    (uuid : DeviceId → String) : Prop :=
  (∃ created next, initialiseDailyBudgets store userId targetDate uuid = .ok (created, next) ∧
    Provides store userId targetDate next) ∧ NoneMissed store userId targetDate

/-- The devices that are offline have their row already. -/
def OfflineProvided (store : Store) (userId : UserId) (targetDate : Date) : Prop :=
  ∀ device ∈ store.db.devices.rows, device.userId = userId → device.isOnline = false →
    (store.db.budgets.find (device.id, targetDate)).isSome

theorem noneMissed_of_provided (provided : OfflineProvided store userId targetDate) :
    NoneMissed store userId targetDate := by
  rintro device listed owner call rfl fresh
  obtain ⟨budget, next, ensured⟩ := ensureBudget_of_provided fresh listed
    (provided device listed owner)
  refine ⟨(answerUsage device next (some budget) call).1,
    (answerUsage device next (some budget) call).2, ?_, fun reason => ?_⟩
  · unfold processUsageEvent
    rw [ensured]
    rfl
  · rw [answerUsage_budget reason]
    exact Option.some_ne_none budget

theorem provides_of_provided (fresh : FreshKeys store.db uuid)
    (provided : OfflineProvided store userId targetDate) :
    ∃ created next, initialiseDailyBudgets store userId targetDate uuid = .ok (created, next) ∧
      Provides store userId targetDate next := by
  obtain ⟨db, created, devices, rows⟩ :=
    @initialise_returns targetDate uuid store userId fresh
  have found : ∀ device ∈ store.db.devices.rows, device.userId = userId →
      ∃ row, db.budgets.find (device.id, targetDate) = some row := fun device listed owner =>
    find_initialised rows listed owner (provided device listed owner)
  refine ⟨_, _, created, fun device listed owner => ?_, ?_, initialise_again ?_⟩
  · obtain ⟨row, there⟩ := found device listed owner
    obtain ⟨member, key⟩ := Table.find_eq_some.mp there
    refine ⟨row, ⟨member, key⟩, fun other both => ?_⟩
    exact db.budgets.eq_of_key_eq both.1 member (both.2.trans key.symm)
  · show store.db.budgets.rows <+: db.budgets.rows
    rw [rows]
    exact List.prefix_append _ _
  · refine List.filter_eq_nil_iff.mpr fun device selected absent => ?_
    obtain ⟨listed, owned⟩ := List.mem_filter.mp selected
    rw [devices] at listed
    obtain ⟨row, there⟩ := found device listed (of_decide_eq_true owned).1
    cases there.symm.trans (of_decide_eq_true absent)

/-- **Every device gets a budget** exactly if those that are offline had one already. -/
theorem everyDeviceProvided_iff (store : Store) (userId : UserId) (targetDate : Date)
    (uuid : DeviceId → String) (fresh : FreshKeys store.db uuid) :
    EveryDeviceProvided store userId targetDate uuid ↔ OfflineProvided store userId targetDate := by
  refine ⟨fun every => ?_, fun provided =>
    ⟨provides_of_provided fresh provided, noneMissed_of_provided provided⟩⟩
  intro device listed owner offline
  obtain ⟨⟨created, next, returned, provides⟩, -⟩ := every
  obtain ⟨db, creates, -, rows⟩ :=
    @initialise_returns targetDate uuid store userId fresh
  cases returned.symm.trans creates
  obtain ⟨row, ⟨member, key⟩, -⟩ := provides.everyDevice device listed owner
  replace member : row ∈ db.budgets.rows := member
  rw [rows, List.mem_append] at member
  rcases member with old | new
  · exact Option.isSome_iff_exists.mpr ⟨row, Table.find_eq_some.mpr ⟨old, key⟩⟩
  · -- an appended row is for an online device
    obtain ⟨other, selected, rfl⟩ := List.mem_map.mp new
    obtain ⟨onlineListed, owned⟩ := List.mem_filter.mp (List.mem_filter.mp selected).1
    have same : other = device :=
      store.db.devices.eq_of_key_eq onlineListed listed (Prod.mk.inj key).1
    have online := (of_decide_eq_true owned).2
    rw [same, offline] at online
    cases online

/-! ### A tablet that is offline -/

def offlineTablet : Device := { tablet with isOnline := false }

def offlineStore : Store := .start (Table.empty.insert offlineTablet rfl) fun _ => none

theorem offlineStore_freshKeys : FreshKeys offlineStore.db id :=
  ⟨fun _ => List.not_mem_nil, Function.injective_id⟩

theorem everyDeviceProvided_iff_tablet :
    EveryDeviceProvided offlineStore "family" someDay id ↔
      OfflineProvided offlineStore "family" someDay :=
  everyDeviceProvided_iff offlineStore "family" someDay id offlineStore_freshKeys

/-- Half an hour of work after noon. -/
def afternoonWork : UsageCall where
  appCategory := "productivity"
  rawSeconds := 1800
  today := someDay
  timestamp := someTime 12 30
  publishedAt := someTime 12 30
  uuid := id

/-- Nothing is created for the tablet, and half an hour of work is refused for want of a budget. -/
theorem offline_tablet_unprovided :
    FreshKeys offlineStore.db id ∧ ¬ EveryDeviceProvided offlineStore "family" someDay id ∧
      (processUsageEvent offlineTablet offlineStore afternoonWork).toOption.map
        (fun answer => (answer.1.reason, answer.1.budget)) = some ("budget_exhausted", none) := by
  refine ⟨offlineStore_freshKeys, fun every => ?_, by decide +kernel⟩
  obtain ⟨⟨created, next, returned, provides⟩, -⟩ := every
  have nothing : initialiseDailyBudgets offlineStore "family" someDay id =
      .ok ([], offlineStore) := rfl
  cases returned.symm.trans nothing
  obtain ⟨row, ⟨member, -⟩, -⟩ := provides.everyDevice offlineTablet (List.mem_singleton_self _) rfl
  cases member

end ScreenSync.Decision
