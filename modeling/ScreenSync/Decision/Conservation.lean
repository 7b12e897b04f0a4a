/-
**Budget conservation over whole runs.**

Any sequence of the four writing calls, from a store without budget rows. What a row was created
with, and which calls have come since, is read off the sequence (`sinceCreation`); `charged` and
`granted` add up what those calls recorded and granted for the row.

* `serveBudget_effect` — what one call can do: it rewrites the rows without touching their keys,
  charges and grants what it says, and appends rows that are new and unused. A rebalance is the hard
  case: the shares it hands out come out of the pool it found (`rebalanced_sum_le`), because the
  denominator also counts the exhausted devices and every share is truncated.
* `accounted` — the invariant of whole runs, by `run_history`.
* `budgets_conserved` — a user's totals never exceed what their rows were created with and granted
  since, and every row has used exactly what was recorded for it.
-/

import ScreenSync.Foundation.Run
import ScreenSync.Decision.Budget

namespace ScreenSync.Decision

open ScreenSync.Foundation ScreenSync.Shared

/-! ### What the sequence of calls says -/

/-- The seconds a call passes to `record_usage` for a row. -/
def BudgetCall.charge (key : BudgetKey) : BudgetCall → Int
  | .record deviceId seconds targetDate => if (deviceId, targetDate) = key then seconds else 0
  | _ => 0

/-- The seconds a call passes to `grant_extra_time` for a row. -/
def BudgetCall.grantTo (key : BudgetKey) : BudgetCall → Int
  | .grant deviceId extraSeconds targetDate =>
    if (deviceId, targetDate) = key then extraSeconds else 0
  | _ => 0

/-- The seconds some calls record for a row. -/
def charged (key : BudgetKey) (calls : List BudgetCall) : Int := (calls.map (·.charge key)).sum

/-- The seconds some calls grant to a row. -/
def granted (key : BudgetKey) (calls : List BudgetCall) : Int := (calls.map (·.grantTo key)).sum

/-- The total a row was created with and the calls that came after its creation; `none` while the
calls have not created it. -/
def sinceCreation (store : Store) : List BudgetCall → BudgetKey → Option (Int × List BudgetCall)
  | [], _ => none
  | call :: later, key =>
    match store.db.budgets.find key, (serveBudget store call).db.budgets.find key with
    | none, some row => some (row.totalBudgetSeconds, later)
    | _, _ => sinceCreation (serveBudget store call) later key

/-- What a row was created with and granted since. -/
def allotted (store : Store) (calls : List BudgetCall) (key : BudgetKey) : Int :=
  match sinceCreation store calls key with
  | some (created, later) => created + granted key later
  | none => 0

/-! ### What one call can do -/

/-- A call takes `db` to `next` by rewriting every row with `f` and appending `created`. -/
structure IsEffect (db next : Database) (call : BudgetCall) (f : Budget → Budget)
    (created : List Budget) : Prop where
  devices : next.devices = db.devices
  rows : next.budgets.rows = db.budgets.rows.map f ++ created
  keeps : ∀ b, (f b).key = b.key
  charges : ∀ b ∈ db.budgets.rows, (f b).usedSeconds = b.usedSeconds + call.charge b.key
  fresh : ∀ b ∈ created, b.usedSeconds = 0 ∧ db.budgets.find b.key = none
  conserves : ∀ userId date,
    ((db.budgetRows userId date).map fun row => (f row.1).totalBudgetSeconds).sum ≤
      ((db.budgetRows userId date).map fun row =>
        row.1.totalBudgetSeconds + call.grantTo row.1.key).sum

/-- The rows the loop over the devices appends. -/
theorem initialise_appends {targetDate : Date} {uuid : DeviceId → String} {devices : List Device}
    {soFar final : List CreatedBudget × Database}
    (finished : devices.foldlM (initialiseDevice targetDate uuid) soFar = .ok final) :
    ∃ created, final.2.devices = soFar.2.devices ∧
      final.2.budgets.rows = soFar.2.budgets.rows ++ created ∧
      ∀ b ∈ created, b.usedSeconds = 0 ∧ soFar.2.budgets.find b.key = none := by
  induction devices generalizing soFar with
  | nil =>
    cases finished
    exact ⟨[], rfl, (List.append_nil _).symm, fun b member => by cases member⟩
  | cons device later ih =>
    rw [List.foldlM_cons] at finished
    cases stepped : initialiseDevice targetDate uuid soFar device with
    | error raised =>
      rw [stepped] at finished
      cases finished
    | ok next =>
      rw [stepped] at finished
      obtain ⟨created, devicesSame, appended, fresh⟩ := ih finished
      unfold initialiseDevice at stepped
      split at stepped
      · cases stepped
        exact ⟨created, devicesSame, appended, fresh⟩
      · rename_i absent
        cases inserted : soFar.2.insertBudget (initialBudget device targetDate uuid) with
        | error raised =>
          simp only [inserted] at stepped
          cases stepped
        | ok db =>
          simp only [inserted] at stepped
          cases stepped
          obtain ⟨-, sameDevices, rows⟩ := Database.insertBudget_ok inserted
          refine ⟨initialBudget device targetDate uuid :: created, devicesSame.trans sameDevices,
            by rw [appended, rows, List.append_assoc]; rfl, fun b member => ?_⟩
          rcases List.mem_cons.mp member with rfl | member
          · exact ⟨rfl, absent⟩
          · obtain ⟨unused, missing⟩ := fresh b member
            refine ⟨unused, Table.find_eq_none.mpr fun old inside => ?_⟩
            have still : old ∈ db.budgets.rows := by
              rw [rows]
              exact List.mem_append_left _ inside
            exact Table.find_eq_none.mp missing old still

/-! ### A rebalance hands out no more than it pools -/

theorem rebalanceShare_nonneg {pool : Int} {priorities : Nat} (device : Device) (amount : 0 ≤ pool)
    (positive : 0 < priorities) : 0 ≤ rebalanceShare pool priorities device := by
  have share : 0 ≤ (pool : ℚ) * ((device.priority : ℚ) / (priorities : ℚ)) :=
    share_nonneg amount (by positivity) (by exact_mod_cast positive)
  rw [rebalanceShare, truncate_of_nonneg share]
  exact Int.floor_nonneg.mpr share

theorem totalPool_nonneg (rows : List (Budget × Device)) : 0 ≤ totalPool rows := by
  refine List.sum_nonneg fun amount member => ?_
  obtain ⟨row, -, rfl⟩ := List.mem_map.mp member
  exact le_max_left _ _

theorem totalPriority_pos {rows : List (Budget × Device)} {row : Budget × Device}
    (member : row ∈ rows) : 0 < totalPriority rows :=
  lt_of_lt_of_le row.2.priority_pos
    (List.single_le_sum (fun _ _ => Nat.zero_le _) _ (List.mem_map_of_mem member))

/-- **The shares of a rebalance fit in its pool**, even if every listed row took one. -/
theorem sum_rebalanceShare_le {rows : List (Budget × Device)} {row : Budget × Device}
    (member : row ∈ rows) :
    (rows.map fun row => rebalanceShare (totalPool rows) (totalPriority rows) row.2).sum ≤
      totalPool rows := by
  refine sum_truncate_shares_le (fun row : Budget × Device => (row.2.priority : ℚ)) rows
    (totalPool_nonneg rows) (fun _ _ => by positivity)
    (by exact_mod_cast totalPriority_pos member) (le_of_eq ?_)
  rw [totalPriority, Nat.cast_list_sum, List.map_map]
  rfl

/-- The total of a listed row after the rebalance. -/
theorem rebalanced_total_le {rows : List (Budget × Device)} (now : UtcTime)
    (distinct : (rows.map fun row => row.1.id).Nodup) {row : Budget × Device}
    (member : row ∈ rows) :
    (rebalanced rows now row.1).totalBudgetSeconds +
        max 0 (row.1.totalBudgetSeconds - row.1.usedSeconds) ≤
      row.1.totalBudgetSeconds +
        rebalanceShare (totalPool rows) (totalPriority rows) row.2 := by
  have share := rebalanceShare_nonneg row.2 (totalPool_nonneg rows) (totalPriority_pos member)
  rw [rebalanced, assign_of_mem distinct member rfl, rebalanceValues]
  split
  · rename_i exhausted
    rw [Exhausted] at exhausted
    simp only
    omega
  · rename_i active
    rw [Exhausted] at active
    simp only [newTotal]
    omega

/-- **A rebalance mints no time**, for the user and date it is for and for every other. -/
theorem rebalanced_sum_le (db : Database) (userId : UserId) (targetDate : Date) (now : UtcTime)
    (someone : UserId) (date : Date) :
    ((db.budgetRows someone date).map fun row =>
        (rebalanced (db.budgetRows userId targetDate) now row.1).totalBudgetSeconds).sum ≤
      ((db.budgetRows someone date).map fun row => row.1.totalBudgetSeconds).sum := by
  have distinct := budgetRows_ids_nodup db userId targetDate
  by_cases own : someone = userId ∧ date = targetDate
  · obtain ⟨rfl, rfl⟩ := own
    cases listed : db.budgetRows someone date with
    | nil => simp
    | cons first rest =>
      rw [← listed]
      have member : first ∈ db.budgetRows someone date := by
        rw [listed]
        exact List.mem_cons_self
      have rowwise := List.sum_le_sum fun row (inside : row ∈ db.budgetRows someone date) =>
        rebalanced_total_le now distinct inside
      have shares := sum_rebalanceShare_le member
      simp only [List.sum_map_add] at rowwise
      rw [← totalPool] at rowwise
      omega
  · -- a row of another user or date is not among the rows the rebalance aims at
    refine le_of_eq (congrArg List.sum (List.map_congr_left fun row member => ?_))
    rw [rebalanced, assign_of_forall_ne]
    intro other listed same
    obtain ⟨stored, owner⟩ := Database.mem_budgetRows.mp member
    obtain ⟨storedOther, ownerOther⟩ := Database.mem_budgetRows.mp listed
    rw [db.budget_eq_of_id storedOther stored same] at ownerOther
    obtain ⟨found, user, day⟩ := Database.ownerOf_eq_some.mp owner
    obtain ⟨foundOther, userOther, dayOther⟩ := Database.ownerOf_eq_some.mp ownerOther
    rw [found, Option.some.injEq] at foundOther
    rw [← foundOther] at userOther
    exact own ⟨user.symm.trans userOther, day.symm.trans dayOther⟩

/-! ### Every call has such an effect -/

/-- A call that only rewrites rows has an effect that appends none. -/
theorem IsEffect.of_rewrite {db next : Database} {call : BudgetCall} {f : Budget → Budget}
    (devices : next.devices = db.devices) (rows : next.budgets.rows = db.budgets.rows.map f)
    (keeps : ∀ b, (f b).key = b.key)
    (charges : ∀ b, (f b).usedSeconds = b.usedSeconds + call.charge b.key)
    (grants : ∀ b, (f b).totalBudgetSeconds = b.totalBudgetSeconds + call.grantTo b.key) :
    IsEffect db next call f [] where
  devices := devices
  rows := by rw [rows, List.append_nil]
  keeps := keeps
  charges b _ := charges b
  fresh b member := by cases member
  conserves someone date := le_of_eq (by simp only [grants])

/-- A call that rewrites no row. -/
theorem IsEffect.of_append {db next : Database} {call : BudgetCall} {created : List Budget}
    (devices : next.devices = db.devices) (rows : next.budgets.rows = db.budgets.rows ++ created)
    (fresh : ∀ b ∈ created, b.usedSeconds = 0 ∧ db.budgets.find b.key = none)
    (uncharged : ∀ key, call.charge key = 0) (ungranted : ∀ key, call.grantTo key = 0) :
    IsEffect db next call id created where
  devices := devices
  rows := by rw [rows, List.map_id]
  keeps _ := rfl
  charges b _ := by rw [uncharged, add_zero]; rfl
  fresh := fresh
  conserves someone date := le_of_eq (by simp only [ungranted, add_zero, id_eq])

/-- **What one call can do.** -/
theorem serveBudget_effect (store : Store) (call : BudgetCall) :
    ∃ f created, IsEffect store.db (serveBudget store call).db call f created := by
  cases call with
  | initialise userId targetDate uuid =>
    rw [serveBudget, initialiseDailyBudgets]
    cases looped : (store.db.devices.rows.filter fun device =>
        device.userId = userId ∧ device.isOnline = true).foldlM
        (initialiseDevice targetDate uuid) ([], store.db) with
    | error raised =>
      exact ⟨id, [], .of_append rfl (List.append_nil _).symm (fun b member => by cases member)
        (fun _ => rfl) fun _ => rfl⟩
    | ok final =>
      obtain ⟨created, devices, appended, fresh⟩ := initialise_appends looped
      exact ⟨id, created, .of_append devices appended fresh (fun _ => rfl) fun _ => rfl⟩
  | record deviceId seconds targetDate =>
    refine ⟨_, [], .of_rewrite (recordUsage_devices ..) (recordUsage_rows ..) (fun b => ?_)
      (fun b => ?_) fun b => ?_⟩
    · split <;> rfl
    · simp only [BudgetCall.charge, Budget.key_eq_iff]
      split
      · rfl
      · exact (add_zero _).symm
    · simp only [BudgetCall.grantTo, add_zero]
      split <;> rfl
  | rebalance userId targetDate now =>
    refine ⟨rebalanced (store.db.budgetRows userId targetDate) now, [],
      rebalanceBudgets_devices .., ?_, fun b => rebalanced_key .., fun b _ => ?_,
      (fun b member => by cases member), fun someone date => ?_⟩
    · rw [List.append_nil]
      exact rebalanceBudgets_rows ..
    · exact (rebalanced_usedSeconds ..).trans (add_zero _).symm
    · simpa only [BudgetCall.grantTo, add_zero] using
        rebalanced_sum_le store.db userId targetDate now someone date
  | grant deviceId extraSeconds targetDate =>
    refine ⟨_, [], .of_rewrite (grantExtraTime_devices ..) (grantExtraTime_rows ..) (fun b => ?_)
      (fun b => ?_) fun b => ?_⟩
    · split <;> rfl
    · simp only [BudgetCall.charge, add_zero]
      split <;> rfl
    · simp only [BudgetCall.grantTo, Budget.key_eq_iff]
      split
      · rfl
      · exact (add_zero _).symm

/-! ### The invariant of whole runs -/

theorem charged_concat (key : BudgetKey) (calls : List BudgetCall) (call : BudgetCall) :
    charged key (calls ++ [call]) = charged key calls + call.charge key := by
  simp [charged]

theorem granted_concat (key : BudgetKey) (calls : List BudgetCall) (call : BudgetCall) :
    granted key (calls ++ [call]) = granted key calls + call.grantTo key := by
  simp [granted]

/-- One more call: it comes after a creation that is known, or it is the creation. -/
theorem sinceCreation_concat (store : Store) (calls : List BudgetCall) (call : BudgetCall)
    (key : BudgetKey) :
    sinceCreation store (calls ++ [call]) key =
      match sinceCreation store calls key with
      | some (created, later) => some (created, later ++ [call])
      | none =>
        match (run serveBudget store calls).db.budgets.find key,
            (serveBudget (run serveBudget store calls) call).db.budgets.find key with
        | none, some row => some (row.totalBudgetSeconds, [])
        | _, _ => none := by
  induction calls generalizing store with
  | nil =>
    simp only [List.nil_append, sinceCreation, run_nil]
  | cons first later ih =>
    rw [List.cons_append, sinceCreation, sinceCreation, run_cons]
    split
    · rfl
    · exact ih (serveBudget store first)

/-- **The invariant**: the calls account for every row and for nothing else, and the totals of a
user and a date are covered by what was allotted. -/
structure Accounted (store : Store) (calls : List BudgetCall) (reached : Store) : Prop where
  known : ∀ b ∈ reached.db.budgets.rows, ∃ created later,
    sinceCreation store calls b.key = some (created, later) ∧ b.usedSeconds = charged b.key later
  unknown : ∀ key, reached.db.budgets.find key = none → sinceCreation store calls key = none
  conserved : ∀ userId date,
    ((reached.db.budgetRows userId date).map fun row => row.1.totalBudgetSeconds).sum ≤
      ((reached.db.budgetRows userId date).map fun row => allotted store calls row.1.key).sum

section Step

variable {store : Store} {calls : List BudgetCall} {call : BudgetCall} {f : Budget → Budget}
  {created : List Budget}

/-- One more call comes after the creation of a row that is there. -/
theorem Accounted.since_of_old (before : Accounted store calls (run serveBudget store calls))
    (call : BudgetCall) {b : Budget} (stored : b ∈ (run serveBudget store calls).db.budgets.rows) :
    ∃ total later, sinceCreation store calls b.key = some (total, later) ∧
      sinceCreation store (calls ++ [call]) b.key = some (total, later ++ [call]) ∧
      b.usedSeconds = charged b.key later := by
  obtain ⟨total, later, since, used⟩ := before.known b stored
  exact ⟨total, later, since, by rw [sinceCreation_concat, since], used⟩

/-- A row that the call appends is created by it. -/
theorem Accounted.since_of_new (before : Accounted store calls (run serveBudget store calls))
    (effect : IsEffect (run serveBudget store calls).db
      (serveBudget (run serveBudget store calls) call).db call f created)
    {b : Budget} (member : b ∈ created) :
    sinceCreation store (calls ++ [call]) b.key = some (b.totalBudgetSeconds, []) := by
  obtain ⟨-, absent⟩ := effect.fresh b member
  have present :
      (serveBudget (run serveBudget store calls) call).db.budgets.find b.key = some b :=
    Table.find_key (by rw [effect.rows]; exact List.mem_append_right _ member)
  rw [sinceCreation_concat, before.unknown b.key absent, absent, present]

/-- **The totals stay covered**: an old row was allotted what the call grants it, a new one what it
was created with. -/
theorem Accounted.conserved_step (before : Accounted store calls (run serveBudget store calls))
    (effect : IsEffect (run serveBudget store calls).db
      (serveBudget (run serveBudget store calls) call).db call f created)
    (userId : UserId) (date : Date) :
    (((serveBudget (run serveBudget store calls) call).db.budgetRows userId date).map
        fun row => row.1.totalBudgetSeconds).sum ≤
      (((serveBudget (run serveBudget store calls) call).db.budgetRows userId date).map
        fun row => allotted store (calls ++ [call]) row.1.key).sum := by
  have oldRows : ((run serveBudget store calls).db.budgetRows userId date).map
        (fun row => allotted store (calls ++ [call]) (f row.1).key) =
      ((run serveBudget store calls).db.budgetRows userId date).map
        fun row => allotted store calls row.1.key + call.grantTo row.1.key := by
    refine List.map_congr_left fun row member => ?_
    obtain ⟨stored, -⟩ := Database.mem_budgetRows.mp member
    obtain ⟨total, later, since, next, -⟩ := before.since_of_old call stored
    rw [effect.keeps, allotted, allotted, since, next]
    simp only [granted_concat, add_assoc]
  have newRows : ((run serveBudget store calls).db.joined userId date created).map
        (fun row => allotted store (calls ++ [call]) row.1.key) =
      ((run serveBudget store calls).db.joined userId date created).map
        fun row => row.1.totalBudgetSeconds := by
    refine List.map_congr_left fun row member => ?_
    obtain ⟨b, inside, paired⟩ := List.mem_filterMap.mp member
    obtain ⟨device, -, rfl⟩ := Option.map_eq_some_iff.mp paired
    rw [allotted, before.since_of_new effect inside]
    simp [granted]
  have rewritten := effect.conserves userId date
  have covered := before.conserved userId date
  rw [Database.budgetRows_map_append userId date effect.devices effect.rows effect.keeps]
  simp only [List.map_append, List.sum_append, List.map_map, Function.comp_def, oldRows, newRows,
    List.sum_map_add] at rewritten ⊢
  omega

/-- **One call keeps the account.** -/
theorem accounted_step (before : Accounted store calls (run serveBudget store calls))
    (effect : IsEffect (run serveBudget store calls).db
      (serveBudget (run serveBudget store calls) call).db call f created) :
    Accounted store (calls ++ [call]) (serveBudget (run serveBudget store calls) call) := by
  refine ⟨fun b member => ?_, fun key absent => ?_, before.conserved_step effect⟩
  · rw [effect.rows, List.mem_append] at member
    rcases member with member | member
    · obtain ⟨b, stored, rfl⟩ := List.mem_map.mp member
      obtain ⟨total, later, -, since, used⟩ := before.since_of_old call stored
      refine ⟨total, later ++ [call], ?_, ?_⟩
      · rw [effect.keeps, since]
      · rw [effect.keeps, charged_concat, effect.charges b stored, used]
    · exact ⟨b.totalBudgetSeconds, [], before.since_of_new effect member,
        (effect.fresh b member).1⟩
  · have absentBefore : (run serveBudget store calls).db.budgets.find key = none := by
      rw [Table.find_eq_none] at absent ⊢
      intro b stored
      rw [← effect.keeps b]
      exact absent (f b) (by
        rw [effect.rows]
        exact List.mem_append_left _ (List.mem_map_of_mem stored))
    rw [sinceCreation_concat, before.unknown key absentBefore, absentBefore, absent]

end Step

theorem accounted_start (devices : Table Device.id) (cache : BudgetKey → Option BudgetDict) :
    Accounted (.start devices cache) [] (.start devices cache) :=
  ⟨fun b member => (by cases member), fun _ _ => rfl, fun _ _ => le_rfl⟩

theorem accounted (devices : Table Device.id) (cache : BudgetKey → Option BudgetDict)
    (calls : List BudgetCall) :
    Accounted (.start devices cache) calls (run serveBudget (.start devices cache) calls) := by
  refine run_history serveBudget (accounted_start devices cache) (fun past call before => ?_) calls
  obtain ⟨f, created, effect⟩ :=
    serveBudget_effect (run serveBudget (.start devices cache) past) call
  exact accounted_step before effect

/-- **Budgets are conserved.** After every sequence of calls from a store without budget rows, the
totals of a user's rows for a date add up to at most what those rows were created with and granted
since, and every row has used exactly the seconds recorded for it since it was created. -/
theorem budgets_conserved (devices : Table Device.id) (cache : BudgetKey → Option BudgetDict)
    (calls : List BudgetCall) :
    (∀ userId date,
      (((run serveBudget (.start devices cache) calls).db.budgetRows userId date).map fun row =>
          row.1.totalBudgetSeconds).sum ≤
        (((run serveBudget (.start devices cache) calls).db.budgetRows userId date).map fun row =>
          allotted (.start devices cache) calls row.1.key).sum) ∧
    ∀ b ∈ (run serveBudget (.start devices cache) calls).db.budgets.rows, ∃ created later,
      sinceCreation (.start devices cache) calls b.key = some (created, later) ∧
        b.usedSeconds = charged b.key later := by
  have account := accounted devices cache calls
  exact ⟨account.conserved, account.known⟩

end ScreenSync.Decision
