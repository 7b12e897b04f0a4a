/-
**Interleaved calls and the budget cache.**

`get_budget`, `record_usage`, `grant_extra_time` and `rebalance_budgets`, one database statement,
commit or cache command at a time. An `UPDATE` is seen by others from its commit on; row locks only
hold a second `UPDATE` of the row back until then, so that an update may as well be carried out
when it is committed.

* `BudgetPhase.next` — the next statement of a call.
* `BudgetPhase.Due` — the keys a call is still going to delete.
* `next_settled_iff` — the step lemma: which statements leave every stale entry due for deletion.
* `settled_throughout_iff` — every stale entry is due for deletion in every state of a run exactly
  if each cache fill finds the row as it was read, and each rebalance commits over rows that are not
  cached, or another call is still going to delete the key.
* `call_alone` — a call that nobody interrupts does what the function does when run to completion.
* `coherent_of_covered` — in a covered run the cache is coherent whenever all calls have finished.
* `cache_left_stale` — a reader overtaken by a charge, and a rebalance of an exhausted row.
-/

import Mathlib.Logic.Relation
import ScreenSync.Decision.Budget
import ScreenSync.Foundation.Aside
import ScreenSync.Foundation.Run

namespace ScreenSync.Decision

open ScreenSync.Foundation ScreenSync.Shared

/-! ### The statements of the calls -/

/-- What `record_usage` or `grant_extra_time` adds to a row. -/
inductive Increment
  | usage (seconds : Int)
  | extra (extraSeconds : Int)

def Increment.values (increment : Increment) (b : Budget) : Budget :=
  match increment with
  | .usage seconds => { b with usedSeconds := b.usedSeconds + seconds }
  | .extra extraSeconds => { b with totalBudgetSeconds := b.totalBudgetSeconds + extraSeconds }

theorem Increment.values_keeps (increment : Increment) (b : Budget) :
    (increment.values b).id = b.id ∧ (increment.values b).key = b.key := by
  cases increment <;> exact ⟨rfl, rfl⟩

/-- The commit of one relative `UPDATE`. -/
def Increment.commit (increment : Increment) (key : BudgetKey) (db : Database) : Database :=
  db.updateBudgets (fun b => b.deviceId = key.1 ∧ b.date = key.2) increment.values
    increment.values_keeps

/-- What a rebalance has read: one row for each budget. -/
structure RebalanceJob where
  rows : List (Budget × Device)
  targetDate : Date
  now : UtcTime
  distinct : (rows.map fun row => row.1.id).Nodup

namespace RebalanceJob

/-- The values the job's `UPDATE` of one row sets. -/
def values (job : RebalanceJob) (row : Budget × Device) (stored : Budget) : Budget :=
  rebalanceValues (totalPool job.rows) (totalPriority job.rows) job.now row stored

/-- The commit of its `UPDATE`s, one for each row. -/
def commit (job : RebalanceJob) (db : Database) : Database :=
  job.rows.foldl (fun db row => db.updateBudgets (fun b => b.id = row.1.id) (job.values row)
    (rebalanceValues_keeps _ _ _ row)) db

/-- The cache key it deletes for a row that is not exhausted. -/
def cacheKey (job : RebalanceJob) (row : Budget × Device) : BudgetKey :=
  budgetCacheKey row.2.id job.targetDate

end RebalanceJob

/-- Where a call stands: the statement it makes next, and what it needs for it. -/
inductive BudgetPhase
  -- `get_budget`: the cache, the table, the cache again
  | read (key : BudgetKey)
  | query (key : BudgetKey)
  | fill (budget : Budget)
  -- `record_usage` and `grant_extra_time`, which end as `get_budget`
  | update (increment : Increment) (key : BudgetKey)
  | commit (increment : Increment) (key : BudgetKey)
  | delete (key : BudgetKey)
  -- `rebalance_budgets`: for each row the `UPDATE` and the cache key, then the commit
  | list (userId : UserId) (targetDate : Date) (now : UtcTime)
  | rewrite (job : RebalanceJob) (row : Budget × Device) (later : List (Budget × Device))
  | forget (job : RebalanceJob) (row : Budget × Device) (later : List (Budget × Device))
  | settle (job : RebalanceJob)
  | finished

/-- After a turn of the loop. -/
def RebalanceJob.next (job : RebalanceJob) : List (Budget × Device) → BudgetPhase
  | [] => .settle job
  | row :: later => .rewrite job row later

/-- The next statement of a call. -/
def BudgetPhase.next (store : Store) : BudgetPhase → Store × BudgetPhase
  | .read key =>
    match store.cache key with
    | some _ => (store, .finished)
    | none => (store, .query key)
  | .query key =>
    match store.db.budgets.find key with
    | none => (store, .finished)
    | some budget => (store, .fill budget)
  | .fill budget =>
    ({ store with cache := Function.update store.cache budget.key (some (budgetToDict budget)) },
      .finished)
  | .update increment key => (store, .commit increment key)
  | .commit increment key => ({ store with db := increment.commit key store.db }, .delete key)
  | .delete key => (store.forget key, .read key)
  | .list userId targetDate now =>
    let job : RebalanceJob := ⟨store.db.budgetRows userId targetDate, targetDate, now,
      budgetRows_ids_nodup store.db userId targetDate⟩
    match job.rows with
    | [] => (store, .finished)
    | row :: later => (store, .rewrite job row later)
  | .rewrite job row later =>
    if Exhausted row.1 then (store, job.next later) else (store, .forget job row later)
  | .forget job row later => (store.forget (job.cacheKey row), job.next later)
  | .settle job => ({ store with db := job.commit store.db }, .finished)
  | .finished => (store, .finished)

/-- A call of one of the four functions. -/
inductive CachedCall
  | getBudget (deviceId : DeviceId) (targetDate : Date)
  | recordUsage (deviceId : DeviceId) (seconds : Int) (targetDate : Date)
  | grantExtraTime (deviceId : DeviceId) (extraSeconds : Int) (targetDate : Date)
  | rebalanceBudgets (userId : UserId) (targetDate : Date) (now : UtcTime)

/-- The first statement of a call. -/
def CachedCall.start : CachedCall → BudgetPhase
  | .getBudget deviceId targetDate => .read (budgetCacheKey deviceId targetDate)
  | .recordUsage deviceId seconds targetDate => .update (.usage seconds) (deviceId, targetDate)
  | .grantExtraTime deviceId extraSeconds targetDate =>
    .update (.extra extraSeconds) (deviceId, targetDate)
  | .rebalanceBudgets userId targetDate now => .list userId targetDate now

/-! ### What a call is still going to delete -/

/-- The loop over these rows deletes the key. -/
def RebalanceJob.Deletes (job : RebalanceJob) (rows : List (Budget × Device)) (key : BudgetKey) :
    Prop :=
  ∃ row ∈ rows, ¬ Exhausted row.1 ∧ job.cacheKey row = key

/-- The call is going to delete the key. -/
def BudgetPhase.Due (phase : BudgetPhase) (key : BudgetKey) : Prop :=
  match phase with
  | .update _ target | .commit _ target | .delete target => target = key
  | .rewrite job row later => job.Deletes (row :: later) key
  | .forget job row later => job.cacheKey row = key ∨ job.Deletes later key
  | _ => False

theorem RebalanceJob.next_due (job : RebalanceJob) (later : List (Budget × Device))
    (key : BudgetKey) : (job.next later).Due key ↔ job.Deletes later key := by
  cases later with
  | nil => simp [RebalanceJob.next, BudgetPhase.Due, RebalanceJob.Deletes]
  | cons row later => rfl

theorem RebalanceJob.deletes_cons (job : RebalanceJob) (row : Budget × Device)
    (later : List (Budget × Device)) (key : BudgetKey) : job.Deletes (row :: later) key ↔
      (¬ Exhausted row.1 ∧ job.cacheKey row = key) ∨ job.Deletes later key := by
  simp only [RebalanceJob.Deletes, List.exists_mem_cons_iff]

/-! ### Rows and entries -/

/-- The budget table as readers see it, with the cache beside it. -/
def Store.aside (store : Store) : Aside BudgetKey BudgetDict where
  table key := (store.db.budgets.find key).map budgetToDict
  cache := store.cache

/-- The dictionary of a row tells everything but the key. -/
theorem budgetToDict_injective {first second : Budget} (key : first.key = second.key)
    (same : budgetToDict first = budgetToDict second) : first = second := by
  have dates : first.date = second.date := congrArg Prod.snd key
  simp only [budgetToDict, BudgetDict.mk.injEq] at same
  obtain ⟨id, device, -, total, used, -, stamp⟩ := same
  have stamps : first.rebalancedAt = second.rebalancedAt :=
    Option.map_injective UtcTime.isoformat_injective stamp
  cases first
  cases second
  cases id
  cases device
  cases dates
  cases total
  cases used
  cases stamps
  rfl

theorem Increment.commit_find_of_ne (increment : Increment) {key other : BudgetKey}
    (apart : other ≠ key) (db : Database) :
    (increment.commit key db).budgets.find other = db.budgets.find other := by
  rw [Increment.commit, Database.updateBudgets_find]
  cases found : db.budgets.find other with
  | none => rfl
  | some b =>
    obtain ⟨-, rfl⟩ := Table.find_eq_some.mp found
    have elsewhere : ¬ (b.deviceId = key.1 ∧ b.date = key.2) := fun both =>
      apart (Prod.ext both.1 both.2)
    rw [Option.map_some, if_neg elsewhere]

theorem RebalanceJob.commit_devices (job : RebalanceJob) (db : Database) :
    (job.commit db).devices = db.devices :=
  List.foldlRecOn (motive := fun next : Database => next.devices = db.devices) _ _ rfl
    fun _ same _ _ => same

/-- The rows once the job is committed. -/
theorem RebalanceJob.commit_rows (job : RebalanceJob) (db : Database) :
    (job.commit db).budgets.rows = db.budgets.rows.map (rebalanced job.rows job.now) := by
  rw [rebalanced, ← foldl_assign (fun row b => (rebalanceValues_keeps _ _ _ row b).1) _
    job.distinct]
  exact (List.foldl_hom (fun db : Database => db.budgets.rows) fun db row =>
    (Database.updateBudgets_rows ..).symm).symm

/-- The row under a key once the job is committed. -/
theorem RebalanceJob.commit_find (job : RebalanceJob) (db : Database) (key : BudgetKey) :
    (job.commit db).budgets.find key =
      (db.budgets.find key).map (rebalanced job.rows job.now) :=
  Table.find_of_rows_map (job.commit_rows db) (rebalanced_key job.rows job.now) key

/-! ### One statement -/

/-- If the call fills the cache, the row is as it was read; if it commits a rebalance, the rows that
this changes are not cached. Either need not be so under a key that another call is still going to
delete. -/
def BudgetPhase.Covered (store : Store) (others : BudgetKey → Prop) (phase : BudgetPhase) : Prop :=
  match phase with
  | .fill budget => store.db.budgets.find budget.key = some budget ∨ others budget.key
  | .settle job => ∀ row ∈ job.rows, ∀ stored ∈ store.db.budgets.rows, stored.id = row.1.id →
      others stored.key ∨ store.cache stored.key = none ∨ job.values row stored = stored
  | _ => True

variable {store : Store} {others : BudgetKey → Prop}

theorem fill_settled_iff {budget : Budget}
    (settled : store.aside.Settled fun key => others key ∨ (BudgetPhase.fill budget).Due key) :
    ((BudgetPhase.fill budget).next store).1.aside.Settled (fun key => others key ∨
        ((BudgetPhase.fill budget).next store).2.Due key) ↔
      (BudgetPhase.fill budget).Covered store others := by
  have filled := Aside.settled_fill_iff settled budget.key (budgetToDict budget)
  refine filled.trans (or_congr ⟨fun current => ?_, fun current => ?_⟩ (by simp [BudgetPhase.Due]))
  · obtain ⟨row, found, same⟩ := Option.map_eq_some_iff.mp current
    rw [found, budgetToDict_injective (Table.find_eq_some.mp found).2 same]
  · show (store.db.budgets.find budget.key).map budgetToDict = some (budgetToDict budget)
    rw [current]
    rfl

theorem settle_settled_iff {job : RebalanceJob}
    (settled : store.aside.Settled fun key => others key ∨ (BudgetPhase.settle job).Due key) :
    ((BudgetPhase.settle job).next store).1.aside.Settled (fun key => others key ∨
        ((BudgetPhase.settle job).next store).2.Due key) ↔
      (BudgetPhase.settle job).Covered store others := by
  refine (Aside.settled_write_iff settled fun key =>
    ((job.commit store.db).budgets.find key).map budgetToDict).trans ?_
  simp only [BudgetPhase.Due, or_false, RebalanceJob.commit_find, Option.map_map]
  constructor
  · intro unchanged row member stored inside aimed
    refine (unchanged stored.key).imp_right (Or.imp_right fun same => ?_)
    have rewritten : rebalanced job.rows job.now stored = job.values row stored :=
      assign_of_mem job.distinct member aimed.symm
    simp only [Store.aside, Table.find_key inside, Option.map_some, Function.comp_apply,
      Option.some.injEq, rewritten] at same
    exact budgetToDict_injective (rebalanceValues_keeps ..).2 same
  · intro covered key
    cases found : store.db.budgets.find key with
    | none => simp [Store.aside, found]
    | some stored =>
      obtain ⟨inside, rfl⟩ := Table.find_eq_some.mp found
      by_cases missed : ∀ row ∈ job.rows, row.1.id ≠ stored.id
      · -- no `UPDATE` of the job is for this row
        have same : rebalanced job.rows job.now stored = stored := assign_of_forall_ne missed
        simp [Store.aside, found, same]
      · push Not at missed
        obtain ⟨row, member, aimed⟩ := missed
        refine (covered row member stored inside aimed.symm).imp_right (Or.imp_right fun same => ?_)
        have rewritten : rebalanced job.rows job.now stored = job.values row stored :=
          assign_of_mem job.distinct member aimed
        simp [Store.aside, found, rewritten, same]

/-- **One statement.** Where every stale entry is due for deletion, this stays so exactly if the
statement is covered. -/
theorem next_settled_iff {phase : BudgetPhase}
    (settled : store.aside.Settled fun key => others key ∨ phase.Due key) :
    (phase.next store).1.aside.Settled (fun key => others key ∨ (phase.next store).2.Due key) ↔
      phase.Covered store others := by
  cases phase with
  | fill budget => exact fill_settled_iff settled
  | settle job => exact settle_settled_iff settled
  | read key =>
    refine iff_of_true ?_ trivial
    simp only [BudgetPhase.next]
    split <;> exact settled
  | query key =>
    refine iff_of_true ?_ trivial
    simp only [BudgetPhase.next]
    split <;> exact settled
  | update increment key => exact iff_of_true settled trivial
  | commit increment key =>
    refine iff_of_true ((Aside.settled_write_iff settled _).mpr fun other => ?_) trivial
    by_cases same : other = key
    · exact .inl (.inr same.symm)
    · exact .inr (.inr (congrArg _ (increment.commit_find_of_ne same store.db)))
  | delete key =>
    refine iff_of_true (settled.forget fun other apart => ?_) trivial
    rintro (waits | rfl)
    · exact .inl waits
    · exact absurd rfl apart
  | list userId targetDate now =>
    refine iff_of_true ?_ trivial
    simp only [BudgetPhase.next]
    split
    · exact settled
    · exact settled.mono fun key => Or.imp_right False.elim
  | rewrite job row later =>
    refine iff_of_true ?_ trivial
    simp only [BudgetPhase.next]
    split
    · rename_i exhausted
      refine settled.mono fun key => Or.imp_right fun due => ?_
      rw [RebalanceJob.next_due]
      simpa [BudgetPhase.Due, RebalanceJob.deletes_cons, exhausted] using due
    · refine settled.mono fun key => Or.imp_right fun due => ?_
      exact ((job.deletes_cons row later key).mp due).imp_left And.right
  | forget job row later =>
    refine iff_of_true (settled.forget fun other apart => ?_) trivial
    rintro (waits | here | due)
    · exact .inl waits
    · exact absurd here.symm apart
    · exact .inr ((job.next_due later other).mpr due)
  | finished => exact iff_of_true settled trivial

/-! ### Interleaved calls -/

/-- The store and where each call stands. -/
structure CacheRace (ι : Type) where
  store : Store
  phase : ι → BudgetPhase

namespace CacheRace

variable {ι : Type}

/-- Before any call has started. -/
def start (store : Store) (calls : ι → CachedCall) : CacheRace ι where
  store := store
  phase i := (calls i).start

/-- Every call has returned. -/
def Finished (race : CacheRace ι) : Prop := ∀ i, race.phase i = .finished

/-- A call other than `i` is going to delete the key. -/
def OtherDue (race : CacheRace ι) (i : ι) (key : BudgetKey) : Prop :=
  ∃ j, j ≠ i ∧ (race.phase j).Due key

/-- Every stale entry is due for deletion. -/
def Settled (race : CacheRace ι) : Prop :=
  race.store.aside.Settled fun key => ∃ i, (race.phase i).Due key

/-- The next statement of the call is covered. -/
def Covered (race : CacheRace ι) (i : ι) : Prop :=
  (race.phase i).Covered race.store (race.OtherDue i)

theorem exists_due_iff (race : CacheRace ι) (i : ι) (key : BudgetKey) :
    (∃ j, (race.phase j).Due key) ↔ race.OtherDue i key ∨ (race.phase i).Due key := by
  constructor
  · rintro ⟨j, due⟩
    by_cases same : j = i
    · exact .inr (same ▸ due)
    · exact .inl ⟨j, same, due⟩
  · rintro (⟨j, -, due⟩ | due)
    · exact ⟨j, due⟩
    · exact ⟨i, due⟩

variable [DecidableEq ι]

/-- The next statement of one call. -/
def advance (race : CacheRace ι) (i : ι) : CacheRace ι where
  store := ((race.phase i).next race.store).1
  phase := Function.update race.phase i ((race.phase i).next race.store).2

theorem advance_phase (race : CacheRace ι) (i j : ι) : (race.advance i).phase j =
    if j = i then ((race.phase i).next race.store).2 else race.phase j :=
  Function.update_apply ..

theorem advance_otherDue (race : CacheRace ι) (i : ι) (key : BudgetKey) :
    (race.advance i).OtherDue i key ↔ race.OtherDue i key := by
  refine exists_congr fun j => and_congr_right fun apart => ?_
  rw [advance_phase, if_neg apart]

/-- **One step of a run.** -/
theorem advance_settled_iff {race : CacheRace ι} (settled : race.Settled) (i : ι) :
    (race.advance i).Settled ↔ race.Covered i := by
  simp only [Settled, exists_due_iff race i] at settled
  simp only [Settled, exists_due_iff (race.advance i) i, advance_otherDue]
  rw [advance_phase, if_pos rfl]
  exact next_settled_iff settled

omit [DecidableEq ι] in
theorem start_settled {store : Store} (coherent : ∀ key, Coherent store key)
    (calls : ι → CachedCall) : (start store calls).Settled :=
  fun key => .inl (coherent key)

omit [DecidableEq ι] in
theorem Settled.coherent {race : CacheRace ι} (settled : race.Settled) (finished : race.Finished)
    (key : BudgetKey) : Coherent race.store key := by
  refine Aside.Settled.shows settled (fun other => ?_) key
  rintro ⟨i, due⟩
  rw [finished i] at due
  exact due

/-- **The exact condition**: every stale entry is due for deletion, in every state of a run, exactly
if all its steps are covered. -/
theorem settled_throughout_iff {store : Store} (coherent : ∀ key, Coherent store key)
    (calls : ι → CachedCall) (schedule : List ι) :
    Throughout advance Settled (start store calls) schedule ↔
      Meets advance Covered (start store calls) schedule := by
  refine throughout_iff_meets (fun _ => True) (fun _ _ _ => trivial) (fun race i _ settled => ?_)
    trivial (start_settled coherent calls) schedule
  exact advance_settled_iff settled i

end CacheRace

/-! ### A call that is left alone -/

/-- The store after a call that nobody interrupts. -/
def serveCached (store : Store) : CachedCall → Store
  | .getBudget deviceId targetDate => (getBudget store deviceId targetDate).2
  | .recordUsage deviceId seconds targetDate => (recordUsage store deviceId seconds targetDate).2
  | .grantExtraTime deviceId extraSeconds targetDate =>
    (grantExtraTime store deviceId extraSeconds targetDate).2
  | .rebalanceBudgets userId targetDate now => (rebalanceBudgets store userId targetDate now).2

/-- The call makes some of its statements, one after another. -/
def Alone : Store × BudgetPhase → Store × BudgetPhase → Prop :=
  Relation.ReflTransGen fun now later => now.2.next now.1 = later

theorem read_alone (store : Store) (key : BudgetKey) :
    Alone (store, .read key) ((getBudget store key.1 key.2).2, .finished) := by
  cases cached : store.cache key with
  | some entry =>
    have answer : (getBudget store key.1 key.2).2 = store := by
      simp only [getBudget, budgetCacheKey, cached]
    rw [answer]
    exact .single (by simp only [BudgetPhase.next, cached])
  | none =>
    have missed : Alone (store, .read key) (store, .query key) :=
      .single (by simp only [BudgetPhase.next, cached])
    refine missed.trans ?_
    cases found : store.db.budgets.find key with
    | none =>
      have answer : (getBudget store key.1 key.2).2 = store := by
        simp only [getBudget, budgetCacheKey, cached, found]
      rw [answer]
      exact .single (by simp only [BudgetPhase.next, found])
    | some budget =>
      obtain ⟨-, rfl⟩ := Table.find_eq_some.mp found
      have answer : ((getBudget store budget.key.1 budget.key.2).2, BudgetPhase.finished) =
          (BudgetPhase.fill budget).next store := by
        simp only [getBudget, budgetCacheKey, cached, found, BudgetPhase.next]
      rw [answer]
      have selected : (BudgetPhase.query budget.key).next store = (store, .fill budget) := by
        simp only [BudgetPhase.next, found]
      exact .head selected (.single rfl)

theorem update_alone (store : Store) (increment : Increment) (key : BudgetKey) :
    Alone (store, .update increment key)
      ((getBudget ({ store with db := increment.commit key store.db }.forget key) key.1 key.2).2,
        .finished) :=
  .head rfl (.head rfl (.head rfl (read_alone _ key)))

/-- The cache after the loop has deleted the keys of these rows. -/
def RebalanceJob.forgetAll (job : RebalanceJob) (rows : List (Budget × Device))
    (cache : BudgetKey → Option BudgetDict) : BudgetKey → Option BudgetDict :=
  rows.foldl (fun cache row =>
    if Exhausted row.1 then cache else Function.update cache (job.cacheKey row) none) cache

theorem next_alone (job : RebalanceJob) (store : Store) (later : List (Budget × Device)) :
    Alone (store, job.next later)
      ({ store with cache := job.forgetAll later store.cache }, .settle job) := by
  induction later generalizing store with
  | nil => exact .refl
  | cons row later ih =>
    rw [RebalanceJob.forgetAll, List.foldl_cons]
    by_cases exhausted : Exhausted row.1
    · have skipped : (BudgetPhase.rewrite job row later).next store = (store, job.next later) := by
        rw [BudgetPhase.next, if_pos exhausted]
      rw [if_pos exhausted]
      exact .head skipped (ih store)
    · have turn : (BudgetPhase.rewrite job row later).next store =
          (store, .forget job row later) := by
        rw [BudgetPhase.next, if_neg exhausted]
      rw [if_neg exhausted]
      exact .head turn (.head rfl (ih (store.forget (job.cacheKey row))))

/-- One turn of the loop writes the tables and the cache apart from each other. -/
theorem rebalanceRow_store (job : RebalanceJob) (soFar : List RebalancedBudget × Store)
    (row : Budget × Device) :
    (rebalanceRow (totalPool job.rows) (totalPriority job.rows) job.now job.targetDate soFar
        row).2 =
      { db := soFar.2.db.updateBudgets (fun b => b.id = row.1.id) (job.values row)
          (rebalanceValues_keeps _ _ _ row)
        cache := if Exhausted row.1 then soFar.2.cache
          else Function.update soFar.2.cache (job.cacheKey row) none } := by
  simp only [rebalanceRow]
  split <;> rfl

theorem foldl_rebalanceRow (job : RebalanceJob) (rows : List (Budget × Device))
    (soFar : List RebalancedBudget × Store) :
    (rows.foldl (rebalanceRow (totalPool job.rows) (totalPriority job.rows) job.now
        job.targetDate) soFar).2 =
      { db := rows.foldl (fun db row => db.updateBudgets (fun b => b.id = row.1.id)
          (job.values row) (rebalanceValues_keeps _ _ _ row)) soFar.2.db
        cache := job.forgetAll rows soFar.2.cache } := by
  induction rows generalizing soFar with
  | nil => rfl
  | cons row later ih =>
    rw [List.foldl_cons, ih, rebalanceRow_store, List.foldl_cons, RebalanceJob.forgetAll,
      RebalanceJob.forgetAll, List.foldl_cons]

/-- **A call that nobody interrupts** does what the function does when it is run to completion. -/
theorem call_alone (store : Store) (call : CachedCall) :
    Alone (store, call.start) (serveCached store call, .finished) := by
  cases call with
  | getBudget deviceId targetDate => exact read_alone store (deviceId, targetDate)
  | recordUsage deviceId seconds targetDate =>
    exact update_alone store (.usage seconds) (deviceId, targetDate)
  | grantExtraTime deviceId extraSeconds targetDate =>
    exact update_alone store (.extra extraSeconds) (deviceId, targetDate)
  | rebalanceBudgets userId targetDate now =>
    let job : RebalanceJob := ⟨store.db.budgetRows userId targetDate, targetDate, now,
      budgetRows_ids_nodup store.db userId targetDate⟩
    simp only [serveCached, rebalanceBudgets]
    split
    · rename_i noRows
      refine .single ?_
      show (BudgetPhase.list userId targetDate now).next store = (store, .finished)
      simp only [BudgetPhase.next, noRows]
    · rename_i rows
      obtain ⟨row, later, split⟩ := List.exists_cons_of_ne_nil rows
      have listed : (BudgetPhase.list userId targetDate now).next store =
          (store, job.next job.rows) := by
        simp only [BudgetPhase.next, job, split, RebalanceJob.next]
      refine .head listed ((next_alone job store job.rows).trans (.single ?_))
      rw [foldl_rebalanceRow job job.rows ([], store)]
      rfl

/-! ### Runs of covered steps -/

/-- **In a run whose steps are covered, the cache is coherent whenever all calls have finished.** -/
theorem coherent_of_covered {ι : Type} [DecidableEq ι] {store : Store}
    (coherent : ∀ key, Coherent store key) (calls : ι → CachedCall) {schedule : List ι}
    (covered : Meets CacheRace.advance CacheRace.Covered (.start store calls) schedule) :
    Throughout CacheRace.advance (fun race => race.Finished → ∀ key, Coherent race.store key)
      (.start store calls) schedule := by
  intro before after split finished key
  have settled := (CacheRace.settled_throughout_iff coherent calls schedule).mpr covered
  exact (settled before after split).coherent finished key

/-- A charge of one second, and a reader. -/
def chargeAndRead : Bool → CachedCall
  | true => .recordUsage "tablet" 1 someDay
  | false => .getBudget "tablet" someDay

/-- The tablet's row with nothing left. -/
def exhaustedRow : Budget := { tabletRow with usedSeconds := 7200 }

def exhaustedStore : Store where
  db :=
    { devices := tabletDb.devices
      budgets := Table.empty.insert exhaustedRow rfl
      budgetIds := List.nodup_singleton _ }
  cache _ := none

/-- A rebalance at noon, and a reader. -/
def rebalanceOver : Bool → CachedCall
  | true => .rebalanceBudgets "family" someDay (someTime 12 0)
  | false => .getBudget "tablet" someDay

theorem coherent_of_covered_tablet :
    Throughout CacheRace.advance (fun race => race.Finished → ∀ key, Coherent race.store key)
      (.start tabletStore chargeAndRead) [true, true, true, true, true, true, false] :=
  coherent_of_covered (by intro key entry hit; cases hit) chargeAndRead (by
    refine meets_cons.mpr ⟨trivial, meets_cons.mpr ⟨trivial, meets_cons.mpr ⟨trivial,
      meets_cons.mpr ⟨trivial, meets_cons.mpr ⟨trivial, meets_cons.mpr ⟨.inl rfl,
        meets_cons.mpr ⟨trivial, .nil _ _⟩⟩⟩⟩⟩⟩⟩)

/-- A reader that has missed the cache and read the row, then a charge from its `UPDATE` to its own
cache fill, then the reader's cache fill; and a rebalance that stamps an exhausted row. In both runs
every call has finished and the entry does not show the row. -/
theorem cache_left_stale :
    (∃ race : CacheRace Bool, race = run CacheRace.advance (.start tabletStore chargeAndRead)
        [false, false, true, true, true, true, true, true, false] ∧
      race.Finished ∧ ¬ Coherent race.store tabletRow.key) ∧
    ∃ race : CacheRace Bool, race = run CacheRace.advance (.start exhaustedStore rebalanceOver)
        [false, false, false, true, true, true] ∧
      race.Finished ∧ ¬ Coherent race.store tabletRow.key := by
  constructor
  · refine ⟨_, rfl, by intro i; cases i <;> rfl, fun coherent => ?_⟩
    have shown := coherent (budgetToDict tabletRow) rfl
    have used : (7200 : Int) = 7199 := congrArg BudgetDict.usedSeconds (Option.some.inj shown)
    exact absurd used (by decide)
  · refine ⟨_, rfl, by intro i; cases i <;> rfl, fun coherent => ?_⟩
    have shown := coherent (budgetToDict exhaustedRow) rfl
    have stamp : (some (someTime 12 0).isoformat) = none :=
      congrArg BudgetDict.rebalancedAt (Option.some.inj shown)
    cases stamp

end ScreenSync.Decision
