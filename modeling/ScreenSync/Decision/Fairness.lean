/-
**A rebalance is fair, in whatever order the rows arrive.**

The query of `rebalance_budgets` has no `ORDER BY`, and the loop writes the rows one at a time. The
pool and the sum of the priorities are those of the set of rows, and every row is written once, so
that the order does not show.

* `rebalanceListed` — the function, over the rows as the database lists them.
* `rebalanceListed_perm` — any order of the rows leaves the same store.
* `rebalance_fair` — what an active row is given depends on its priority alone, and grows with it.
-/

import ScreenSync.Decision.Coherence
import ScreenSync.Decision.Redistribution

namespace ScreenSync.Decision

open ScreenSync.Foundation ScreenSync.Shared

variable {rows reordered : List (Budget × Device)} {store : Store} {userId : UserId}
  {targetDate : Date} {now : UtcTime}

/-! ### The order of the rows -/

/-- `rebalance_budgets`, from the rows its query has returned. -/
def rebalanceListed (rows : List (Budget × Device)) (store : Store) (targetDate : Date)
    (now : UtcTime) : List RebalancedBudget × Store :=
  if rows = [] then ([], store)
  else rows.foldl (rebalanceRow (totalPool rows) (totalPriority rows) now targetDate) ([], store)

theorem rebalanceBudgets_eq (store : Store) (userId : UserId) (targetDate : Date) (now : UtcTime) :
    rebalanceBudgets store userId targetDate now =
      rebalanceListed (store.db.budgetRows userId targetDate) store targetDate now := rfl

theorem totalPool_perm (same : reordered.Perm rows) : totalPool reordered = totalPool rows :=
  (same.map _).sum_eq

theorem totalPriority_perm (same : reordered.Perm rows) :
    totalPriority reordered = totalPriority rows :=
  (same.map _).sum_eq

theorem rebalanced_perm (distinct : (rows.map fun row => row.1.id).Nodup)
    (same : reordered.Perm rows) (now : UtcTime) :
    rebalanced reordered now = rebalanced rows now := by
  funext b
  rw [rebalanced, rebalanced, totalPool_perm same, totalPriority_perm same]
  exact assign_perm distinct same b

instance (job : RebalanceJob) (rows : List (Budget × Device)) (key : BudgetKey) :
    Decidable (job.Deletes rows key) :=
  inferInstanceAs (Decidable (∃ row ∈ rows, ¬ Exhausted row.1 ∧ job.cacheKey row = key))

/-- The keys a loop over these rows has deleted are gone. -/
theorem RebalanceJob.forgetAll_apply (job : RebalanceJob) (rows : List (Budget × Device))
    (cache : BudgetKey → Option BudgetDict) (key : BudgetKey) :
    job.forgetAll rows cache key = if job.Deletes rows key then none else cache key := by
  induction rows generalizing cache with
  | nil =>
    rw [if_neg]
    · rfl
    · rintro ⟨row, member, -⟩
      cases member
  | cons row later ih =>
    show job.forgetAll later (if Exhausted row.1 then cache
      else Function.update cache (job.cacheKey row) none) key = _
    rw [ih]
    by_cases deleted : job.Deletes later key
    · rw [if_pos deleted, if_pos ((job.deletes_cons row later key).mpr (.inr deleted))]
    · rw [if_neg deleted]
      by_cases exhausted : Exhausted row.1
      · rw [if_pos exhausted, if_neg]
        rw [job.deletes_cons]
        rintro (⟨active, -⟩ | rest)
        · exact active exhausted
        · exact deleted rest
      · rw [if_neg exhausted, Function.update_apply]
        refine if_congr ?_ rfl rfl
        rw [job.deletes_cons, or_iff_left deleted, and_iff_right exhausted, eq_comm]

/-- What a rebalance leaves, row by row and key by key. -/
theorem rebalanceListed_store (job : RebalanceJob) (store : Store) :
    (rebalanceListed job.rows store job.targetDate job.now).2 =
      { db := job.commit store.db
        cache := job.forgetAll job.rows store.cache } := by
  unfold rebalanceListed
  split
  · rename_i noRows
    rw [RebalanceJob.commit, RebalanceJob.forgetAll, noRows]
    rfl
  · exact foldl_rebalanceRow job job.rows ([], store)

/-- **The order of the rows does not show.** -/
theorem rebalanceListed_perm (distinct : (rows.map fun row => row.1.id).Nodup)
    (same : reordered.Perm rows) (store : Store) (targetDate : Date) (now : UtcTime) :
    (rebalanceListed reordered store targetDate now).2 =
      (rebalanceListed rows store targetDate now).2 := by
  let listed : RebalanceJob := ⟨rows, targetDate, now, distinct⟩
  let other : RebalanceJob := ⟨reordered, targetDate, now, (same.map _).nodup_iff.mpr distinct⟩
  have left := rebalanceListed_store other store
  have right := rebalanceListed_store listed store
  have tables : other.commit store.db = listed.commit store.db := by
    apply Database.ext_rows
    · exact (other.commit_devices store.db).trans (listed.commit_devices store.db).symm
    · rw [other.commit_rows, listed.commit_rows]
      show store.db.budgets.rows.map (rebalanced reordered now) = _
      rw [rebalanced_perm distinct same]
  have caches : other.forgetAll reordered store.cache = listed.forgetAll rows store.cache := by
    funext key
    rw [other.forgetAll_apply, listed.forgetAll_apply]
    refine if_congr ?_ rfl rfl
    exact exists_congr fun row => and_congr_left fun _ => same.mem_iff
  refine left.trans (Eq.trans ?_ right.symm)
  rw [tables, caches]

/-! ### What the rows are given -/

/-- A listed row, with its device, and the row a later store has under its key. -/
structure Became (store later : Store) (userId : UserId) (targetDate : Date)
    (row : Budget × Device) (b : Budget) : Prop where
  listed : row ∈ store.db.budgetRows userId targetDate
  found : later.db.budgets.find row.1.key = some b

/-- **A fair rebalance**, from the store it found to the store it left. -/
structure Fair (store later : Store) (userId : UserId) (targetDate : Date) : Prop where
  kept : ∀ row ∈ store.db.budgetRows userId targetDate, ∃ b,
    Became store later userId targetDate row b
  exhausted : ∀ row b, Became store later userId targetDate row b → Exhausted row.1 →
    b.totalBudgetSeconds = row.1.totalBudgetSeconds ∧ b.usedSeconds = row.1.usedSeconds
  active : ∀ row b, Became store later userId targetDate row b → ¬ Exhausted row.1 →
    b.usedSeconds = row.1.usedSeconds ∧ b.usedSeconds ≤ b.totalBudgetSeconds
  equal : ∀ row b other c, Became store later userId targetDate row b →
    Became store later userId targetDate other c → ¬ Exhausted row.1 → ¬ Exhausted other.1 →
    row.2.priority = other.2.priority → remainingSeconds b = remainingSeconds c
  ordered : ∀ row b other c, Became store later userId targetDate row b →
    Became store later userId targetDate other c → ¬ Exhausted row.1 →
    other.2.priority < row.2.priority → remainingSeconds c ≤ remainingSeconds b
  apart : ∀ key, store.db.ownerOf userId targetDate key = none →
    later.db.budgets.find key = store.db.budgets.find key
  devices : later.db.devices = store.db.devices

theorem rebalanceBudgets_find (store : Store) (userId : UserId) (targetDate : Date) (now : UtcTime)
    (key : BudgetKey) :
    (rebalanceBudgets store userId targetDate now).2.db.budgets.find key =
      (store.db.budgets.find key).map
        (rebalanced (store.db.budgetRows userId targetDate) now) :=
  Table.find_of_rows_map (rebalanceBudgets_rows ..) (rebalanced_key _ now) key

/-- The row a listed row becomes. -/
theorem Became.eq {row : Budget × Device} {b : Budget}
    (became : Became store (rebalanceBudgets store userId targetDate now).2 userId targetDate
      row b) :
    b = rebalanced (store.db.budgetRows userId targetDate) now row.1 := by
  obtain ⟨stored, -⟩ := Database.mem_budgetRows.mp became.listed
  have found := became.found
  rw [rebalanceBudgets_find, Table.find_key stored] at found
  exact (Option.some.inj found).symm

/-- What a row has left afterwards is its share, and nothing if it is exhausted. -/
theorem Became.remaining {row : Budget × Device} {b : Budget}
    (became : Became store (rebalanceBudgets store userId targetDate now).2 userId targetDate
      row b) :
    remainingSeconds b =
      if Exhausted row.1 then 0
      else rebalanceShare (totalPool (store.db.budgetRows userId targetDate))
        (totalPriority (store.db.budgetRows userId targetDate)) row.2 := by
  rw [became.eq]
  exact remainingSeconds_rebalanced (budgetRows_ids_nodup store.db userId targetDate) became.listed

/-- The greater priority has the greater share. -/
theorem rebalanceShare_mono (positive : 0 < totalPriority rows) {lower higher : Device}
    (priorities : lower.priority ≤ higher.priority) :
    rebalanceShare (totalPool rows) (totalPriority rows) lower ≤
      rebalanceShare (totalPool rows) (totalPriority rows) higher := by
  rw [rebalanceShare_eq, rebalanceShare_eq]
  apply Int.ediv_le_ediv
  · exact_mod_cast positive
  · exact mul_le_mul_of_nonneg_left (by exact_mod_cast priorities) (totalPool_nonneg rows)

/-- A row under a key of another user or date is not written. -/
theorem rebalanced_apart {key : BudgetKey} {b : Budget}
    (found : store.db.budgets.find key = some b)
    (apart : store.db.ownerOf userId targetDate key = none) (now : UtcTime) :
    rebalanced (store.db.budgetRows userId targetDate) now b = b := by
  obtain ⟨stored, rfl⟩ := Table.find_eq_some.mp found
  refine assign_of_forall_ne fun row listed same => ?_
  obtain ⟨inside, owner⟩ := Database.mem_budgetRows.mp listed
  rw [store.db.budget_eq_of_id inside stored same, apart] at owner
  cases owner

/-- **Every rebalance is fair.** -/
theorem rebalanceBudgets_fair (store : Store) (userId : UserId) (targetDate : Date)
    (now : UtcTime) :
    Fair store (rebalanceBudgets store userId targetDate now).2 userId targetDate := by
  have distinct := budgetRows_ids_nodup store.db userId targetDate
  refine ⟨?_, ?_, ?_, ?_, ?_, ?_, rebalanceBudgets_devices ..⟩
  · intro row listed
    obtain ⟨stored, -⟩ := Database.mem_budgetRows.mp listed
    refine ⟨rebalanced (store.db.budgetRows userId targetDate) now row.1, listed, ?_⟩
    rw [rebalanceBudgets_find, Table.find_key stored]
    rfl
  · intro row b became exhausted
    rw [became.eq, rebalanced_of_exhausted distinct became.listed exhausted]
    exact ⟨rfl, rfl⟩
  · intro row b became active
    have share := rebalanceShare_nonneg row.2
      (totalPool_nonneg (store.db.budgetRows userId targetDate))
      (totalPriority_pos became.listed)
    rw [became.eq, rebalanced_of_active distinct became.listed active]
    exact ⟨rfl, le_add_of_nonneg_right share⟩
  · intro row b other c became becameOther active activeOther same
    rw [became.remaining, becameOther.remaining, if_neg active, if_neg activeOther]
    exact le_antisymm (rebalanceShare_mono (totalPriority_pos became.listed) same.le)
      (rebalanceShare_mono (totalPriority_pos became.listed) same.ge)
  · intro row b other c became becameOther active lower
    have positive := totalPriority_pos became.listed
    rw [became.remaining, becameOther.remaining, if_neg active]
    split
    · exact rebalanceShare_nonneg row.2 (totalPool_nonneg _) positive
    · exact rebalanceShare_mono positive lower.le
  · intro key apart
    rw [rebalanceBudgets_find]
    cases found : store.db.budgets.find key with
    | none => rfl
    | some b => rw [Option.map_some, rebalanced_apart found apart now]

/-- **Fair, in whatever order the rows arrive.** Any order of the listed rows leaves the store that
the call leaves, and it is a fair one. -/
theorem rebalance_fair (store : Store) (userId : UserId) (targetDate : Date) (now : UtcTime) :
    (∀ rows, rows.Perm (store.db.budgetRows userId targetDate) →
      (rebalanceListed rows store targetDate now).2 =
        (rebalanceBudgets store userId targetDate now).2) ∧
      Fair store (rebalanceBudgets store userId targetDate now).2 userId targetDate := by
  refine ⟨fun rows same => ?_, rebalanceBudgets_fair store userId targetDate now⟩
  rw [rebalanceBudgets_eq]
  exact rebalanceListed_perm (budgetRows_ids_nodup store.db userId targetDate) same store
    targetDate now

/-- The exhausted phone has the higher priority, and nothing left beside the tablet's share. -/
theorem exhausted_phone_outdone :
    ∃ row b other c,
      Became phoneStore (rebalanceBudgets phoneStore "family" someDay (someTime 9 0)).2 "family"
        someDay row b ∧
      Became phoneStore (rebalanceBudgets phoneStore "family" someDay (someTime 9 0)).2 "family"
        someDay other c ∧
      other.2.priority < row.2.priority ∧ ¬ remainingSeconds c ≤ remainingSeconds b := by
  refine ⟨({ tabletRow with id := "other", deviceId := "phone", usedSeconds := 7200 },
      familyPhone),
    { tabletRow with
      id := "other", deviceId := "phone", usedSeconds := 7200
      rebalancedAt := some (someTime 9 0) },
    ({ tabletRow with usedSeconds := 3600 }, tablet),
    { tabletRow with
      totalBudgetSeconds := 4800, usedSeconds := 3600, rebalancedAt := some (someTime 9 0) },
    ?_, ?_, by decide, by decide⟩
  · exact ⟨by decide +kernel, by decide +kernel⟩
  · exact ⟨by decide +kernel, by decide +kernel⟩

end ScreenSync.Decision
