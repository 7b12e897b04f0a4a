/-
**What a rebalance hands out.**

The pool is what the active rows have left; every active row gets its part of it by priority, but
the priorities are added up over all rows. What would fall to an exhausted row falls to nobody.

* `totalPool_rebalance` — the pool after a rebalance is the sum of the shares of the active rows.
* `keepsPool_iff` — when no more than the rounding of the shares is lost.
* `rebalancing_keeps_rounds` — while all rows are active, any number of rebalances together lose
  less than one second for each point of priority.
-/

import ScreenSync.Decision.Conservation

namespace ScreenSync.Decision

open ScreenSync.Foundation ScreenSync.Shared

variable {rows : List (Budget × Device)} {row : Budget × Device} {store : Store} {userId : UserId}
  {targetDate : Date} {now : UtcTime}

/-! ### The rows after a rebalance -/

theorem remainingSeconds_of_exhausted {budget : Budget} (exhausted : Exhausted budget) :
    remainingSeconds budget = 0 := by
  rw [Exhausted] at exhausted
  rw [remainingSeconds]
  omega

theorem rebalanced_of_exhausted (distinct : (rows.map fun row => row.1.id).Nodup)
    (member : row ∈ rows) (exhausted : Exhausted row.1) :
    rebalanced rows now row.1 = { row.1 with rebalancedAt := some now } := by
  rw [rebalanced, assign_of_mem distinct member rfl, rebalanceValues, if_pos exhausted]

theorem rebalanced_of_active (distinct : (rows.map fun row => row.1.id).Nodup)
    (member : row ∈ rows) (active : ¬ Exhausted row.1) :
    rebalanced rows now row.1 =
      { row.1 with
        totalBudgetSeconds := newTotal (totalPool rows) (totalPriority rows) row
        rebalancedAt := some now } := by
  rw [rebalanced, assign_of_mem distinct member rfl, rebalanceValues, if_neg active]

/-- **What a listed row has left afterwards.** -/
theorem remainingSeconds_rebalanced (distinct : (rows.map fun row => row.1.id).Nodup)
    (member : row ∈ rows) :
    remainingSeconds (rebalanced rows now row.1) =
      if Exhausted row.1 then 0
      else rebalanceShare (totalPool rows) (totalPriority rows) row.2 := by
  split
  · rename_i exhausted
    rw [rebalanced_of_exhausted distinct member exhausted]
    exact remainingSeconds_of_exhausted exhausted
  · rename_i active
    have share := rebalanceShare_nonneg row.2 (totalPool_nonneg rows) (totalPriority_pos member)
    rw [rebalanced_of_active distinct member active, remainingSeconds, newTotal]
    simp only
    omega

/-- The user's rows after a rebalance. -/
theorem budgetRows_rebalance (store : Store) (userId : UserId) (targetDate : Date) (now : UtcTime) :
    (rebalanceBudgets store userId targetDate now).2.db.budgetRows userId targetDate =
      (store.db.budgetRows userId targetDate).map fun row =>
        (rebalanced (store.db.budgetRows userId targetDate) now row.1, row.2) := by
  have rewritten : (rebalanceBudgets store userId targetDate now).2.db.budgets.rows =
      store.db.budgets.rows.map (rebalanced (store.db.budgetRows userId targetDate) now) ++ [] := by
    rw [List.append_nil, rebalanceBudgets_rows]
  rw [Database.budgetRows_map_append userId targetDate (rebalanceBudgets_devices ..) rewritten
    (rebalanced_key _ now)]
  exact List.append_nil _

theorem totalPool_eq (rows : List (Budget × Device)) :
    totalPool rows = (rows.map fun row => remainingSeconds row.1).sum := rfl

/-- The rows that get a share. -/
def activeRows (rows : List (Budget × Device)) : List (Budget × Device) :=
  rows.filter fun row => ¬ Exhausted row.1

/-- The rows that are only stamped. -/
def exhaustedRows (rows : List (Budget × Device)) : List (Budget × Device) :=
  rows.filter fun row => Exhausted row.1

theorem totalPriority_cast_pos (member : row ∈ rows) : (0 : Int) < totalPriority rows := by
  exact_mod_cast totalPriority_pos member

theorem totalPriority_pos_of_active (someActive : activeRows rows ≠ []) :
    (0 : Int) < totalPriority rows := by
  obtain ⟨row, member⟩ := List.exists_mem_of_ne_nil _ someActive
  exact totalPriority_cast_pos (List.mem_of_mem_filter member)

/-- `int(total_pool * (device.priority / total_priority))` is a quotient of integers. -/
theorem rebalanceShare_eq (rows : List (Budget × Device)) (device : Device) :
    rebalanceShare (totalPool rows) (totalPriority rows) device =
      totalPool rows * device.priority / totalPriority rows :=
  truncate_share (totalPool_nonneg rows) device.priority (totalPriority rows)

/-- **The pool after a rebalance** is what the active rows were given. -/
theorem totalPool_rebalance (store : Store) (userId : UserId) (targetDate : Date) (now : UtcTime) :
    totalPool ((rebalanceBudgets store userId targetDate now).2.db.budgetRows userId targetDate) =
      ((activeRows (store.db.budgetRows userId targetDate)).map fun row =>
        totalPool (store.db.budgetRows userId targetDate) * (row.2.priority : Int) /
          totalPriority (store.db.budgetRows userId targetDate)).sum := by
  have distinct := budgetRows_ids_nodup store.db userId targetDate
  rw [budgetRows_rebalance, totalPool_eq, List.map_map]
  generalize store.db.budgetRows userId targetDate = rows at distinct
  have each : ∀ row ∈ rows, remainingSeconds (rebalanced rows now row.1) =
      if Exhausted row.1 then 0
      else totalPool rows * (row.2.priority : Int) / totalPriority rows := by
    intro row member
    rw [remainingSeconds_rebalanced distinct member, rebalanceShare_eq]
  rw [Function.comp_def, List.map_congr_left each, activeRows]
  clear each distinct
  generalize totalPool rows = pool, totalPriority rows = priorities
  induction rows with
  | nil => rfl
  | cons first rest ih =>
    by_cases exhausted : Exhausted first.1
    · simp [exhausted, ih]
    · simp [exhausted, ih]

/-! ### What a rebalance loses -/

/-- The pool shrinks by less than one second for each active row. -/
def KeepsPool (store : Store) (userId : UserId) (targetDate : Date) (now : UtcTime) : Prop :=
  let before := store.db.budgetRows userId targetDate
  let after := (rebalanceBudgets store userId targetDate now).2.db.budgetRows userId targetDate
  totalPool after ≤ totalPool before ∧
    totalPool before - totalPool after < (activeRows before).length

/-- A row is active or exhausted. -/
theorem totalPriority_split (rows : List (Budget × Device)) :
    totalPriority rows = totalPriority (activeRows rows) + totalPriority (exhaustedRows rows) := by
  induction rows with
  | nil => rfl
  | cons first rest ih =>
    simp only [totalPriority, activeRows, exhaustedRows] at ih ⊢
    by_cases exhausted : Exhausted first.1
    · simp only [List.map_cons, List.sum_cons, ih, exhausted, not_true_eq_false, decide_false,
        decide_true, List.filter_cons, if_true, Bool.false_eq_true, if_false]
      omega
    · simp only [List.map_cons, List.sum_cons, ih, exhausted, not_false_eq_true, decide_false,
        decide_true, List.filter_cons, if_true, Bool.false_eq_true, if_false]
      omega

/-- **What is lost**, counted in priorities: the part of the pool that falls to the exhausted rows,
and the remainders of the active ones. -/
theorem lost_by_rebalance (store : Store) (userId : UserId) (targetDate : Date) (now : UtcTime) :
    let before := store.db.budgetRows userId targetDate
    let after := (rebalanceBudgets store userId targetDate now).2.db.budgetRows userId targetDate
    totalPriority before * (totalPool before - totalPool after) =
      totalPool before * totalPriority (exhaustedRows before) +
        ((activeRows before).map fun row =>
          totalPool before * (row.2.priority : Int) % totalPriority before).sum := by
  intro before after
  have handed := totalPool_rebalance store userId targetDate now
  have parts := sum_quotients (totalPool before) (totalPriority before)
    (fun row : Budget × Device => row.2.priority) (activeRows before)
  have priorities : (totalPriority before : Int) =
      totalPriority (activeRows before) + totalPriority (exhaustedRows before) := by
    exact_mod_cast totalPriority_split before
  rw [← handed] at parts
  have whole : totalPool before * (totalPriority before : Int) =
      totalPool before * totalPriority (activeRows before) +
        totalPool before * totalPriority (exhaustedRows before) := by
    rw [priorities, mul_add]
  replace parts : totalPriority before * totalPool after + _ =
    totalPool before * totalPriority (activeRows before) := parts
  rw [mul_sub, mul_comm (totalPriority before : Int) (totalPool before)]
  linarith

theorem sum_sub_remainders (priorities : Int) (remainder : Budget × Device → Int)
    (rows : List (Budget × Device)) :
    (rows.map fun row => priorities - remainder row).sum =
      priorities * rows.length - (rows.map remainder).sum := by
  induction rows with
  | nil => simp
  | cons first rest ih =>
    simp only [List.map_cons, List.sum_cons, List.length_cons, ih]
    push_cast
    ring

/-- A rebalance loses no more than rounding if less than one second is lost for each active row. -/
theorem keepsPool_iff_lost (someActive : activeRows (store.db.budgetRows userId targetDate) ≠ [])
    (now : UtcTime) :
    KeepsPool store userId targetDate now ↔
      totalPool (store.db.budgetRows userId targetDate) *
            totalPriority (exhaustedRows (store.db.budgetRows userId targetDate)) +
          ((activeRows (store.db.budgetRows userId targetDate)).map fun row =>
            totalPool (store.db.budgetRows userId targetDate) * (row.2.priority : Int) %
              totalPriority (store.db.budgetRows userId targetDate)).sum <
        totalPriority (store.db.budgetRows userId targetDate) *
          (activeRows (store.db.budgetRows userId targetDate)).length := by
  have lost := lost_by_rebalance store userId targetDate now
  rw [KeepsPool]
  generalize (rebalanceBudgets store userId targetDate now).2.db.budgetRows userId targetDate =
    after at lost
  generalize store.db.budgetRows userId targetDate = before at someActive lost
  have positive := totalPriority_pos_of_active someActive
  have exhausted : 0 ≤ totalPool before * (totalPriority (exhaustedRows before) : Int) :=
    mul_nonneg (totalPool_nonneg before) (Int.natCast_nonneg _)
  have remainders : 0 ≤ ((activeRows before).map fun row =>
      totalPool before * (row.2.priority : Int) % totalPriority before).sum := by
    refine List.sum_nonneg fun amount listed => ?_
    obtain ⟨other, -, rfl⟩ := List.mem_map.mp listed
    exact Int.emod_nonneg _ positive.ne'
  have shrinks : totalPool after ≤ totalPool before := by
    have difference : 0 ≤ totalPool before - totalPool after :=
      nonneg_of_mul_nonneg_right (lost ▸ add_nonneg exhausted remainders) positive
    linarith
  rw [and_iff_right shrinks, ← mul_lt_mul_iff_right₀ positive, lost]

/-- **When a rebalance loses no more than rounding**: what falls to the exhausted rows has to be
less than what the remainders of the active rows leave open. -/
theorem keepsPool_iff (store : Store) (userId : UserId) (targetDate : Date) (now : UtcTime)
    (someActive : activeRows (store.db.budgetRows userId targetDate) ≠ []) :
    KeepsPool store userId targetDate now ↔
      totalPool (store.db.budgetRows userId targetDate) *
          totalPriority (exhaustedRows (store.db.budgetRows userId targetDate)) <
        ((activeRows (store.db.budgetRows userId targetDate)).map fun row =>
          (totalPriority (store.db.budgetRows userId targetDate) : Int) -
            totalPool (store.db.budgetRows userId targetDate) * row.2.priority %
              totalPriority (store.db.budgetRows userId targetDate)).sum := by
  rw [keepsPool_iff_lost someActive, sum_sub_remainders]
  exact lt_sub_iff_add_lt.symm

/-- Without exhausted rows only rounding is lost. -/
theorem keepsPool_of_active (someActive : activeRows (store.db.budgetRows userId targetDate) ≠ [])
    (active : exhaustedRows (store.db.budgetRows userId targetDate) = []) (now : UtcTime) :
    KeepsPool store userId targetDate now := by
  rw [keepsPool_iff_lost someActive, active]
  have positive := totalPriority_pos_of_active someActive
  rw [show totalPriority [] = 0 from rfl, Nat.cast_zero, mul_zero, zero_add, ← sub_pos,
    ← sum_sub_remainders]
  refine List.sum_pos _ (fun amount listed => ?_) (by simpa using someActive)
  obtain ⟨other, -, rfl⟩ := List.mem_map.mp listed
  exact sub_pos.mpr (Int.emod_lt_of_pos _ positive)

/-! ### A phone that is exhausted -/

def familyPhone : Device where
  id := "phone"
  userId := "family"
  priority := 2
  isOnline := true
  priority_pos := by decide

/-- The phone has used its two hours; the tablet has an hour left. -/
def phoneStore : Store where
  db :=
    { devices := tabletDb.devices.insert familyPhone rfl
      budgets := (Table.empty.insert { tabletRow with usedSeconds := 3600 } rfl).insert
        { tabletRow with id := "other", deviceId := "phone", usedSeconds := 7200 } rfl
      budgetIds := by decide }
  cache _ := none

theorem keepsPool_iff_phoneStore :
    KeepsPool phoneStore "family" someDay (someTime 9 0) ↔
      totalPool (phoneStore.db.budgetRows "family" someDay) *
          totalPriority (exhaustedRows (phoneStore.db.budgetRows "family" someDay)) <
        ((activeRows (phoneStore.db.budgetRows "family" someDay)).map fun row =>
          (totalPriority (phoneStore.db.budgetRows "family" someDay) : Int) -
            totalPool (phoneStore.db.budgetRows "family" someDay) * row.2.priority %
              totalPriority (phoneStore.db.budgetRows "family" someDay)).sum :=
  keepsPool_iff phoneStore "family" someDay (someTime 9 0) (by decide +kernel)

/-- Two thirds of the tablet's hour fall to the phone, and are lost. -/
theorem two_thirds_of_the_pool_lost :
    activeRows (phoneStore.db.budgetRows "family" someDay) ≠ [] ∧
      ¬ KeepsPool phoneStore "family" someDay (someTime 9 0) := by
  have before : totalPool (phoneStore.db.budgetRows "family" someDay) = 3600 := by
    decide +kernel
  have after : totalPool ((rebalanceBudgets phoneStore "family" someDay
      (someTime 9 0)).2.db.budgetRows "family" someDay) = 1200 := by
    decide +kernel
  have active : (activeRows (phoneStore.db.budgetRows "family" someDay)).length = 1 := by
    decide +kernel
  refine ⟨List.ne_nil_of_length_pos (active ▸ Nat.one_pos), fun keeps => ?_⟩
  have lost := keeps.2
  rw [before, after, active] at lost
  exact absurd lost (by decide)

/-! ### Rebalancing again and again -/

/-- The store after one rebalance of a user's date for each reading of the clock. -/
def rebalances (store : Store) (userId : UserId) (targetDate : Date) (nows : List UtcTime) :
    Store :=
  run (fun store now => (rebalanceBudgets store userId targetDate now).2) store nows

/-- The pool covers a number of seconds for each point of priority; if there are any, no row is
exhausted. -/
structure Covers (userId : UserId) (targetDate : Date) (priorities : Nat) (rounds : Int)
    (store : Store) : Prop where
  total : totalPriority (store.db.budgetRows userId targetDate) = priorities
  enough : priorities * rounds ≤ totalPool (store.db.budgetRows userId targetDate)
  active : 0 < rounds → ∀ row ∈ store.db.budgetRows userId targetDate, ¬ Exhausted row.1

theorem activeRows_of_active (active : ∀ row ∈ rows, ¬ Exhausted row.1) :
    activeRows rows = rows :=
  List.filter_eq_self.mpr fun row member => decide_eq_true (active row member)

/-- A covered round leaves every row active. -/
theorem rebalanced_active (distinct : (rows.map fun row => row.1.id).Nodup) (member : row ∈ rows)
    (active : ¬ Exhausted row.1) (covered : (totalPriority rows : Int) ≤ totalPool rows) :
    ¬ Exhausted (rebalanced rows now row.1) := by
  have positive := totalPriority_cast_pos member
  have point : (1 : Int) ≤ row.2.priority := by exact_mod_cast row.2.priority_pos
  have whole : (totalPriority rows : Int) ≤ totalPool rows * row.2.priority :=
    covered.trans (le_mul_of_one_le_right (totalPool_nonneg rows) point)
  have share : 1 ≤ rebalanceShare (totalPool rows) (totalPriority rows) row.2 := by
    rw [rebalanceShare_eq]
    exact (Int.le_ediv_iff_mul_le positive).mpr (by rwa [one_mul])
  rw [rebalanced_of_active distinct member active, Exhausted, newTotal]
  simp only
  omega

/-- **One more rebalance** covers as many rounds. -/
theorem Covers.rebalance {priorities : Nat} {rounds : Int} (positive : 0 ≤ rounds)
    (covers : Covers userId targetDate priorities rounds store) (now : UtcTime) :
    Covers userId targetDate priorities rounds
      (rebalanceBudgets store userId targetDate now).2 := by
  have distinct := budgetRows_ids_nodup store.db userId targetDate
  have handed := totalPool_rebalance store userId targetDate now
  obtain ⟨same, enough, active⟩ := covers
  have priority : totalPriority ((rebalanceBudgets store userId targetDate now).2.db.budgetRows
      userId targetDate) = priorities := by
    rw [budgetRows_rebalance, totalPriority, List.map_map]
    exact same
  rcases positive.eq_or_lt with rfl | some_round
  · refine ⟨priority, ?_, fun none => absurd none (lt_irrefl 0)⟩
    rw [mul_zero]
    exact totalPool_nonneg _
  · have allActive := active some_round
    rw [activeRows_of_active allActive] at handed
    refine ⟨priority, ?_, fun _ row member => ?_⟩
    · by_cases empty : priorities = 0
      · rw [empty, Nat.cast_zero, zero_mul]
        exact totalPool_nonneg _
      · have some_priority : 0 < priorities := Nat.pos_of_ne_zero empty
        have kept := le_sum_quotients (totalPool (store.db.budgetRows userId targetDate))
          (fun row : Budget × Device => row.2.priority) _ some_priority same
        rw [handed, same]
        refine le_trans (mul_le_mul_of_nonneg_left ?_ (Int.natCast_nonneg _)) kept
        refine (Int.le_ediv_iff_mul_le (by exact_mod_cast some_priority)).mpr ?_
        rwa [mul_comm]
    · rw [budgetRows_rebalance] at member
      obtain ⟨old, listed, rfl⟩ := List.mem_map.mp member
      refine rebalanced_active distinct listed (allActive old listed) ?_
      refine le_trans ?_ enough
      rw [same]
      exact le_mul_of_one_le_right (Int.natCast_nonneg _) some_round

/-- **Repeated rebalancing does not drain a family.** After any number of rebalances, one after the
other, of rows that were all active, every whole round of the pool is still there: together they
lose less than one second for each point of priority. -/
theorem rebalancing_keeps_rounds (store : Store) (userId : UserId) (targetDate : Date)
    (nows : List UtcTime)
    (active : ∀ row ∈ store.db.budgetRows userId targetDate, ¬ Exhausted row.1) :
    let before := store.db.budgetRows userId targetDate
    let after := (rebalances store userId targetDate nows).db.budgetRows userId targetDate
    totalPriority before * (totalPool before / totalPriority before) ≤ totalPool after ∧
      (before ≠ [] → totalPool before - totalPool after < totalPriority before) := by
  intro before after
  have rounds_nonneg : 0 ≤ totalPool before / (totalPriority before : Int) :=
    Int.ediv_nonneg (totalPool_nonneg before) (Int.natCast_nonneg _)
  have rounds_le : totalPriority before * (totalPool before / totalPriority before) ≤
      totalPool before := by
    by_cases empty : (totalPriority before : Int) = 0
    · rw [empty, zero_mul]
      exact totalPool_nonneg before
    · exact Int.mul_ediv_self_le empty
  have start : Covers userId targetDate (totalPriority before)
      (totalPool before / totalPriority before) store :=
    ⟨rfl, rounds_le, fun _ => active⟩
  have covers := run_invariant
    (fun store now => (rebalanceBudgets store userId targetDate now).2)
    (fun store now (covers : Covers userId targetDate _ _ store) =>
      covers.rebalance rounds_nonneg now) start nows
  refine ⟨covers.enough, fun some_row => ?_⟩
  obtain ⟨row, member⟩ := List.exists_mem_of_ne_nil _ some_row
  have positive := totalPriority_cast_pos member
  have remainder := Int.emod_lt_of_pos (totalPool before) positive
  have split := Int.mul_ediv_add_emod (totalPool before) (totalPriority before)
  have kept : totalPriority before * (totalPool before / totalPriority before) ≤
      totalPool after := covers.enough
  linarith

/-- An hour is left of the tablet's two, and a hundred seconds are left to the phone. -/
def activeStore : Store where
  db :=
    { devices := tabletDb.devices.insert familyPhone rfl
      budgets := (Table.empty.insert { tabletRow with usedSeconds := 3600 } rfl).insert
        { tabletRow with id := "other", deviceId := "phone", usedSeconds := 7100 } rfl
      budgetIds := by decide }
  cache _ := none

/-- The tablet and the phone, rebalanced at nine and at ten. -/
theorem rebalancing_keeps_rounds_tablet :
    let before := activeStore.db.budgetRows "family" someDay
    let after := (rebalances activeStore "family" someDay
      [someTime 9 0, someTime 10 0]).db.budgetRows "family" someDay
    totalPriority before * (totalPool before / totalPriority before) ≤ totalPool after ∧
      (before ≠ [] → totalPool before - totalPool after < totalPriority before) :=
  rebalancing_keeps_rounds activeStore "family" someDay [someTime 9 0, someTime 10 0]
    (by decide +kernel)

-- A third of 3700 seconds is floored for each of them.
example : totalPool ((rebalances activeStore "family" someDay
    [someTime 9 0, someTime 10 0]).db.budgetRows "family" someDay) = 3699 := by
  decide +kernel

end ScreenSync.Decision
