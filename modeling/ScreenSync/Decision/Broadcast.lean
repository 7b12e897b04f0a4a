/-
**The broadcast after a rebalance.**

`trigger_rebalance` tells the devices what it takes to be their remaining seconds: the new total of
the row. That is what the row has been used for and its share of the pool; what remains is the
share.

* `rebalanceBudgets_updates` — the updates a rebalance returns, one for each active row.
* `truthful_iff` — the messages tell what remains exactly if the active rows have not been used.
* `used_tablet_told_total` — a tablet that has been used for an hour.
-/

import ScreenSync.Decision.Engine
import ScreenSync.Decision.Redistribution

namespace ScreenSync.Decision

open ScreenSync.Foundation ScreenSync.Shared

variable {rows : List (Budget × Device)} {row : Budget × Device} {store : Store} {userId : UserId}
  {today : Date} {now : UtcTime}

/-! ### The updates -/

theorem mem_activeRows : row ∈ activeRows rows ↔ row ∈ rows ∧ ¬ Exhausted row.1 := by
  unfold activeRows
  rw [List.mem_filter, decide_eq_true_eq]

/-- The entry of the answer for an active row. -/
def updateOf (pool : Int) (priorities : Nat) (row : Budget × Device) : RebalancedBudget :=
  ⟨row.2.id, newTotal pool priorities row⟩

theorem foldl_rebalanceRow_fst (pool : Int) (priorities : Nat) (rows : List (Budget × Device))
    (soFar : List RebalancedBudget × Store) :
    (rows.foldl (rebalanceRow pool priorities now today) soFar).1 =
      soFar.1 ++ (activeRows rows).map (updateOf pool priorities) := by
  induction rows generalizing soFar with
  | nil => exact (List.append_nil _).symm
  | cons first rest ih =>
    rw [List.foldl_cons, ih]
    by_cases exhausted : Exhausted first.1
    · have skipped : activeRows (first :: rest) = activeRows rest := by
        simp [activeRows, exhausted]
      simp only [rebalanceRow, if_pos exhausted, skipped]
    · have listed : activeRows (first :: rest) = first :: activeRows rest := by
        simp [activeRows, exhausted]
      simp only [rebalanceRow, if_neg exhausted, listed, List.map_cons, List.append_assoc]
      rfl

/-- **The updates of a rebalance.** -/
theorem rebalanceBudgets_updates (store : Store) (userId : UserId) (today : Date) (now : UtcTime) :
    (rebalanceBudgets store userId today now).1 =
      (activeRows (store.db.budgetRows userId today)).map
        (updateOf (totalPool (store.db.budgetRows userId today))
          (totalPriority (store.db.budgetRows userId today))) := by
  rw [rebalanceBudgets]
  split
  · rename_i none
    rw [none]
    rfl
  · exact (foldl_rebalanceRow_fst ..).trans (List.nil_append _)

/-! ### The messages -/

/-- A message for a device, with what remains of the device's row. -/
structure Tells (next : Store) (userId : UserId) (today : Date) (deviceId : DeviceId)
    (message : Message) : Prop where
  topic : message.topic = "screensync/" ++ userId ++ "/" ++ deviceId ++ "/budget/receive"
  remaining : ∃ b, next.db.budgets.find (deviceId, today) = some b ∧
    message.payload.get "remaining_secs" = some (.int (remainingSeconds b))

/-- Each message that is published tells the truth about the device of its update. -/
def Truthful (store : Store) (userId : UserId) (today : Date) (now : UtcTime)
    (publishedAt : Nat → UtcTime) : Prop :=
  let (updates, messages, next) := triggerRebalance store userId today now publishedAt
  ∀ (i : Nat) (message : Message), messages[i]? = some message →
    ∃ update, updates[i]? = some update ∧ Tells next userId today update.deviceId message

/-- The active rows have not been used. -/
def ActiveUnused (store : Store) (userId : UserId) (today : Date) : Prop :=
  ∀ row ∈ store.db.budgetRows userId today, ¬ Exhausted row.1 → row.1.usedSeconds = 0

theorem key_of_listed (listed : row ∈ store.db.budgetRows userId today) :
    row.1.key = (row.2.id, today) := by
  obtain ⟨-, owner⟩ := Database.mem_budgetRows.mp listed
  obtain ⟨found, -, day⟩ := Database.ownerOf_eq_some.mp owner
  exact Prod.ext (Table.find_eq_some.mp found).2.symm day

/-- The row of a listed device after the rebalance. -/
theorem find_rebalanced (listed : row ∈ store.db.budgetRows userId today) (now : UtcTime) :
    (rebalanceBudgets store userId today now).2.db.budgets.find (row.2.id, today) =
      some (rebalanced (store.db.budgetRows userId today) now row.1) := by
  have stored := (Database.mem_budgetRows.mp listed).1
  rw [Table.find_of_rows_map (rebalanceBudgets_rows store userId today now) (rebalanced_key _ now),
    ← key_of_listed listed, Table.find_key stored]
  rfl

/-- What an active row's device is told, and what remains. -/
theorem told_iff (listed : row ∈ store.db.budgetRows userId today) (active : ¬ Exhausted row.1)
    (now : UtcTime) :
    newTotal (totalPool (store.db.budgetRows userId today))
        (totalPriority (store.db.budgetRows userId today)) row =
          remainingSeconds (rebalanced (store.db.budgetRows userId today) now row.1) ↔
      row.1.usedSeconds = 0 := by
  have left : remainingSeconds (rebalanced (store.db.budgetRows userId today) now row.1) = _ :=
    remainingSeconds_rebalanced (budgetRows_ids_nodup store.db userId today) listed
  rw [if_neg active] at left
  rw [left, newTotal]
  omega

/-- **The broadcast tells the truth** exactly if no active row has been used. -/
theorem truthful_iff (store : Store) (userId : UserId) (today : Date) (now : UtcTime)
    (publishedAt : Nat → UtcTime) :
    Truthful store userId today now publishedAt ↔ ActiveUnused store userId today := by
  simp only [Truthful, triggerRebalance, rebalanceBudgets_updates, List.getElem?_mapIdx,
    List.getElem?_map]
  constructor
  · intro truthful row listed active
    obtain ⟨i, placed⟩ := List.mem_iff_getElem?.mp (mem_activeRows.mpr ⟨listed, active⟩)
    obtain ⟨update, same, tells⟩ := truthful i _ (by rw [placed]; rfl)
    rw [placed] at same
    cases same
    obtain ⟨b, found, told⟩ := tells.remaining
    cases found.symm.trans (find_rebalanced listed now)
    exact (told_iff listed active now).mp (Json.int.inj (Option.some.inj told))
  · intro unused i message published
    obtain ⟨update, listedUpdate, rfl⟩ := Option.map_eq_some_iff.mp published
    obtain ⟨row, placed, rfl⟩ := Option.map_eq_some_iff.mp listedUpdate
    obtain ⟨listed, active⟩ := mem_activeRows.mp (List.mem_of_getElem? placed)
    refine ⟨_, listedUpdate, rfl, _, find_rebalanced listed now, ?_⟩
    have told := (told_iff listed active now).mpr (unused row listed active)
    exact congrArg (fun seconds => some (Json.int seconds)) told

/-! ### A tablet that has been used for an hour -/

/-- The tablet's row with an hour left. -/
def hourUsedRow : Budget := { tabletRow with usedSeconds := 3600 }

def usedStore : Store where
  db :=
    { devices := tabletDb.devices
      budgets := Table.empty.insert hourUsedRow rfl
      budgetIds := List.nodup_singleton _ }
  cache _ := none

/-- The tablet is told that two hours remain, and has one. -/
theorem used_tablet_told_total :
    ¬ Truthful usedStore "family" someDay (someTime 12 0) fun _ => someTime 12 1 := by
  intro truthful
  have updates : (rebalanceBudgets usedStore "family" someDay (someTime 12 0)).1 =
      [⟨"tablet", 7200⟩] := by
    decide +kernel
  have left : ((rebalanceBudgets usedStore "family" someDay (someTime 12 0)).2.db.budgets.find
      ("tablet", someDay)).map remainingSeconds = some 3600 := by
    decide +kernel
  simp only [Truthful, triggerRebalance, updates] at truthful
  obtain ⟨update, same, tells⟩ := truthful 0 _ rfl
  cases same
  obtain ⟨b, found, told⟩ := tells.remaining
  rw [found, Option.map_some, ← Json.int.inj (Option.some.inj told)] at left
  exact absurd left (by decide)

end ScreenSync.Decision
