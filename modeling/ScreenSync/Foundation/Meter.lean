/-
**A gated counter.**

A counter takes some charges and refuses the others; an entry is the cost that was taken, or
`none`. `Gated` says that nothing is taken any more once the counter has reached its limit,
whatever the gate looks at before that.

* `run_settle` — the counter holds what it started with and the costs that were taken.
* `closed_of_limit_le` — from the limit on, every charge is refused and the counter stands still.
* `overdraft_lt` — above the limit, the excess is less than the last cost that was taken.
* `exists_crossing` — a counter that gets from below the limit to the limit has a charge that
  takes it there, and that charge cost at least what was left.
-/

import Mathlib.Algebra.Order.Group.Defs
import Mathlib.Algebra.BigOperators.Group.List.Basic
import Mathlib.Data.List.ReduceOption
import ScreenSync.Foundation.Run

namespace ScreenSync.Foundation

variable {G : Type*} [AddCommGroup G]

/-- The counter after an entry. -/
def settle (used : G) : Option G → G
  | some cost => used + cost
  | none => used

/-- The counter after a sequence of entries. -/
theorem run_settle (used : G) (entries : List (Option G)) :
    run settle used entries = used + entries.reduceOption.sum := by
  induction entries generalizing used with
  | nil => simp
  | cons entry later ih =>
    rw [run_cons, ih]
    cases entry with
    | none => rw [settle, List.reduceOption_cons_of_none]
    | some cost => rw [settle, List.reduceOption_cons_of_some, List.sum_cons, add_assoc]

variable [LinearOrder G]

/-- Nothing is taken at the limit or above it. -/
def Gated (limit : G) : G → List (Option G) → Prop :=
  Meets settle fun used entry => limit ≤ used → entry = none

variable {limit used : G} {entries : List (Option G)}

/-- **From the limit on, nothing is taken.** -/
theorem closed_of_limit_le (gated : Gated limit used entries) (reached : limit ≤ used) :
    run settle used entries = used ∧ ∀ entry ∈ entries, entry = none := by
  induction entries with
  | nil => exact ⟨rfl, fun entry member => (by cases member)⟩
  | cons entry later ih =>
    obtain ⟨here, after⟩ := meets_cons.mp gated
    cases here reached
    obtain ⟨same, refused⟩ := ih after
    refine ⟨same, fun entry member => ?_⟩
    rcases List.mem_cons.mp member with rfl | member
    · rfl
    · exact refused entry member

variable [IsOrderedAddMonoid G]

/-- **The overdraft is less than the last cost taken.** -/
theorem overdraft_lt (gated : Gated limit used entries) (below : used < limit)
    (exceeded : limit < run settle used entries) :
    ∃ last, entries.reduceOption.getLast? = some last ∧ run settle used entries - limit < last := by
  induction entries using List.reverseRecOn with
  | nil => exact absurd exceeded below.not_gt
  | append_singleton earlier entry ih =>
    obtain ⟨before, here⟩ := meets_concat.mp gated
    rw [run_concat] at exceeded ⊢
    cases entry with
    | none =>
      obtain ⟨last, isLast, less⟩ := ih before exceeded
      refine ⟨last, ?_, less⟩
      rw [List.reduceOption_append, List.reduceOption_singleton, Option.toList_none,
        List.append_nil]
      exact isLast
    | some cost =>
      have room : run settle used earlier < limit := by
        by_contra full
        cases here (not_lt.mp full)
      refine ⟨cost, ?_, ?_⟩
      · rw [List.reduceOption_append, List.reduceOption_singleton, Option.toList_some,
          List.getLast?_concat]
      · rw [settle, sub_lt_iff_lt_add']
        exact add_lt_add_of_lt_of_le room le_rfl

/-- **The charge that crosses the limit.** -/
theorem exists_crossing (below : used < limit) (reached : limit ≤ run settle used entries) :
    ∃ before cost after, entries = before ++ some cost :: after ∧
      run settle used before < limit ∧ limit - run settle used before ≤ cost := by
  induction entries generalizing used with
  | nil => exact absurd reached (not_le.mpr below)
  | cons entry later ih =>
    rw [run_cons] at reached
    by_cases crossed : limit ≤ settle used entry
    · cases entry with
      | none => exact absurd crossed (not_le.mpr below)
      | some cost => exact ⟨[], cost, later, rfl, below, sub_le_iff_le_add'.mpr crossed⟩
    · obtain ⟨before, cost, after, split, room, enough⟩ := ih (not_le.mp crossed) reached
      exact ⟨entry :: before, cost, after, by rw [split]; rfl, room, enough⟩

end ScreenSync.Foundation
