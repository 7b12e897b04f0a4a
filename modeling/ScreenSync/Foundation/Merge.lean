/-
**Coordination-free merging.**

A merge takes two items and gives one. Merging a list down repeats this on any two of its items, in
any order and any bracketing, until one is left.

* `MergeStep` — one merge somewhere in the list; the rest of the list stays.
* `Selects key merges` — of two items with different keys, a merge gives the one with the greater
  key.
* `reached_keeps_greatest` — the run rule: a list merged down from distinct keys keeps its greatest
  item, and only has items of the start.
* `merge_ends_at_greatest` — so every way to merge a nonempty list down ends at the same item.
-/

import Mathlib.Data.List.Nodup
import Mathlib.Data.List.Perm.Basic
import Mathlib.Logic.Relation
import Mathlib.Order.Lattice

namespace ScreenSync.Foundation

section Merging

variable {α : Type*}

/-- Two items of a list are replaced by what they merge to. -/
inductive MergeStep (merges : α → α → α → Prop) : List α → List α → Prop
  | merge {items : List α} (a b c : α) (rest : List α) (pair : items.Perm (a :: b :: rest))
      (merged : merges a b c) : MergeStep merges items (c :: rest)

variable {merges : α → α → α → Prop}

theorem MergeStep.length_eq {items next : List α} (step : MergeStep merges items next) :
    items.length = next.length + 1 := by
  obtain ⟨_, _, _, _, pair, -⟩ := step
  exact pair.length_eq

/-- Two items are left, so there is something to merge. -/
theorem MergeStep.exists_of_two (total : ∀ a b, ∃ c, merges a b c) {items : List α}
    (two : 2 ≤ items.length) : ∃ next, MergeStep merges items next := by
  match items, two with
  | a :: b :: rest, _ =>
    obtain ⟨c, merged⟩ := total a b
    exact ⟨c :: rest, .merge a b c rest (List.Perm.refl _) merged⟩

variable {κ : Type*} [LinearOrder κ]

/-- A merge gives the item with the greater key. -/
def Selects (key : α → κ) (merges : α → α → α → Prop) : Prop :=
  ∀ a b c, key a ≠ key b → merges a b c →
    c = a ∧ key b < key a ∨ c = b ∧ key a < key b

/-- The item of the list with the greatest key. -/
def GreatestBy (key : α → κ) (items : List α) (winner : α) : Prop :=
  winner ∈ items ∧ ∀ item ∈ items, key item ≤ key winner

variable {key : α → κ}

theorem GreatestBy.perm {items others : List α} {winner : α}
    (greatest : GreatestBy key items winner) (same : items.Perm others) :
    GreatestBy key others winner :=
  ⟨same.mem_iff.mp greatest.1, fun item member => greatest.2 item (same.mem_iff.mpr member)⟩

theorem exists_greatestBy {items : List α} (nonempty : items ≠ []) :
    ∃ winner, GreatestBy key items winner := by
  induction items with
  | nil => exact absurd rfl nonempty
  | cons head tail ih =>
    by_cases single : tail = []
    · subst single
      exact ⟨head, by simp [GreatestBy]⟩
    · obtain ⟨winner, member, greatest⟩ := ih single
      obtain low | high := le_total (key head) (key winner)
      · refine ⟨winner, List.mem_cons_of_mem _ member, ?_⟩
        simpa [low] using greatest
      · refine ⟨head, List.mem_cons_self, ?_⟩
        simpa using fun item there => le_trans (greatest item there) high

/-- **One merge** keeps the keys distinct and the greatest item in the list. -/
theorem MergeStep.keeps_greatest (selects : Selects key merges) {items next : List α} {winner : α}
    (step : MergeStep merges items next) (distinct : (items.map key).Nodup)
    (greatest : GreatestBy key items winner) :
    (next.map key).Nodup ∧ GreatestBy key next winner := by
  obtain ⟨a, b, c, rest, pair, merged⟩ := step
  have nodup : ((a :: b :: rest).map key).Nodup := (pair.map key).nodup distinct
  obtain ⟨member, above⟩ := greatest.perm pair
  simp only [List.map_cons, List.nodup_cons, List.mem_cons, not_or] at nodup
  obtain ⟨⟨different, firstNew⟩, secondNew, tail⟩ := nodup
  have aboveRest : ∀ item ∈ rest, key item ≤ key winner := fun item there =>
    above item (List.mem_cons_of_mem _ (List.mem_cons_of_mem _ there))
  have aboveFirst : key a ≤ key winner := above a List.mem_cons_self
  have aboveSecond : key b ≤ key winner := above b (List.mem_cons_of_mem _ List.mem_cons_self)
  obtain ⟨rfl, lower⟩ | ⟨rfl, lower⟩ := selects a b c different merged
  · refine ⟨List.nodup_cons.mpr ⟨firstNew, tail⟩, ?_, List.forall_mem_cons.mpr
      ⟨aboveFirst, aboveRest⟩⟩
    -- the loser was not the greatest
    have other : winner ≠ b := by
      rintro rfl
      exact absurd aboveFirst (not_le.mpr lower)
    simpa [other] using member
  · refine ⟨List.nodup_cons.mpr ⟨secondNew, tail⟩, ?_, List.forall_mem_cons.mpr
      ⟨aboveSecond, aboveRest⟩⟩
    have other : winner ≠ a := by
      rintro rfl
      exact absurd aboveSecond (not_le.mpr lower)
    simpa [other] using member

/-- **The run rule of merging.** -/
theorem reached_keeps_greatest (selects : Selects key merges) {items reached : List α} {winner : α}
    (distinct : (items.map key).Nodup) (greatest : GreatestBy key items winner)
    (steps : Relation.ReflTransGen (MergeStep merges) items reached) :
    (reached.map key).Nodup ∧ GreatestBy key reached winner := by
  induction steps with
  | refl => exact ⟨distinct, greatest⟩
  | tail _ step ih => exact step.keeps_greatest selects ih.1 ih.2

/-- **Every way to merge a list down ends at its greatest item**: what is reached is that item
alone, or can be merged further. -/
theorem merge_ends_at_greatest (selects : Selects key merges) (total : ∀ a b, ∃ c, merges a b c)
    {items reached : List α} {winner : α} (distinct : (items.map key).Nodup)
    (greatest : GreatestBy key items winner)
    (steps : Relation.ReflTransGen (MergeStep merges) items reached) :
    reached = [winner] ∨ ∃ next, MergeStep merges reached next := by
  obtain ⟨-, member, -⟩ := reached_keeps_greatest selects distinct greatest steps
  match reached, member with
  | [last], member =>
    left
    rw [List.mem_singleton.mp member]
  | _ :: _ :: _, _ => exact .inr (MergeStep.exists_of_two total (by simp))

end Merging

end ScreenSync.Foundation
