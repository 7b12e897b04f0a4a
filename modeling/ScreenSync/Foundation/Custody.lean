/-
**Items that are passed on until they are done.**

An item that has come in is handed on as copies, which are live until they are passed on or done. An
item is single if it has been done once and has no copy left, or is still there as one copy.

* `single_start`, `single_finish` — a new item, and an item that is done.
* `single_pass_iff` — a copy that is replaced by some others: its item stays single exactly if it is
  replaced by one. No other item is touched (`single_congr`).
* `Step.settled_iff` — a step keeps every item single exactly if it passes nothing on, or passes it
  on as one copy.
-/

import Mathlib.Data.Set.Insert
import Mathlib.Tactic.Common

namespace ScreenSync.Foundation

/-- The items that have come in, the live copies, and the copies that were done, in order. -/
structure Custody (C E : Type*) where
  known : Set E
  live : Set C
  done : List C

namespace Custody

variable {C E : Type*} [DecidableEq E] (item : C → E)

/-- How often an item has been done. -/
def times (s : Custody C E) (e : E) : Nat := (s.done.map item).count e

/-- The item has been done once and has no copy left, or has not been done and has one copy. -/
def Single (s : Custody C E) (e : E) : Prop :=
  (s.times item e = 1 ∧ ∀ c ∈ s.live, item c ≠ e) ∨
    (s.times item e = 0 ∧ ∃! c, c ∈ s.live ∧ item c = e)

/-- Every item that has come in is single. -/
def Settled (s : Custody C E) : Prop := ∀ e ∈ s.known, s.Single item e

/-- There are copies only of items that have come in. -/
def Known (s : Custody C E) : Prop := ∀ c, c ∈ s.live ∨ c ∈ s.done → item c ∈ s.known

variable {item} {s next : Custody C E} {e : E} {c : C}

/-- An item with the same copies, done as often, is as single as before. -/
theorem single_congr (live : ∀ d, item d = e → (d ∈ next.live ↔ d ∈ s.live))
    (done : next.times item e = s.times item e) : next.Single item e ↔ s.Single item e := by
  have copies : ∀ d, (d ∈ next.live ∧ item d = e) ↔ (d ∈ s.live ∧ item d = e) := by
    intro d
    exact and_congr_left (live d)
  have nowhere : (∀ d ∈ next.live, item d ≠ e) ↔ ∀ d ∈ s.live, item d ≠ e := by
    constructor
    · intro none d member same
      exact none d ((live d same).mpr member) same
    · intro none d member same
      exact none d ((live d same).mp member) same
  rw [Single, Single, done, nowhere]
  simp only [copies]

/-- **A new item** starts as one copy. -/
theorem single_start (known : s.Known item) (fresh : item c ∉ s.known)
    (live : ∀ d, d ∈ next.live ↔ d ∈ s.live ∨ d = c) (done : next.done = s.done) :
    next.Single item (item c) := by
  refine .inr ⟨?_, c, ⟨(live c).mpr (.inr rfl), rfl⟩, ?_⟩
  · rw [times, done, List.count_eq_zero]
    intro member
    obtain ⟨d, inside, same⟩ := List.mem_map.mp member
    exact fresh (same ▸ known d (.inr inside))
  · rintro d ⟨member, same⟩
    refine ((live d).mp member).resolve_left fun old => fresh ?_
    rw [← same]
    exact known d (.inl old)

/-- The copy of an item that is not done yet is the only one. -/
theorem Single.only (single : s.Single item (item c)) (here : c ∈ s.live) :
    s.times item (item c) = 0 ∧ ∀ d ∈ s.live, item d = item c → d = c := by
  rcases single with ⟨-, gone⟩ | ⟨undone, unique⟩
  · exact absurd rfl (gone c here)
  · exact ⟨undone, fun d member same => unique.unique ⟨member, same⟩ ⟨here, rfl⟩⟩

/-- **An item that is done** has been done once and is gone. -/
theorem single_finish (single : s.Single item (item c)) (here : c ∈ s.live)
    (live : ∀ d, d ∈ next.live ↔ d ∈ s.live ∧ d ≠ c) (done : next.done = s.done ++ [c]) :
    next.Single item (item c) := by
  obtain ⟨undone, only⟩ := single.only here
  left
  constructor
  · rw [times, done, List.map_append, List.count_append, ← times, undone]
    simp
  · intro d member same
    obtain ⟨old, other⟩ := (live d).mp member
    exact other (only d old same)

/-- **A copy that is passed on** as some others: its item stays single exactly if there is one. -/
theorem single_pass_iff {others : Set C} (single : s.Single item (item c)) (here : c ∈ s.live)
    (copies : ∀ d ∈ others, item d = item c)
    (live : ∀ d, d ∈ next.live ↔ d ∈ s.live ∧ d ≠ c ∨ d ∈ others) (done : next.done = s.done) :
    next.Single item (item c) ↔ ∃! d, d ∈ others := by
  obtain ⟨undone, only⟩ := single.only here
  have still : next.times item (item c) = 0 := by
    rw [times, done, ← times, undone]
  have left : ∀ d, (d ∈ next.live ∧ item d = item c) ↔ d ∈ others := by
    intro d
    rw [live]
    constructor
    · rintro ⟨⟨old, other⟩ | passed, same⟩
      · exact absurd (only d old same) other
      · exact passed
    · intro passed
      exact ⟨.inr passed, copies d passed⟩
  rw [Single, still]
  simp [left]

/-! ### Steps -/

variable (item) in
/-- One step, with the copies it hands on if it passes one on. -/
inductive Step (s next : Custody C E) : Option (Set C) → Prop
  | keep (known : next.known = s.known) (live : ∀ d, d ∈ next.live ↔ d ∈ s.live)
    (done : next.done = s.done) : Step s next none
  | start (c : C) (fresh : item c ∉ s.known) (known : next.known = insert (item c) s.known)
    (live : ∀ d, d ∈ next.live ↔ d ∈ s.live ∨ d = c) (done : next.done = s.done) : Step s next none
  | finish (c : C) (here : c ∈ s.live) (known : next.known = s.known)
    (live : ∀ d, d ∈ next.live ↔ d ∈ s.live ∧ d ≠ c) (done : next.done = s.done ++ [c]) :
    Step s next none
  | pass (c : C) (here : c ∈ s.live) (others : Set C) (copies : ∀ d ∈ others, item d = item c)
    (known : next.known = s.known)
    (live : ∀ d, d ∈ next.live ↔ d ∈ s.live ∧ d ≠ c ∨ d ∈ others) (done : next.done = s.done) :
    Step s next (some others)

variable {passed : Option (Set C)}

omit [DecidableEq E] in
theorem Step.known (step : Step item s next passed) (known : s.Known item) : next.Known item := by
  intro d there
  cases step with
  | keep same live done =>
    rw [live, done] at there
    rw [same]
    exact known d there
  | start c fresh same live done =>
    rw [live, done] at there
    rw [same]
    rcases there with (old | rfl) | old
    · exact .inr (known d (.inl old))
    · exact .inl rfl
    · exact .inr (known d (.inr old))
  | finish c here same live done =>
    rw [live, done, List.mem_append, List.mem_singleton] at there
    rw [same]
    rcases there with ⟨old, -⟩ | old | rfl
    · exact known d (.inl old)
    · exact known d (.inr old)
    · exact known d (.inl here)
  | pass c here others copies same live done =>
    rw [live, done] at there
    rw [same]
    rcases there with (⟨old, -⟩ | new) | old
    · exact known d (.inl old)
    · rw [copies d new]
      exact known c (.inl here)
    · exact known d (.inr old)

/-- **A step keeps every item single** exactly if what it passes on, if anything, is one copy. -/
theorem Step.settled_iff (step : Step item s next passed) (known : s.Known item)
    (settled : s.Settled item) :
    next.Settled item ↔ ∀ others, passed = some others → ∃! d, d ∈ others := by
  cases step with
  | keep same live done =>
    refine ⟨fun _ _ => nofun, fun _ e member => ?_⟩
    refine (single_congr (fun d _ => live d) ?_).mpr (settled e (same ▸ member))
    rw [times, times, done]
  | start c fresh same live done =>
    refine ⟨fun _ _ => nofun, fun _ e member => ?_⟩
    rw [same] at member
    rcases member with rfl | old
    · exact single_start known fresh live done
    · have other : e ≠ item c := by
        rintro rfl
        exact fresh old
      refine (single_congr (fun d mine => ?_) ?_).mpr (settled e old)
      · rw [live]
        exact or_iff_left fun equal => other (by rw [← mine, equal])
      · rw [times, times, done]
  | finish c here same live done =>
    refine ⟨fun _ _ => nofun, fun _ e member => ?_⟩
    rw [same] at member
    by_cases own : e = item c
    · subst own
      exact single_finish (settled _ member) here live done
    · refine (single_congr (fun d mine => ?_) ?_).mpr (settled e member)
      · rw [live]
        exact and_iff_left fun equal => own (by rw [← mine, equal])
      · rw [times, times, done, List.map_append, List.count_append, List.map_singleton,
          List.count_singleton, if_neg (by simpa using Ne.symm own), Nat.add_zero]
  | pass c here others copies same live done =>
    have single := settled (item c) (known c (.inl here))
    have exactly := single_pass_iff single here copies live done
    constructor
    · intro all _ handed
      cases handed
      exact exactly.mp (all _ (same ▸ known c (.inl here)))
    · intro one e member
      rw [same] at member
      by_cases own : e = item c
      · subst own
        exact exactly.mpr (one others rfl)
      · refine (single_congr (fun d mine => ?_) ?_).mpr (settled e member)
        · rw [live]
          constructor
          · rintro (⟨old, -⟩ | new)
            · exact old
            · exact absurd (mine.symm.trans (copies d new)) own
          · intro old
            exact .inl ⟨old, fun equal => own (by rw [← mine, equal])⟩
        · rw [times, times, done]

end Custody

end ScreenSync.Foundation
