/-
**First match.**

A table of rules is asked in order and the first answer counts. Answers have a level, and the least
level stands for no answer at all.

* `firstLevel_eq_strictest` — if no rule answers above a rule ahead of it, the first answer is as
  strict as all answers together.
* `strictest_mono` — from one input to another the strictest level does not fall, if each answer is
  matched by one of at least its level.
-/

import Mathlib.Order.BoundedOrder.Lattice
import Mathlib.Tactic.Common

namespace ScreenSync.Foundation

variable {ι β L : Type*} [LinearOrder L] [OrderBot L]

/-- The level of the first answer. -/
def firstLevel (level : β → L) (rules : List (ι → Option β)) (x : ι) : L :=
  ((rules.findSome? fun rule => rule x).map level).getD ⊥

/-- The highest level of the answers of all rules. -/
def strictest (level : β → L) (rules : List (ι → Option β)) (x : ι) : L :=
  ((rules.filterMap fun rule => rule x).map level).foldr max ⊥

variable {level : β → L} {rules : List (ι → Option β)} {x y : ι}

theorem strictest_cons_none {rule : ι → Option β} (silent : rule x = none) :
    strictest level (rule :: rules) x = strictest level rules x := by
  have skipped : (rule :: rules).filterMap (fun rule => rule x) =
      rules.filterMap fun rule => rule x := List.filterMap_cons_none silent
  unfold strictest
  rw [skipped]

theorem strictest_cons_some {rule : ι → Option β} {answer : β} (answers : rule x = some answer) :
    strictest level (rule :: rules) x = max (level answer) (strictest level rules x) := by
  have first : (rule :: rules).filterMap (fun rule => rule x) =
      answer :: rules.filterMap fun rule => rule x := List.filterMap_cons_some answers
  unfold strictest
  rw [first]
  rfl

/-- Every answer is at most as strict as all of them. -/
theorem le_strictest {rule : ι → Option β} (member : rule ∈ rules) {answer : β}
    (answers : rule x = some answer) : level answer ≤ strictest level rules x := by
  induction rules with
  | nil => exact absurd member List.not_mem_nil
  | cons first rest ih =>
    rcases List.mem_cons.mp member with rfl | later
    · rw [strictest_cons_some answers]
      exact le_max_left _ _
    · cases here : first x with
      | none =>
        rw [strictest_cons_none here]
        exact ih later
      | some other =>
        rw [strictest_cons_some here]
        exact (ih later).trans (le_max_right _ _)

theorem strictest_le {bound : L}
    (below : ∀ rule ∈ rules, ∀ answer, rule x = some answer → level answer ≤ bound) :
    strictest level rules x ≤ bound := by
  induction rules with
  | nil => exact bot_le
  | cons first rest ih =>
    obtain ⟨head, tail⟩ := List.forall_mem_cons.mp below
    cases here : first x with
    | none =>
      rw [strictest_cons_none here]
      exact ih tail
    | some answer =>
      rw [strictest_cons_some here]
      exact max_le (head answer here) (ih tail)

/-- **The first answer is the strictest**, if the rules are ordered by their levels. -/
theorem firstLevel_eq_strictest (ordered : rules.Pairwise fun earlier later =>
      ∀ a b, earlier x = some a → later x = some b → level b ≤ level a) :
    firstLevel level rules x = strictest level rules x := by
  induction rules with
  | nil => rfl
  | cons first rest ih =>
    obtain ⟨head, tail⟩ := List.pairwise_cons.mp ordered
    cases here : first x with
    | none =>
      rw [strictest_cons_none here, ← ih tail, firstLevel, List.findSome?_cons, here]
      rfl
    | some answer =>
      have above : strictest level rest x ≤ level answer :=
        strictest_le fun rule member other answers => head rule member answer other here answers
      rw [strictest_cons_some here, max_eq_left above, firstLevel, List.findSome?_cons, here]
      rfl

/-- **Answers that are matched** by at least as strict ones. -/
theorem strictest_mono (matched : ∀ rule ∈ rules, ∀ answer, rule x = some answer →
      ∃ other ∈ rules, ∃ reply, other y = some reply ∧ level answer ≤ level reply) :
    strictest level rules x ≤ strictest level rules y := by
  refine strictest_le fun rule member answer answers => ?_
  obtain ⟨other, inside, reply, replies, atLeast⟩ := matched rule member answer answers
  exact atLeast.trans (le_strictest inside replies)

end ScreenSync.Foundation
