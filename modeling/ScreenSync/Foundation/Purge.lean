/-
**What the operations of others can be told from.**

A machine answers its operations, and some of them concern an observer, who looks at a part of the
state. If the operations that do not concern the observer leave that part alone, and those that do
are answered and carried out by that part alone, then the others' operations may as well be left out
of the run: the observer sees the same and hears the same.

* `heard` — the answers to the operations that concern the observer.
* `drawn_apart` — of what the operations draw, no two draw the same.
* `run_purge` — the two conditions, on one step each, carry over to whole runs. What every operation
  needs that is still to come is a condition `fits` on the state and the operations that are left.
-/

import ScreenSync.Foundation.Run

namespace ScreenSync.Foundation

variable {σ α ο ν : Type*}

/-! ### What the operations draw -/

section Draws

variable {κ : Type*} {draw : α → Option κ} {op : α} {ops : List α}

theorem mem_drawn_head {k : κ} (drawn : k ∈ draw op) : k ∈ (op :: ops).filterMap draw := by
  rw [List.filterMap_cons_some drawn]
  exact List.mem_cons_self

/-- The first operation does not draw what a later one does. -/
theorem drawn_apart (distinct : ((op :: ops).filterMap draw).Nodup) :
    ∀ k ∈ draw op, k ∉ ops.filterMap draw := by
  intro k drawn
  rw [List.filterMap_cons_some drawn] at distinct
  exact (List.nodup_cons.mp distinct).1

theorem drawn_tail (draw : α → Option κ) (op : α) (ops : List α) :
    (ops.filterMap draw).Sublist ((op :: ops).filterMap draw) :=
  (List.sublist_cons_self op ops).filterMap draw

end Draws

/-! ### Runs with operations left out -/

variable (step : σ → α → σ) (answer : σ → α → ο) (concerns : α → Bool)

/-- The answers to the operations that concern the observer. -/
def heard (s : σ) : List α → List ο
  | [] => []
  | op :: ops =>
    if concerns op then answer s op :: heard (step s op) ops else heard (step s op) ops

/-- **The operations of others may be left out.** -/
theorem run_purge {view : σ → ν} {fits : σ → List α → Prop}
    (later : ∀ s op ops, fits s (op :: ops) → fits (step s op) ops)
    (skipped : ∀ s op ops, fits s (op :: ops) → fits s ops)
    (stays : ∀ s op ops, fits s (op :: ops) → concerns op = false → view (step s op) = view s)
    (follows : ∀ s t op ops, fits s (op :: ops) → fits t (op :: ops) → concerns op = true →
      view s = view t → answer s op = answer t op ∧ view (step s op) = view (step t op))
    {s t : σ} {ops : List α} (fit : fits s ops) (fit' : fits t ops) (same : view s = view t) :
    view (run step s ops) = view (run step t (ops.filter concerns)) ∧
      heard step answer concerns s ops = heard step answer concerns t (ops.filter concerns) := by
  induction ops generalizing s t with
  | nil => exact ⟨same, rfl⟩
  | cons op ops ih =>
    cases own : concerns op with
    | true =>
      obtain ⟨answers, views⟩ := follows s t op ops fit fit' own same
      obtain ⟨states, rest⟩ := ih (later s op ops fit) (later t op ops fit') views
      rw [List.filter_cons_of_pos own]
      refine ⟨states, ?_⟩
      simp only [heard, own, if_true]
      rw [answers, rest]
    | false =>
      have views := (stays s op ops fit own).trans same
      obtain ⟨states, rest⟩ := ih (later s op ops fit) (skipped t op ops fit') views
      rw [List.filter_cons_of_neg (Bool.eq_false_iff.mp own)]
      refine ⟨states, ?_⟩
      simp only [heard, own, Bool.false_eq_true, if_false]
      exact rest

end ScreenSync.Foundation
