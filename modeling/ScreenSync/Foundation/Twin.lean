/-
**Two runs of sessions, side by side.**

`Session.Twin pre m n post raised` relates a run of `m` and one of `n` from two states with `pre`:
both answer, with `post`, or both raise, with `raised`. It is to two runs what `Session.Triple` is
to one.

* `Twin.of_pure`, `Twin.of_throw`, `Twin.of_modify`, `Twin.get_bind`, `Twin.bind` — one rule for
  each way to build a session.
* `Twin.mono` — the consequence rule.
-/

import ScreenSync.Foundation.Session

namespace ScreenSync.Foundation

namespace Session

variable {ε σ α α' β β' : Type}

/-- From two states with `pre`, both sessions answer, with `post`, or both raise, with `raised`. -/
def Twin (pre : σ → σ → Prop) (m : Session ε σ α) (n : Session ε σ α')
    (post : α → α' → σ → σ → Prop) (raised : ε → ε → σ → σ → Prop) : Prop :=
  ∀ s t, pre s t →
    match m.exec s, n.exec t with
    | (.ok a, s'), (.ok b, t') => post a b s' t'
    | (.error e, s'), (.error f, t') => raised e f s' t'
    | _, _ => False

namespace Twin

variable {pre : σ → σ → Prop} {post : α → α' → σ → σ → Prop} {raised : ε → ε → σ → σ → Prop}

theorem of_pure {a : α} {b : α'} (holds : ∀ s t, pre s t → post a b s t) :
    Twin pre (pure a : Session ε σ α) (pure b : Session ε σ α') post raised :=
  holds

theorem of_throw {e f : ε} (holds : ∀ s t, pre s t → raised e f s t) :
    Twin pre (throw e : Session ε σ α) (throw f : Session ε σ α') post raised :=
  holds

theorem of_modify {f g : σ → σ} {post : PUnit → PUnit → σ → σ → Prop}
    (holds : ∀ s t, pre s t → post ⟨⟩ ⟨⟩ (f s) (g t)) :
    Twin pre (modify f : Session ε σ PUnit) (modify g : Session ε σ PUnit) post raised :=
  holds

/-- **Sequencing.** -/
theorem bind {m : Session ε σ α} {n : Session ε σ α'} {f : α → Session ε σ β}
    {g : α' → Session ε σ β'} {middle : α → α' → σ → σ → Prop} {after : β → β' → σ → σ → Prop}
    (first : Twin pre m n middle raised)
    (rest : ∀ a b, Twin (middle a b) (f a) (g b) after raised) :
    Twin pre (m >>= f) (n >>= g) after raised := by
  intro s t holds
  have between := first s t holds
  rw [exec_bind, exec_bind]
  generalize m.exec s = left at between ⊢
  generalize n.exec t = right at between ⊢
  obtain ⟨a | a, s'⟩ := left <;> obtain ⟨b | b, t'⟩ := right
  · exact between
  · exact between.elim
  · exact between.elim
  · exact rest a b s' t' between

/-- Two sessions that start by reading the states. -/
theorem get_bind {f : σ → Session ε σ α} {g : σ → Session ε σ α'}
    (rest : ∀ s t, pre s t → Twin (fun s' t' => s' = s ∧ t' = t) (f s) (g t) post raised) :
    Twin pre (get >>= f) (get >>= g) post raised :=
  fun s t holds => rest s t holds s t ⟨rfl, rfl⟩

/-- **Consequence.** -/
theorem mono {pre' : σ → σ → Prop} {post' : α → α' → σ → σ → Prop}
    {raised' : ε → ε → σ → σ → Prop} {m : Session ε σ α} {n : Session ε σ α'}
    (twin : Twin pre m n post raised) (before : ∀ s t, pre' s t → pre s t)
    (after : ∀ a b s t, post a b s t → post' a b s t)
    (failed : ∀ e f s t, raised e f s t → raised' e f s t) : Twin pre' m n post' raised' := by
  intro s t holds
  have outcome := twin s t (before s t holds)
  generalize m.exec s = left at outcome ⊢
  generalize n.exec t = right at outcome ⊢
  obtain ⟨a | a, s'⟩ := left <;> obtain ⟨b | b, t'⟩ := right
  · exact failed a b s' t' outcome
  · exact outcome
  · exact outcome
  · exact after a b s' t' outcome

end Twin

end Session

end ScreenSync.Foundation
