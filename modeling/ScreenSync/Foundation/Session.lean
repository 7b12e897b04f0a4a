/-
**Sessions: programs over a state that may raise.**

A session keeps what it has done to the state when it raises; whoever runs it decides what is rolled
back. `Session.Triple pre m post raised` is the usual reading of pre- and postconditions: from a
state with `pre`, an answer comes with `post` and an error with `raised`.

* `Triple.of_pure`, `Triple.of_throw`, `Triple.of_modify`, `Triple.bind` — one rule for each way to
  build a session.
* `Triple.get_bind` — the rule for a read of a state that is known.
* `Triple.mono` — the consequence rule.
-/

import Mathlib.Tactic.Common

namespace ScreenSync.Foundation

/-- A program over a state that answers or raises. -/
abbrev Session (ε σ α : Type) := ExceptT ε (StateM σ) α

namespace Session

variable {ε σ α β : Type}

/-- What the session answers or raises, and the state it leaves behind. -/
def exec (m : Session ε σ α) (s : σ) : Except ε α × σ := m.run.run s

@[simp] theorem exec_pure (a : α) (s : σ) : (pure a : Session ε σ α).exec s = (.ok a, s) := rfl

@[simp] theorem exec_throw (e : ε) (s : σ) :
    (throw e : Session ε σ α).exec s = (.error e, s) := rfl

@[simp] theorem exec_get (s : σ) : (get : Session ε σ σ).exec s = (.ok s, s) := rfl

@[simp] theorem exec_modify (f : σ → σ) (s : σ) :
    (modify f : Session ε σ PUnit).exec s = (.ok ⟨⟩, f s) := rfl

theorem exec_bind (m : Session ε σ α) (f : α → Session ε σ β) (s : σ) :
    (m >>= f).exec s =
      match m.exec s with
      | (.ok a, t) => (f a).exec t
      | (.error e, t) => (.error e, t) := by
  show (ExceptT.bindCont (fun a => f a) (m.exec s).1 (m.exec s).2 : Except ε β × σ) = _
  obtain ⟨answer, t⟩ := m.exec s
  cases answer <;> rfl

/-- From a state with `pre`, the session answers with `post` or raises with `raised`. -/
def Triple (pre : σ → Prop) (m : Session ε σ α) (post : α → σ → Prop) (raised : σ → Prop) : Prop :=
  ∀ s, pre s →
    match m.exec s with
    | (.ok a, t) => post a t
    | (.error _, t) => raised t

namespace Triple

variable {pre raised : σ → Prop} {post : α → σ → Prop}

theorem of_pure {a : α} (holds : ∀ s, pre s → post a s) :
    Triple pre (pure a : Session ε σ α) post raised :=
  holds

theorem of_throw {e : ε} (holds : ∀ s, pre s → raised s) :
    Triple pre (throw e : Session ε σ α) post raised :=
  holds

theorem of_modify {f : σ → σ} {post : PUnit → σ → Prop} (holds : ∀ s, pre s → post ⟨⟩ (f s)) :
    Triple pre (modify f : Session ε σ PUnit) post raised :=
  holds

/-- **Sequencing**: what the first session establishes is what the second one starts from. -/
theorem bind {m : Session ε σ α} {f : α → Session ε σ β} {middle : α → σ → Prop}
    {after : β → σ → Prop} (first : Triple pre m middle raised)
    (rest : ∀ a, Triple (middle a) (f a) after raised) :
    Triple pre (m >>= f) after raised := by
  intro s holds
  rw [exec_bind]
  have between := first s holds
  split at between
  · rename_i a t _
    exact rest a t between
  · exact between

/-- A session that starts by reading a state that is known. -/
theorem get_bind {s : σ} {f : σ → Session ε σ α}
    (rest : Triple (fun now => now = s) (f s) post raised) :
    Triple (fun now => now = s) (get >>= f) post raised := by
  rintro now rfl
  exact rest now rfl

/-- **Consequence.** -/
theorem mono {pre' raised' : σ → Prop} {post' : α → σ → Prop} {m : Session ε σ α}
    (triple : Triple pre m post raised) (before : ∀ s, pre' s → pre s)
    (after : ∀ a s, post a s → post' a s) (failed : ∀ s, raised s → raised' s) :
    Triple pre' m post' raised' := by
  intro s holds
  have outcome := triple s (before s holds)
  split at outcome
  · exact after _ _ outcome
  · exact failed _ outcome

end Triple

end Session

end ScreenSync.Foundation
