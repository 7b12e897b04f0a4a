/-
**A lock that is released by a check and a delete.**

Whoever set a lock key looks at it before it deletes it. The delete is a command of its own: once a
call has found its token in the key, it deletes the key, whatever the key holds by then.

* `Safe` — a delete that is due would take away no token but that of its own call.
* `Safe.step_iff` — a step keeps that exactly if it does not set the key while a delete is due.
* `Step.held` — where no delete is due, a key stays as it is until it lapses.
-/

import Mathlib.Data.Set.Insert
import Mathlib.Tactic.Common

namespace ScreenSync.Foundation

/-- The key, and the calls that have found their token in it and delete it next. -/
structure Release (ι τ : Type*) where
  key : Option τ
  deleting : Set ι

namespace Release

variable {ι τ : Type*} (token : ι → τ)

/-- What calls can do: one finds the key free and sets it, one finds its own token in it, some are
no longer about to delete it, or one of them deletes it. -/
inductive Step (s : Release ι τ) : Release ι τ → Prop
  | enter (i : ι) (free : s.key = none) (outside : i ∉ s.deleting) :
    Step s ⟨some (token i), s.deleting⟩
  | check (i : ι) (own : s.key = some (token i)) : Step s ⟨s.key, insert i s.deleting⟩
  | leave (still : Set ι) (fewer : still ⊆ s.deleting) : Step s ⟨s.key, still⟩
  | delete (i : ι) (due : i ∈ s.deleting) (still : Set ι) (fewer : still ⊆ s.deleting) :
    Step s ⟨none, still⟩

/-- The key goes away by itself. -/
def lapse (s : Release ι τ) : Release ι τ := ⟨none, s.deleting⟩

/-- No delete that is due takes away the token of another call. -/
def Safe (s : Release ι τ) : Prop := ∀ i ∈ s.deleting, ∀ held, s.key = some held → held = token i

/-- The key is set while a delete is due. -/
def Intrudes (s next : Release ι τ) : Prop :=
  s.key = none ∧ next.key ≠ none ∧ s.deleting.Nonempty

variable {token} {s next : Release ι τ}

/-- Without a key, every delete is safe. -/
theorem safe_of_free (free : s.key = none) : Safe token s := by
  intro i due held found
  rw [free] at found
  cases found

/-- **A step keeps every delete safe** exactly if it does not set the key while one is due. -/
theorem Safe.step_iff (distinct : Function.Injective token) (safe : Safe token s)
    (step : Step token s next) : Safe token next ↔ ¬ Intrudes s next := by
  cases step with
  | enter i free outside =>
    constructor
    · rintro kept ⟨-, -, j, due⟩
      have same : token i = token j := kept j due _ rfl
      exact outside (distinct same ▸ due)
    · intro alone j due
      exact absurd ⟨free, Option.some_ne_none _, j, due⟩ alone
  | check i own =>
    refine iff_of_true ?_ fun intrudes => ?_
    · intro j due held found
      rcases Set.mem_insert_iff.mp due with rfl | before
      · exact Option.some.inj (found.symm.trans own)
      · exact safe j before held found
    · rw [intrudes.1] at own
      cases own
  | leave still fewer =>
    refine iff_of_true ?_ fun intrudes => intrudes.2.1 intrudes.1
    intro j due held found
    exact safe j (fewer due) held found
  | delete i due still fewer =>
    exact iff_of_true (safe_of_free rfl) fun intrudes => intrudes.2.1 rfl

/-- **Where no delete is due, a key that is set stays.** -/
theorem Step.held (step : Step token s next) (nobody : s.deleting = ∅) {held : τ}
    (found : s.key = some held) : next.key = some held := by
  cases step with
  | enter i free outside =>
    rw [free] at found
    cases found
  | check i own => exact found
  | leave still fewer => exact found
  | delete i due still fewer =>
    rw [nobody] at due
    exact due.elim

end Release

end ScreenSync.Foundation
