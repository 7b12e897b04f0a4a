/-
**A lock with a lease.**

A lock key holds the token of the call that set it, and the calls that set it are inside the section
it guards. The key may go away by itself, or be deleted, while its owner is still inside: nothing
fences the section.

* `Exclusive` — whoever is inside holds the key, and is the only one.
* `Exclusive.step` — every step keeps it, unless the key is taken from a call that is inside.
-/

import Mathlib.Data.Set.Subsingleton

namespace ScreenSync.Foundation

/-- The key, and the calls inside the section. -/
structure Lease (ι τ : Type*) where
  key : Option τ
  inside : Set ι

namespace Lease

variable {ι τ : Type*} (token : ι → τ)

/-- What can happen: a call finds the key free and enters, some calls leave, or the key goes away.
-/
inductive Step (s : Lease ι τ) : Lease ι τ → Prop
  | enter (i : ι) (free : s.key = none) : Step s ⟨some (token i), insert i s.inside⟩
  | leave (still : Set ι) (fewer : still ⊆ s.inside) : Step s ⟨s.key, still⟩
  | drop : Step s ⟨none, s.inside⟩

/-- Whoever is inside holds the key, and is the only one. -/
structure Exclusive (s : Lease ι τ) : Prop where
  holds : ∀ i ∈ s.inside, s.key = some (token i)
  single : s.inside.Subsingleton

/-- The key is taken away from a call that is inside and holds it. -/
def Taken (s next : Lease ι τ) : Prop :=
  next.key = none ∧ ∃ i ∈ s.inside, s.key = some (token i)

variable {token}

/-- Nobody is inside while the key is free. -/
theorem Exclusive.empty_of_free {s : Lease ι τ} (exclusive : Exclusive token s)
    (free : s.key = none) (i : ι) : i ∉ s.inside := by
  intro inside
  have held := exclusive.holds i inside
  rw [free] at held
  cases held

/-- **A step keeps the section exclusive**, unless it takes the key from a call that is inside. -/
theorem Exclusive.step {s next : Lease ι τ} (exclusive : Exclusive token s)
    (step : Step token s next) (kept : ¬ Taken token s next) : Exclusive token next := by
  cases step with
  | enter i free =>
    have only : ∀ j ∈ insert i s.inside, j = i := by
      intro j member
      exact (Set.mem_insert_iff.mp member).resolve_right (exclusive.empty_of_free free j)
    constructor
    · intro j member
      rw [only j member]
    · intro j first k second
      rw [only j first, only k second]
  | leave still fewer =>
    constructor
    · intro i member
      exact exclusive.holds i (fewer member)
    · exact exclusive.single.anti fewer
  | drop =>
    have nobody : ∀ i, i ∉ s.inside := by
      intro i inside
      exact kept ⟨rfl, i, inside, exclusive.holds i inside⟩
    constructor
    · intro i inside
      exact absurd inside (nobody i)
    · intro i inside
      exact absurd inside (nobody i)

end Lease

end ScreenSync.Foundation
