/-
**A lock from its acquisition to its release.**

The calls that are inside the section of a lock key, and those that have found their token in the
key and delete it next, are its tenants. As long as the key does not lapse under a tenant, every
tenant holds the key; tokens that differ then leave room for one tenant.

* `Held` — every tenant holds the key.
* `Held.step` — every step keeps that.
* `Held.lapse` — so does the end of the lease, while there is no tenant.
* `Held.single` — there is at most one tenant.
-/

import Mathlib.Data.Set.Subsingleton
import Mathlib.Tactic.Common

namespace ScreenSync.Foundation

/-- The key, and its tenants. -/
structure Tenure (ι τ : Type*) where
  key : Option τ
  tenants : Set ι

namespace Tenure

variable {ι τ : Type*} (token : ι → τ)

/-- What calls can do: one finds the key free and sets it, one finds its own token in it, some are
tenants no longer, or a tenant deletes the key and is one no longer. -/
inductive Step (s : Tenure ι τ) : Tenure ι τ → Prop
  | enter (i : ι) (free : s.key = none) : Step s ⟨some (token i), insert i s.tenants⟩
  | check (i : ι) (own : s.key = some (token i)) : Step s ⟨s.key, insert i s.tenants⟩
  | leave (still : Set ι) (fewer : still ⊆ s.tenants) : Step s ⟨s.key, still⟩
  | delete (i : ι) (due : i ∈ s.tenants) (still : Set ι) (fewer : still ⊆ s.tenants \ {i}) :
    Step s ⟨none, still⟩

/-- Every tenant holds the key. -/
def Held (s : Tenure ι τ) : Prop := ∀ i ∈ s.tenants, s.key = some (token i)

variable {token} {s next : Tenure ι τ}

/-- A free key has no tenants. -/
theorem Held.empty_of_free (held : Held token s) (free : s.key = none) (i : ι) :
    i ∉ s.tenants := by
  intro tenant
  have own := held i tenant
  rw [free] at own
  cases own

/-- **There is at most one tenant.** -/
theorem Held.single (held : Held token s) (distinct : Function.Injective token) :
    s.tenants.Subsingleton := by
  intro i first j second
  have same : some (token i) = some (token j) := (held i first).symm.trans (held j second)
  exact distinct (Option.some.inj same)

/-- **Every step keeps the key held.** -/
theorem Held.step (held : Held token s) (distinct : Function.Injective token)
    (step : Step token s next) : Held token next := by
  cases step with
  | enter i free =>
    intro j tenant
    rcases Set.mem_insert_iff.mp tenant with rfl | old
    · rfl
    · exact absurd old (held.empty_of_free free j)
  | check i own =>
    intro j tenant
    rcases Set.mem_insert_iff.mp tenant with rfl | old
    · exact own
    · exact held j old
  | leave still fewer => exact fun j tenant => held j (fewer tenant)
  | delete i due still fewer =>
    intro j tenant
    obtain ⟨old, apart⟩ := fewer tenant
    exact absurd (held.single distinct old due) apart

/-- A lease that ends without a tenant. -/
theorem Held.lapse (vacant : ∀ i, i ∉ s.tenants) : Held token ⟨none, s.tenants⟩ :=
  fun i tenant => absurd tenant (vacant i)

end Tenure

end ScreenSync.Foundation
