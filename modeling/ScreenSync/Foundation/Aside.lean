/-
**A table with a cache beside it.**

Readers look a key up in the cache and fill it from the table; writers write the table and delete
the key. A stale entry does no lasting harm while some writer is still due to delete it, so the
state between two steps is judged by `Settled`: every entry shows the table or is due for deletion.

* `Settled.forget` — deleting a key settles it, whoever was due to.
* `settled_fill_iff` — an entry may be filled exactly with what the table holds, or under a key that
  is due.
* `settled_write_iff` — the table may be written exactly where nothing is cached, or where the key
  is due, or where the write changes nothing.
-/

import Mathlib.Logic.Function.Basic
import Mathlib.Tactic.Common

namespace ScreenSync.Foundation

/-- What a reader finds under a key in the table, and what is cached under it. -/
structure Aside (κ ν : Type*) where
  table : κ → Option ν
  cache : κ → Option ν

namespace Aside

variable {κ ν : Type*}

/-- What is cached under the key is what the table holds. -/
def Shows (aside : Aside κ ν) (key : κ) : Prop :=
  ∀ value, aside.cache key = some value → aside.table key = some value

/-- Every key shows the table or is due for deletion. -/
def Settled (aside : Aside κ ν) (due : κ → Prop) : Prop := ∀ key, aside.Shows key ∨ due key

variable {aside : Aside κ ν} {due later : κ → Prop}

theorem Settled.mono (settled : aside.Settled due) (grows : ∀ key, due key → later key) :
    aside.Settled later :=
  fun key => (settled key).imp_right (grows key)

/-- Once nothing is due, every entry shows the table. -/
theorem Settled.shows (settled : aside.Settled due) (none : ∀ key, ¬ due key) (key : κ) :
    aside.Shows key :=
  (settled key).resolve_right (none key)

variable [DecidableEq κ]

/-- `DELETE key`. -/
def forget (aside : Aside κ ν) (key : κ) : Aside κ ν :=
  { aside with cache := Function.update aside.cache key none }

/-- `SET key value`. -/
def fill (aside : Aside κ ν) (key : κ) (value : ν) : Aside κ ν :=
  { aside with cache := Function.update aside.cache key (some value) }

theorem cache_forget (aside : Aside κ ν) (key other : κ) :
    (aside.forget key).cache other = if other = key then none else aside.cache other :=
  Function.update_apply ..

theorem cache_fill (aside : Aside κ ν) (key other : κ) (value : ν) :
    (aside.fill key value).cache other = if other = key then some value else aside.cache other :=
  Function.update_apply ..

/-- Whoever was due to delete the key need not be due any more. -/
theorem Settled.forget (settled : aside.Settled due) {key : κ}
    (others : ∀ other, other ≠ key → due other → later other) :
    (aside.forget key).Settled later := by
  intro other
  by_cases same : other = key
  · left
    intro value hit
    rw [cache_forget, if_pos same] at hit
    cases hit
  · refine (settled other).imp (fun shows value hit => ?_) (others other same)
    refine shows value ?_
    rwa [cache_forget, if_neg same] at hit

/-- **A cache fill** keeps the entries settled exactly if it fills in what the table holds, or the
key is due. -/
theorem settled_fill_iff (settled : aside.Settled due) (key : κ) (value : ν) :
    (aside.fill key value).Settled due ↔ aside.table key = some value ∨ due key := by
  constructor
  · intro filled
    refine (filled key).imp_left fun shows => ?_
    exact shows value ((cache_fill ..).trans (if_pos rfl))
  · intro current other
    by_cases same : other = key
    · subst same
      refine current.imp_left fun holds filled hit => ?_
      rw [cache_fill, if_pos rfl] at hit
      exact holds.trans hit
    · refine (settled other).imp_left fun shows filled hit => ?_
      refine shows filled ?_
      rwa [cache_fill, if_neg same] at hit

omit [DecidableEq κ] in
/-- **A write of the table** keeps the entries settled exactly if no key changes under an entry that
is not due. -/
theorem settled_write_iff (settled : aside.Settled due) (table : κ → Option ν) :
    ({ aside with table } : Aside κ ν).Settled due ↔
      ∀ key, due key ∨ aside.cache key = none ∨ table key = aside.table key := by
  refine forall_congr' fun key => ?_
  by_cases waits : due key
  · simp [waits]
  · have shown : aside.Shows key := (settled key).resolve_right waits
    simp only [waits, or_false, false_or]
    cases cached : aside.cache key with
    | none => simp [Shows, cached]
    | some value =>
      rw [shown value cached]
      simp [Shows, cached]

end Aside

end ScreenSync.Foundation
