/-
**Topic filters.**

A filter is a list of levels, some of them wildcards that stand for one level each. A topic that
matches says what every wildcard stands for, and a filter filled in with that is the topic.

* `captured` — the levels that the wildcards stand for.
* `filled` — a filter with its wildcards filled in.
* `captured_iff` — the two undo each other.
* `filled_exactly` — a filter without wildcards.
-/

import Mathlib.Data.List.Basic

namespace ScreenSync.Foundation

variable {α : Type*}

/-- A level of a filter. -/
inductive FilterLevel (α : Type*)
  | exactly (level : α)
  | any

/-- What the wildcards stand for, in order, if the topic matches the filter. -/
def captured [DecidableEq α] : List (FilterLevel α) → List α → Option (List α)
  | [], [] => some []
  | .exactly expected :: filter, level :: topic =>
    if level = expected then captured filter topic else none
  | .any :: filter, level :: topic => (captured filter topic).map (level :: ·)
  | _, _ => none

/-- The filter with its wildcards filled in, if there are as many. -/
def filled : List (FilterLevel α) → List α → Option (List α)
  | [], [] => some []
  | .exactly level :: filter, wildcards => (filled filter wildcards).map (level :: ·)
  | .any :: filter, level :: wildcards => (filled filter wildcards).map (level :: ·)
  | _, _ => none

/-- **Matching** is being the filter filled in. -/
theorem captured_iff [DecidableEq α] (filter : List (FilterLevel α)) (topic wildcards : List α) :
    captured filter topic = some wildcards ↔ filled filter wildcards = some topic := by
  induction filter generalizing topic wildcards with
  | nil => cases topic <;> cases wildcards <;> simp [captured, filled]
  | cons first filter ih =>
    cases first with
    | exactly expected =>
      cases topic with
      | nil => simp [captured, filled]
      | cons level topic =>
        show (if level = expected then captured filter topic else none) = some wildcards ↔
          (filled filter wildcards).map (expected :: ·) = some (level :: topic)
        by_cases same : level = expected
        · rw [if_pos same, ih, same]
          simp
        · rw [if_neg same]
          simp [Ne.symm same]
    | any =>
      cases topic with
      | nil => cases wildcards <;> simp [captured, filled]
      | cons level topic =>
        cases wildcards with
        | nil => simp [captured, filled]
        | cons wildcard wildcards =>
          show (captured filter topic).map (level :: ·) = some (wildcard :: wildcards) ↔
            (filled filter wildcards).map (wildcard :: ·) = some (level :: topic)
          simp only [Option.map_eq_some_iff, List.cons.injEq]
          constructor
          · rintro ⟨rest, found, rfl, rfl⟩
            exact ⟨topic, (ih topic rest).mp found, rfl, rfl⟩
          · rintro ⟨rest, found, rfl, rfl⟩
            exact ⟨wildcards, (ih rest wildcards).mpr found, rfl, rfl⟩

/-- A filter without wildcards is one topic. -/
theorem filled_exactly (levels topic wildcards : List α) :
    filled (levels.map .exactly) wildcards = some topic ↔ wildcards = [] ∧ topic = levels := by
  induction levels generalizing topic with
  | nil => cases wildcards <;> simp [filled, eq_comm]
  | cons level levels ih =>
    show (filled (levels.map .exactly) wildcards).map (level :: ·) = some topic ↔ _
    simp only [Option.map_eq_some_iff, ih]
    constructor
    · rintro ⟨rest, ⟨none, rfl⟩, rfl⟩
      exact ⟨none, rfl⟩
    · rintro ⟨none, rfl⟩
      exact ⟨levels, ⟨none, rfl⟩, rfl⟩

end ScreenSync.Foundation
