/-
**Tables of rows with a unique key.**

A `Table key` is a list of rows no two of which share a key; the order of the list is the order in
which a query without `ORDER BY` happens to return the rows. `find` looks a row up, `update`
rewrites every row without touching its key (`updateWhere` is `UPDATE … WHERE`), `insert` appends
a row whose key is free, `deleteWhere` is `DELETE … WHERE`.

* `find_eq_some` — what `find` returns is the row with that key.
* `find_update`, `find_updateWhere`, `find_insert`, `find_deleteWhere` — the lookups after a write.
* `rows_updateWhere_key` — an update by key replaces one row where it stands.
* `foldl_assign` — a loop of updates, each by the key of its own row, is one rewrite of the table,
  by `assign`.
-/

import Mathlib.Data.List.Nodup

namespace ScreenSync.Foundation

/-- Rows with pairwise different keys. -/
structure Table {ρ κ : Type*} (key : ρ → κ) where
  rows : List ρ
  unique : (rows.map key).Nodup

namespace Table

variable {ρ κ : Type*} {key : ρ → κ}

/-- The table without rows. -/
def empty : Table key := ⟨[], List.nodup_nil⟩

/-- Two rows of a table with the same key are the same row. -/
theorem eq_of_key_eq (t : Table key) {first second : ρ} (inFirst : first ∈ t.rows)
    (inSecond : second ∈ t.rows) (same : key first = key second) : first = second :=
  List.inj_on_of_nodup_map t.unique inFirst inSecond same

/-- Rewrite every row, keeping its key. -/
def update (t : Table key) (f : ρ → ρ) (keeps : ∀ row, key (f row) = key row) : Table key where
  rows := t.rows.map f
  unique := by
    have same : key ∘ f = key := funext keeps
    rw [List.map_map, same]
    exact t.unique

/-- `UPDATE … SET … WHERE …`. -/
def updateWhere (t : Table key) (condition : ρ → Prop) [DecidablePred condition] (set : ρ → ρ)
    (keeps : ∀ row, key (set row) = key row) : Table key :=
  t.update (fun row => if condition row then set row else row) fun row => by
    split
    · exact keeps row
    · rfl

variable [DecidableEq κ]

/-- The row with the given key. -/
def find (t : Table key) (k : κ) : Option ρ := t.rows.find? fun row => key row = k

/-- **A lookup returns the row with that key.** -/
theorem find_eq_some {t : Table key} {k : κ} {row : ρ} :
    t.find k = some row ↔ row ∈ t.rows ∧ key row = k := by
  constructor
  · intro found
    exact ⟨List.mem_of_find?_eq_some found, by simpa using List.find?_some found⟩
  · rintro ⟨member, rfl⟩
    cases found : t.find (key row) with
    | none => exact absurd (List.find?_eq_none.mp found row member) (by simp)
    | some other =>
      have same : key other = key row := by simpa using List.find?_some found
      rw [t.eq_of_key_eq (List.mem_of_find?_eq_some found) member same]

theorem find_eq_none {t : Table key} {k : κ} : t.find k = none ↔ ∀ row ∈ t.rows, key row ≠ k := by
  simp [find, List.find?_eq_none]

theorem find_key {t : Table key} {row : ρ} (member : row ∈ t.rows) :
    t.find (key row) = some row :=
  find_eq_some.mpr ⟨member, rfl⟩

/-- The lookups after every row has been rewritten. -/
theorem find_of_rows_map {t written : Table key} {f : ρ → ρ}
    (rows : written.rows = t.rows.map f) (keeps : ∀ row, key (f row) = key row) (k : κ) :
    written.find k = (t.find k).map f := by
  rw [find, rows, List.find?_map]
  simp only [Function.comp_def, keeps]
  rfl

theorem find_update (t : Table key) (f : ρ → ρ) (keeps : ∀ row, key (f row) = key row) (k : κ) :
    (t.update f keeps).find k = (t.find k).map f :=
  find_of_rows_map rfl keeps k

theorem find_updateWhere (t : Table key) (condition : ρ → Prop) [DecidablePred condition]
    (set : ρ → ρ) (keeps : ∀ row, key (set row) = key row) (k : κ) :
    (t.updateWhere condition set keeps).find k =
      (t.find k).map fun row => if condition row then set row else row :=
  find_update t _ _ k

/-- **An update by key** replaces the row with that key where it stands. -/
theorem rows_updateWhere_key {t : Table key} {k : κ} {row : ρ} (found : t.find k = some row)
    (set : ρ → ρ) (keeps : ∀ row, key (set row) = key row) :
    ∃ before after, t.rows = before ++ row :: after ∧
      (t.updateWhere (fun r => key r = k) set keeps).rows = before ++ set row :: after := by
  obtain ⟨member, rfl⟩ := find_eq_some.mp found
  obtain ⟨before, after, split⟩ := List.append_of_mem member
  have distinct := t.unique
  rw [split, List.map_append, List.map_cons, List.nodup_middle, ← List.map_append] at distinct
  have others : ∀ other ∈ before ++ after, key other ≠ key row := fun other inside same =>
    (List.nodup_cons.mp distinct).1 (same ▸ List.mem_map_of_mem inside)
  refine ⟨before, after, split, ?_⟩
  have same : ∀ part : List ρ, (∀ other ∈ part, key other ≠ key row) →
      part.map (fun r => if key r = key row then set r else r) = part := fun part apart => by
    rw [List.map_congr_left fun other inside => if_neg (apart other inside), List.map_id']
  show t.rows.map (fun r => if key r = key row then set r else r) = _
  rw [split, List.map_append, List.map_cons, if_pos rfl,
    same before fun other inside => others other (List.mem_append_left _ inside),
    same after fun other inside => others other (List.mem_append_right _ inside)]

/-- Append a row whose key is free. -/
def insert (t : Table key) (row : ρ) (fresh : t.find (key row) = none) : Table key where
  rows := t.rows ++ [row]
  unique := by
    rw [List.map_append, List.nodup_append]
    refine ⟨t.unique, List.nodup_singleton _, ?_⟩
    rintro k member other single rfl
    obtain ⟨old, inside, rfl⟩ := List.mem_map.mp member
    rw [List.map_singleton, List.mem_singleton] at single
    exact find_eq_none.mp fresh old inside single

/-- `DELETE … WHERE …`. -/
def deleteWhere (t : Table key) (condition : ρ → Prop) [DecidablePred condition] : Table key where
  rows := t.rows.filter fun row => ¬ condition row
  unique := t.unique.sublist (List.filter_sublist.map key)

theorem find_insert {t : Table key} {row : ρ} (fresh : t.find (key row) = none) (k : κ) :
    (t.insert row fresh).find k = if key row = k then some row else t.find k := by
  rw [find, insert, List.find?_append, ← find]
  by_cases own : key row = k
  · rw [if_pos own, ← own, fresh]
    simp
  · rw [if_neg own]
    simp [own]

theorem find_deleteWhere (t : Table key) (condition : ρ → Prop) [DecidablePred condition] (k : κ) :
    (t.deleteWhere condition).find k = (t.find k).filter fun row => ¬ condition row := by
  cases found : t.find k with
  | none =>
    refine find_eq_none.mpr fun row member => ?_
    exact find_eq_none.mp found row (List.mem_of_mem_filter member)
  | some row =>
    obtain ⟨member, here⟩ := find_eq_some.mp found
    by_cases gone : condition row
    · rw [Option.filter_some_neg (by simp [gone])]
      refine find_eq_none.mpr fun other inside same => ?_
      obtain ⟨stored, stays⟩ := List.mem_filter.mp inside
      rw [t.eq_of_key_eq stored member (same.trans here.symm)] at stays
      simp [gone] at stays
    · rw [Option.filter_some_pos (by simp [gone])]
      exact find_eq_some.mpr ⟨List.mem_filter.mpr ⟨member, by simp [gone]⟩, here⟩

end Table

/-! ### A loop of updates by key -/

section Assign

variable {ρ ι π : Type*} [DecidableEq ι] (name : ρ → ι) (target : π → ι) (set : π → ρ → ρ)

/-- The row after the item that aims at it has rewritten it. -/
def assign (items : List π) (row : ρ) : ρ :=
  match items.find? fun item => target item = name row with
  | some item => set item row
  | none => row

variable {name target set}

/-- A row some item aims at is rewritten by that item. -/
theorem assign_of_mem {items : List π} (distinct : (items.map target).Nodup) {item : π}
    (member : item ∈ items) {row : ρ} (aimed : target item = name row) :
    assign name target set items row = set item row := by
  unfold assign
  cases found : items.find? fun item => target item = name row with
  | none => exact absurd (List.find?_eq_none.mp found item member) (by simp [aimed])
  | some other =>
    have same : target other = target item := by
      rw [aimed]
      simpa using List.find?_some found
    rw [List.inj_on_of_nodup_map distinct (List.mem_of_find?_eq_some found) member same]

/-- A row no item aims at is left alone. -/
theorem assign_of_forall_ne {items : List π} {row : ρ}
    (missed : ∀ item ∈ items, target item ≠ name row) :
    assign name target set items row = row := by
  unfold assign
  rw [List.find?_eq_none.mpr fun item member => by simp [missed item member]]

/-- Which item rewrites a row does not depend on the order of the items. -/
theorem assign_perm {items reordered : List π} (distinct : (items.map target).Nodup)
    (same : reordered.Perm items) (row : ρ) :
    assign name target set reordered row = assign name target set items row := by
  have distinct' : (reordered.map target).Nodup := (same.map target).nodup_iff.mpr distinct
  by_cases missed : ∀ item ∈ items, target item ≠ name row
  · rw [assign_of_forall_ne missed,
      assign_of_forall_ne fun item member => missed item (same.mem_iff.mp member)]
  · push Not at missed
    obtain ⟨item, member, aimed⟩ := missed
    rw [assign_of_mem distinct member aimed,
      assign_of_mem distinct' (same.mem_iff.mpr member) aimed]

/-- **A loop of updates, each by the key of its own row, is one rewrite.** The loop keeps the names
and no two of its items aim at the same row, so every row is rewritten by the one item that aims at
it, or left alone. -/
theorem foldl_assign (keeps : ∀ item row, name (set item row) = name row) (items : List π)
    (distinct : (items.map target).Nodup) (rows : List ρ) :
    items.foldl (fun rows item => rows.map fun row =>
        if name row = target item then set item row else row) rows =
      rows.map (assign name target set items) := by
  induction items generalizing rows with
  | nil => exact (List.map_id' rows).symm
  | cons item later ih =>
    obtain ⟨notLater, tailDistinct⟩ := List.nodup_cons.mp distinct
    rw [List.foldl_cons, ih tailDistinct, List.map_map]
    refine List.map_congr_left fun row _ => ?_
    by_cases hit : name row = target item
    · -- the item rewrites the row, and no later item aims at it
      rw [Function.comp_apply, if_pos hit, assign_of_mem distinct List.mem_cons_self hit.symm]
      refine assign_of_forall_ne fun other member aimed => notLater ?_
      rw [← hit, ← keeps item row, ← aimed]
      exact List.mem_map_of_mem member
    · have other : ¬ target item = name row := fun same => hit same.symm
      rw [Function.comp_apply, if_neg hit, assign, assign, List.find?_cons, decide_eq_false other]

end Assign

end ScreenSync.Foundation
