/-
**JSON values and dictionaries.**

A dictionary is the list of its entries in the order of their insertion. `Dict.get` reads the first
entry of a key; `Dict.set` overwrites it where it stands, or appends a new one.

* `get_set` — what a write does to every later read.
* `set_set`, `set_comm` — a write undoes an earlier one of the same key, and moves past a write of
  another key once its own key is there. Together: writing the same keys again leaves no trace of
  what was written before.
* `perm_of_get_eq` — dictionaries with the same lookups differ in the order of their entries alone,
  and not at all if they list their keys in the same order (`eq_of_perm_of_keys`).
* `Dict.sorted` — the entries in the order of their keys; sorting loses nothing but the order they
  were in (`sorted_eq_iff`).
-/

import Mathlib.Data.List.Sort
import Mathlib.Data.Rat.Defs

namespace ScreenSync.Foundation

/-- A dictionary, its entries in the order of insertion. -/
abbrev Dict (α : Type*) := List (String × α)

/-- A JSON value. -/
inductive Json
  | null
  | bool (value : Bool)
  | int (value : Int)
  | float (value : ℚ)
  | str (text : String)
  | arr (items : List Json)
  | obj (entries : List (String × Json))

/-- The truth value of a decoded JSON value. -/
def Json.truthy : Json → Bool
  | .null => false
  | .bool value => value
  | .int value => value ≠ 0
  | .float value => value ≠ 0
  | .str text => text ≠ ""
  | .arr items => !items.isEmpty
  | .obj entries => !entries.isEmpty

namespace Dict

variable {α : Type*}

/-- The value of a key. -/
def get (d : Dict α) (key : String) : Option α := d.lookup key

theorem mem_of_get {d : Dict α} {key : String} {value : α} (found : d.get key = some value) :
    (key, value) ∈ d := by
  obtain ⟨before, after, split, -⟩ := List.lookup_eq_some_iff.mp found
  rw [split]
  exact List.mem_append_right _ List.mem_cons_self

/-- Write a key: in place if it is there, else as the last entry. -/
def set : Dict α → String → α → Dict α
  | [], key, value => [(key, value)]
  | (name, old) :: rest, key, value =>
    if name = key then (key, value) :: rest else (name, old) :: set rest key value

theorem get_cons (name : String) (value : α) (rest : Dict α) (key : String) :
    get ((name, value) :: rest) key = if key = name then some value else rest.get key := by
  rw [get, List.lookup_cons]
  by_cases same : key = name
  · rw [if_pos same, same, beq_self_eq_true]
  · rw [if_neg same, beq_false_of_ne same]
    rfl

theorem get_set (d : Dict α) (key name : String) (value : α) :
    (d.set key value).get name = if name = key then some value else d.get name := by
  induction d with
  | nil => rw [set, get_cons]
  | cons entry rest ih =>
    obtain ⟨first, old⟩ := entry
    rw [set]
    by_cases here : first = key
    · rw [if_pos here, get_cons, get_cons, here]
      split <;> rfl
    · rw [if_neg here, get_cons, get_cons, ih]
      by_cases same : name = first
      · rw [if_pos same, if_neg (same ▸ here), if_pos same]
      · rw [if_neg same, if_neg same]

@[simp] theorem get_set_self (d : Dict α) (key : String) (value : α) :
    (d.set key value).get key = some value := by
  rw [get_set, if_pos rfl]

theorem get_set_of_ne (d : Dict α) {key name : String} (value : α) (other : name ≠ key) :
    (d.set key value).get name = d.get name := by
  rw [get_set, if_neg other]

theorem set_ne_nil (d : Dict α) (key : String) (value : α) : d.set key value ≠ [] := by
  intro empty
  have found := get_set_self d key value
  rw [empty] at found
  cases found

/-- The later of two writes of a key is the one that counts. -/
theorem set_set (d : Dict α) (key : String) (first second : α) :
    (d.set key first).set key second = d.set key second := by
  induction d with
  | nil => simp [set]
  | cons entry rest ih =>
    obtain ⟨name, old⟩ := entry
    by_cases here : name = key
    · simp [set, here]
    · simp [set, here, ih]

/-- A write of a key that is there moves past a write of another key. -/
theorem set_comm (d : Dict α) {key other : String} (differ : other ≠ key) (value written : α)
    (present : (d.get key).isSome) :
    (d.set other written).set key value = (d.set key value).set other written := by
  induction d with
  | nil => simp [get] at present
  | cons entry rest ih =>
    obtain ⟨name, old⟩ := entry
    by_cases here : name = key
    · have apart : name ≠ other := fun same => differ (same.symm.trans here)
      subst here
      simp [set, apart]
    · have later : (get rest key).isSome := by
        rw [get_cons, if_neg (Ne.symm here)] at present
        exact present
      by_cases there : name = other
      · subst there
        simp [set, here]
      · simp [set, here, there, ih later]

/-- The keys after a write: a new one comes last. -/
theorem keys_set (d : Dict α) (key : String) (value : α) :
    (d.set key value).map Prod.fst =
      if key ∈ d.map Prod.fst then d.map Prod.fst else d.map Prod.fst ++ [key] := by
  induction d with
  | nil => rfl
  | cons entry rest ih =>
    obtain ⟨name, old⟩ := entry
    rw [set]
    by_cases here : name = key
    · simp [here]
    · have apart : key ≠ name := Ne.symm here
      simp only [if_neg here, List.map_cons, ih, List.mem_cons, apart, false_or]
      split <;> rfl

theorem mem_keys_set {d : Dict α} {key name : String} {value : α} :
    name ∈ (d.set key value).map Prod.fst ↔ name ∈ d.map Prod.fst ∨ name = key := by
  rw [keys_set]
  split
  · rename_i there
    refine (or_iff_left_of_imp ?_).symm
    rintro rfl
    exact there
  · rw [List.mem_append, List.mem_singleton]

/-- The keys after a loop of writes. -/
theorem mem_keys_foldl_set {β : Type*} (key : β → String) (value : β → α) {items : List β}
    {d : Dict α} {name : String} :
    name ∈ (items.foldl (fun d item => d.set (key item) (value item)) d).map Prod.fst ↔
      name ∈ d.map Prod.fst ∨ ∃ item ∈ items, key item = name := by
  induction items generalizing d with
  | nil => simp
  | cons item later ih =>
    rw [List.foldl_cons, ih, mem_keys_set, or_assoc, List.exists_mem_cons_iff, @eq_comm _ name]

/-- A write outside of a part of the keys leaves that part. -/
theorem filter_set_of_not {p : String → Bool} {key : String} (outside : p key = false)
    (d : Dict α) (value : α) :
    (d.set key value).filter (fun entry => p entry.1) = d.filter fun entry => p entry.1 := by
  induction d with
  | nil => simp [set, outside]
  | cons entry rest ih =>
    obtain ⟨name, old⟩ := entry
    rw [set]
    by_cases here : name = key
    · subst here
      simp [outside]
    · rw [if_neg here, List.filter_cons, List.filter_cons, ih]

/-- A write leaves the keys distinct. -/
theorem nodup_set {d : Dict α} (distinct : (d.map Prod.fst).Nodup) (key : String) (value : α) :
    ((d.set key value).map Prod.fst).Nodup := by
  rw [keys_set]
  split
  · exact distinct
  · rename_i fresh
    exact List.nodup_append.mpr ⟨distinct, List.nodup_singleton _, fun name old other new => by
      rintro rfl
      exact fresh (List.mem_singleton.mp new ▸ old)⟩

/-- Where the keys are distinct, every entry is found. -/
theorem get_of_mem {d : Dict α} (distinct : (d.map Prod.fst).Nodup) {entry : String × α}
    (member : entry ∈ d) : d.get entry.1 = some entry.2 := by
  obtain ⟨before, after, rfl⟩ := List.append_of_mem member
  rw [List.map_append, List.map_cons, List.nodup_middle, List.nodup_cons,
    List.mem_append] at distinct
  refine List.lookup_eq_some_iff.mpr ⟨before, after, rfl, fun other inside => ?_⟩
  rw [bne_iff_ne]
  exact fun same => distinct.1 (.inl (same ▸ List.mem_map_of_mem inside))

/-- A key that is not there is appended. -/
theorem set_of_new {d : Dict α} {key : String} (new : key ∉ d.map Prod.fst) (value : α) :
    d.set key value = d ++ [(key, value)] := by
  induction d with
  | nil => rfl
  | cons entry rest ih =>
    rw [List.map_cons, List.mem_cons, not_or] at new
    rw [set, if_neg (Ne.symm new.1), ih new.2]
    rfl

/-- What is there after a write is the value written, or was there before. -/
theorem mem_set {d : Dict α} {key : String} {value : α} {entry : String × α}
    (member : entry ∈ d.set key value) : entry = (key, value) ∨ entry ∈ d := by
  induction d with
  | nil => exact .inl (List.mem_singleton.mp member)
  | cons first rest ih =>
    obtain ⟨name, old⟩ := first
    rw [set] at member
    split at member
    · exact (List.mem_cons.mp member).imp_right (List.mem_cons_of_mem _)
    · rcases List.mem_cons.mp member with same | later
      · exact .inr (same ▸ List.mem_cons_self)
      · exact (ih later).imp_right (List.mem_cons_of_mem _)

/-- The entries in the order of their keys. -/
def sorted (d : Dict α) : Dict α := d.mergeSort fun first second => first.1 ≤ second.1

theorem sorted_perm (d : Dict α) : d.sorted.Perm d := List.mergeSort_perm _ _

theorem perm_of_sorted_eq {first second : Dict α} (same : first.sorted = second.sorted) :
    first.Perm second :=
  first.sorted_perm.symm.trans (same ▸ second.sorted_perm)

theorem mem_iff_get {d : Dict α} (distinct : (d.map Prod.fst).Nodup) {entry : String × α} :
    entry ∈ d ↔ d.get entry.1 = some entry.2 :=
  ⟨get_of_mem distinct, mem_of_get⟩

/-- A lookup among the values that are left of a dictionary. -/
theorem get_filterMap {β : Type*} {d : Dict α} (distinct : (d.map Prod.fst).Nodup)
    (left : α → Option β) (key : String) :
    get (d.filterMap fun entry => (left entry.2).map (entry.1, ·)) key = (d.get key).bind left := by
  induction d with
  | nil => rfl
  | cons entry rest ih =>
    obtain ⟨name, value⟩ := entry
    rw [List.map_cons, List.nodup_cons] at distinct
    rw [List.filterMap_cons, get_cons]
    by_cases here : key = name
    · subst here
      rw [if_pos rfl, Option.bind_some]
      cases found : left value with
      | some kept => exact (get_cons ..).trans (if_pos rfl)
      | none =>
        rw [Option.map_none]
        refine (ih distinct.2).trans ?_
        cases later : get rest key with
        | none => rfl
        | some other => exact absurd (List.mem_map_of_mem (mem_of_get later)) distinct.1
    · rw [if_neg here, ← ih distinct.2]
      cases left value with
      | some kept => exact (get_cons ..).trans (if_neg here)
      | none => rfl

theorem keys_filterMap_sublist {β : Type*} (d : Dict α) (left : α → Option β) :
    ((d.filterMap fun entry => (left entry.2).map (entry.1, ·)).map Prod.fst).Sublist
      (d.map Prod.fst) := by
  induction d with
  | nil => exact .slnil
  | cons entry rest ih =>
    rw [List.filterMap_cons]
    cases left entry.2 with
    | some kept => exact ih.cons_cons _
    | none => exact ih.cons _

/-- Dictionaries with the same lookups hold the same entries. -/
theorem perm_of_get_eq {first second : Dict α} (distinct : (first.map Prod.fst).Nodup)
    (distinct' : (second.map Prod.fst).Nodup) (same : ∀ key, first.get key = second.get key) :
    first.Perm second := by
  refine (List.perm_ext_iff_of_nodup (.of_map _ distinct) (.of_map _ distinct')).mpr fun entry => ?_
  rw [mem_iff_get distinct, mem_iff_get distinct', same]

theorem get_eq_of_perm {first second : Dict α} (distinct : (first.map Prod.fst).Nodup)
    (perm : first.Perm second) (key : String) : first.get key = second.get key := by
  have distinct' : (second.map Prod.fst).Nodup := (perm.map _).nodup_iff.mp distinct
  ext value
  have there : (key, value) ∈ first ↔ first.get key = some value := mem_iff_get distinct
  rw [← there, perm.mem_iff, mem_iff_get distinct']

theorem pairwise_sorted (d : Dict α) :
    d.sorted.Pairwise fun first second => first.1 ≤ second.1 := by
  have ordered : d.sorted.Pairwise fun first second => decide (first.1 ≤ second.1) = true := by
    refine List.pairwise_mergeSort (fun first second third below above => ?_)
      (fun first second => ?_) d
    · exact decide_eq_true (String.le_trans (of_decide_eq_true below) (of_decide_eq_true above))
    · rcases String.le_total first.1 second.1 with below | above
      · simp [below]
      · simp [above]
  exact ordered.imp of_decide_eq_true

/-- **Sorting forgets the order**, and nothing else. -/
theorem sorted_eq_iff {first second : Dict α} (distinct : (first.map Prod.fst).Nodup) :
    first.sorted = second.sorted ↔ first.Perm second := by
  refine ⟨perm_of_sorted_eq, fun perm => ?_⟩
  have whole : first.sorted.Perm second.sorted :=
    (sorted_perm first).trans (perm.trans (sorted_perm second).symm)
  refine List.Perm.eq_of_pairwise (fun entry other inside there below above => ?_)
    (pairwise_sorted first) (pairwise_sorted second) whole
  exact List.inj_on_of_nodup_map distinct ((sorted_perm first).mem_iff.mp inside)
    ((sorted_perm first).mem_iff.mp (whole.mem_iff.mpr there)) (String.le_antisymm below above)

/-- Dictionaries that hold the same entries under the same sequence of keys are the same. -/
theorem eq_of_perm_of_keys {first second : Dict α} (distinct : (first.map Prod.fst).Nodup)
    (perm : first.Perm second) (keys : first.map Prod.fst = second.map Prod.fst) :
    first = second := by
  induction first generalizing second with
  | nil => exact (List.map_eq_nil_iff.mp keys.symm).symm
  | cons entry rest ih =>
    obtain ⟨other, later, rfl⟩ : ∃ other later, second = other :: later := by
      cases second with
      | nil => cases keys
      | cons other later => exact ⟨other, later, rfl⟩
    obtain ⟨head, tail⟩ := List.cons.inj keys
    have here : other ∈ entry :: rest := perm.mem_iff.mpr List.mem_cons_self
    have same : entry = other :=
      List.inj_on_of_nodup_map distinct List.mem_cons_self here head
    subst same
    rw [ih (List.nodup_cons.mp distinct).2 (perm.cons_inv) tail]

/-- A lookup after every value has been rewritten. -/
theorem get_map {β : Type*} (d : Dict α) (f : α → β) (key : String) :
    (get (d.map fun entry => (entry.1, f entry.2)) key) = (d.get key).map f := by
  induction d with
  | nil => rfl
  | cons entry rest ih =>
    rw [List.map_cons, get_cons, get_cons, ih]
    split <;> rfl

end Dict

end ScreenSync.Foundation
