/-
**JSON values as nested mappings.**

A value is compared as a nested mapping when the order in which its objects list their keys does not
count, at any depth. `canonical` puts the keys of every object in order, and two values are the same
nested mapping when their canonical forms are equal.

* `canonical_obj_iff` — what that comes to for objects: the same value under every key.
* `outline` — the keys of every object in the order in which they are listed, and nothing else.
* `eq_iff_outline` — values that are the same nested mapping are equal exactly if their outlines
  are.
* `perm_iff_outline` — the entries of two objects that are the same nested mapping are the same, in
  whatever order, exactly if under each key the outlines are.
-/

import ScreenSync.Foundation.JsonText

namespace ScreenSync.Foundation.Json

open JsonText (Proper ProperItems ProperEntries)

/-! ### The canonical form -/

mutual

/-- The value with the keys of every object in order. -/
def canonical : Json → Json
  | .arr items => .arr (canonicalItems items)
  | .obj entries => .obj (Dict.sorted (canonicalEntries entries))
  | value => value

def canonicalItems : List Json → List Json
  | [] => []
  | item :: rest => canonical item :: canonicalItems rest

def canonicalEntries : List (String × Json) → List (String × Json)
  | [] => []
  | (key, value) :: rest => (key, canonical value) :: canonicalEntries rest

end

theorem canonicalEntries_eq (entries : List (String × Json)) :
    canonicalEntries entries = entries.map fun entry => (entry.1, canonical entry.2) := by
  induction entries with
  | nil => rfl
  | cons entry rest ih => rw [canonicalEntries, ih, List.map_cons]

theorem keys_canonicalEntries (entries : List (String × Json)) :
    (canonicalEntries entries).map Prod.fst = entries.map Prod.fst := by
  rw [canonicalEntries_eq, List.map_map]
  rfl

/-- The canonical forms of two objects hold the same entries. -/
theorem canonical_obj_perm {first second : Dict Json} (distinct : (first.map Prod.fst).Nodup) :
    canonical (.obj first) = canonical (.obj second) ↔
      (canonicalEntries first).Perm (canonicalEntries second) := by
  rw [← keys_canonicalEntries] at distinct
  rw [canonical, canonical, Json.obj.injEq, Dict.sorted_eq_iff distinct]

/-- **Objects are compared key by key.** -/
theorem canonical_obj_iff {first second : Dict Json} (distinct : (first.map Prod.fst).Nodup)
    (distinct' : (second.map Prod.fst).Nodup) :
    canonical (.obj first) = canonical (.obj second) ↔
      ∀ key, (first.get key).map canonical = (second.get key).map canonical := by
  have looked : ∀ (d : Dict Json) (key : String),
      Dict.get (canonicalEntries d) key = (d.get key).map canonical := by
    intro d key
    rw [canonicalEntries_eq, Dict.get_map]
  rw [canonical_obj_perm distinct]
  rw [← keys_canonicalEntries] at distinct distinct'
  refine ⟨fun perm key => ?_, fun same => Dict.perm_of_get_eq distinct distinct' fun key => ?_⟩
  · rw [← looked, ← looked, Dict.get_eq_of_perm distinct perm]
  · rw [looked, looked, same]

/-! ### The outline -/

mutual

/-- The keys of every object in the order in which they are listed. -/
def outline : Json → Json
  | .arr items => .arr (outlineItems items)
  | .obj entries => .obj (outlineEntries entries)
  | _ => .null

def outlineItems : List Json → List Json
  | [] => []
  | item :: rest => outline item :: outlineItems rest

def outlineEntries : List (String × Json) → List (String × Json)
  | [] => []
  | (key, value) :: rest => (key, outline value) :: outlineEntries rest

end

theorem keys_outlineEntries (entries : List (String × Json)) :
    (outlineEntries entries).map Prod.fst = entries.map Prod.fst := by
  induction entries with
  | nil => rfl
  | cons entry rest ih => rw [outlineEntries, List.map_cons, List.map_cons, ih]

/-- Objects with the same canonical form and the same outline have the same canonical entries, in
the same order. -/
theorem canonicalEntries_eq_of_outline {first second : List (String × Json)}
    (distinct : (first.map Prod.fst).Nodup)
    (same : canonical (.obj first) = canonical (.obj second))
    (listed : outlineEntries first = outlineEntries second) :
    canonicalEntries first = canonicalEntries second := by
  have perm := (canonical_obj_perm distinct).mp same
  have keys := congrArg (List.map Prod.fst) listed
  rw [keys_outlineEntries, keys_outlineEntries, ← keys_canonicalEntries,
    ← keys_canonicalEntries second] at keys
  rw [← keys_canonicalEntries] at distinct
  exact Dict.eq_of_perm_of_keys distinct perm keys

mutual

/-- **The outline is all that the canonical form forgets.** -/
theorem eq_of_outline (value other : Json) (proper : Proper value)
    (same : canonical value = canonical other) (listed : outline value = outline other) :
    value = other := by
  match value with
  | .arr items =>
    cases other with
    | arr others =>
      rw [eq_of_outlineItems items others proper (Json.arr.inj same) (Json.arr.inj listed)]
    | _ => cases listed
  | .obj entries =>
    cases other with
    | obj others =>
      have kept := canonicalEntries_eq_of_outline proper.1 same (Json.obj.inj listed)
      rw [eq_of_outlineEntries entries others proper.2 kept (Json.obj.inj listed)]
    | _ => cases listed
  | .null | .bool _ | .int _ | .float _ | .str _ =>
    -- A value without parts is its own canonical form.
    cases other with
    | arr _ => cases listed
    | obj _ => cases listed
    | _ => exact same

theorem eq_of_outlineItems (items others : List Json) (proper : ProperItems items)
    (same : canonicalItems items = canonicalItems others)
    (listed : outlineItems items = outlineItems others) : items = others := by
  match items, others with
  | [], [] => rfl
  | item :: rest, other :: later =>
    obtain ⟨head, tail⟩ := List.cons.inj same
    obtain ⟨first, last⟩ := List.cons.inj listed
    rw [eq_of_outline item other proper.1 head first,
      eq_of_outlineItems rest later proper.2 tail last]
  | [], _ :: _ => cases same
  | _ :: _, [] => cases same

theorem eq_of_outlineEntries (entries others : List (String × Json))
    (proper : ProperEntries entries) (same : canonicalEntries entries = canonicalEntries others)
    (listed : outlineEntries entries = outlineEntries others) : entries = others := by
  match entries, others with
  | [], [] => rfl
  | (key, value) :: rest, (name, other) :: later =>
    obtain ⟨head, tail⟩ := List.cons.inj same
    obtain ⟨first, last⟩ := List.cons.inj listed
    obtain ⟨rfl, values⟩ := Prod.mk.inj head
    rw [eq_of_outline value other proper.1 values (Prod.mk.inj first).2,
      eq_of_outlineEntries rest later proper.2 tail last]
  | [], _ :: _ => cases same
  | _ :: _, [] => cases same

end

theorem eq_iff_outline {value other : Json} (proper : Proper value)
    (same : canonical value = canonical other) : value = other ↔ outline value = outline other :=
  ⟨congrArg outline, eq_of_outline value other proper same⟩

/-! ### Objects without their own order -/

theorem proper_of_mem {entries : List (String × Json)} (proper : ProperEntries entries)
    {entry : String × Json} (member : entry ∈ entries) : Proper entry.2 := by
  induction entries with
  | nil => cases member
  | cons first rest ih =>
    rcases List.mem_cons.mp member with rfl | later
    · exact proper.1
    · exact ih proper.2 later

/-- The same, for what is found under a key. -/
theorem option_eq_iff_outline {value other : Option Json} (proper : ∀ v ∈ value, Proper v)
    (same : value.map canonical = other.map canonical) :
    value = other ↔ value.map outline = other.map outline := by
  cases value with
  | none =>
    cases other with
    | none => exact iff_of_true rfl rfl
    | some other => cases same
  | some value =>
    cases other with
    | none => cases same
    | some other =>
      rw [Option.map_some, Option.map_some, Option.some.injEq, Option.some.injEq]
      exact eq_iff_outline (proper value rfl) (Option.some.inj same)

/-- **Below the top level the order counts.** -/
theorem perm_iff_outline {first second : Dict Json} (proper : Proper (.obj first))
    (proper' : Proper (.obj second)) (same : canonical (.obj first) = canonical (.obj second)) :
    first.Perm second ↔
      ∀ key, (first.get key).map outline = (second.get key).map outline := by
  have values := (canonical_obj_iff proper.1 proper'.1).mp same
  have found : ∀ key, first.get key = second.get key ↔
      (first.get key).map outline = (second.get key).map outline := fun key =>
    option_eq_iff_outline
      (fun value there => proper_of_mem proper.2 (Dict.mem_of_get there)) (values key)
  calc first.Perm second
      ↔ ∀ key, first.get key = second.get key :=
        ⟨Dict.get_eq_of_perm proper.1, Dict.perm_of_get_eq proper.1 proper'.1⟩
    _ ↔ ∀ key, (first.get key).map outline = (second.get key).map outline := forall_congr' found

end ScreenSync.Foundation.Json
