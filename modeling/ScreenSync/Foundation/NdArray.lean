/-
**Arrays with a shape.**

An array has a shape and an entry at every index in its range. Arrays of one shape are stacked and
averaged over the new axis; addition broadcasts: shapes are aligned at their last axis, and an axis
that is missing or of length 1 is repeated.

* `meanFirst_stack` — the mean of stacked arrays is the mean of their entries (`averaged`), in
  whatever order they are stacked (`averaged_perm`).
* `add_of_shape_eq` — arrays of one shape are added entry by entry.
* `add_eq_none` — two arrays cannot be added exactly if their shapes do not broadcast.
* `NpyFormat` — bytes that arrays are saved as.
-/

import Mathlib.Algebra.BigOperators.Group.Finset.Basic
import Mathlib.Algebra.Field.Defs

namespace ScreenSync.Foundation

/-- An index in the range of a shape: one position for each axis. -/
def InRange (shape index : List Nat) : Prop := List.Forall₂ (· < ·) index shape

instance (shape index : List Nat) : Decidable (InRange shape index) :=
  inferInstanceAs (Decidable (List.Forall₂ _ _ _))

/-- A shape, and an entry at every index; nothing is kept outside the range. -/
@[ext]
structure NdArray (K : Type*) [Zero K] where
  shape : List Nat
  entry : List Nat → K
  outside : ∀ index, ¬ InRange shape index → entry index = 0

namespace NdArray

section Entries

variable {K : Type*} [Zero K]

/-- The array with the given entries. -/
def ofFn (shape : List Nat) (f : List Nat → K) : NdArray K where
  shape := shape
  entry index := if InRange shape index then f index else 0
  outside _ out := if_neg out

/-- `np.zeros`. -/
def zeros (shape : List Nat) : NdArray K := ofFn shape fun _ => 0

@[simp] theorem ofFn_shape (shape : List Nat) (f : List Nat → K) : (ofFn shape f).shape = shape :=
  rfl

@[simp] theorem zeros_shape (shape : List Nat) : (zeros shape : NdArray K).shape = shape := rfl

@[simp] theorem zeros_entry (shape index : List Nat) : (zeros shape : NdArray K).entry index = 0 :=
  ite_self 0

theorem ofFn_entry {shape : List Nat} {f : List Nat → K} {index : List Nat}
    (inside : InRange shape index) : (ofFn shape f).entry index = f index :=
  if_pos inside

/-- Arrays of one shape are equal if their entries in the range are. -/
theorem eq_ofFn {a : NdArray K} {shape : List Nat} {f : List Nat → K} (same : a.shape = shape)
    (entries : ∀ index, InRange shape index → a.entry index = f index) : a = ofFn shape f := by
  subst same
  ext1
  · rfl
  · funext index
    by_cases inside : InRange a.shape index
    · rw [ofFn_entry inside, entries index inside]
    · rw [a.outside index inside, (ofFn a.shape f).outside index inside]

theorem ofFn_congr {shape : List Nat} {f g : List Nat → K}
    (entries : ∀ index, InRange shape index → f index = g index) : ofFn shape f = ofFn shape g :=
  eq_ofFn rfl fun index inside => (ofFn_entry inside).trans (entries index inside)

/-- The indices in the range of a shape, the last axis running fastest. -/
def indices : List Nat → List (List Nat)
  | [] => [[]]
  | length :: rest => (List.range length).flatMap fun position => (indices rest).map (position :: ·)

/-- A shape without an empty axis has an index. -/
theorem indices_ne_nil {shape : List Nat} (filled : 0 ∉ shape) : indices shape ≠ [] := by
  induction shape with
  | nil => exact List.cons_ne_nil _ _
  | cons length rest ih =>
    rw [List.mem_cons, not_or] at filled
    obtain ⟨index, inside⟩ := List.exists_mem_of_ne_nil _ (ih filled.2)
    refine List.ne_nil_of_mem (a := 0 :: index) (List.mem_flatMap.mpr ⟨0, ?_, ?_⟩)
    · exact List.mem_range.mpr (Nat.pos_of_ne_zero (Ne.symm filled.1))
    · exact List.mem_map_of_mem inside

/-- `a.flatten()`. -/
def flatten (a : NdArray K) : List K := (indices a.shape).map a.entry

end Entries

/-! ### Multiples -/

section Scale

variable {K : Type*} [MulZeroClass K]

/-- `c * a` -/
def scale (c : K) (a : NdArray K) : NdArray K where
  shape := a.shape
  entry index := c * a.entry index
  outside index out := by rw [a.outside index out, mul_zero]

@[simp] theorem scale_shape (c : K) (a : NdArray K) : (a.scale c).shape = a.shape := rfl

theorem flatten_scale (c : K) (a : NdArray K) : (a.scale c).flatten = a.flatten.map (c * ·) := by
  rw [flatten, flatten, List.map_map]
  rfl

end Scale

/-! ### Broadcasting -/

/-- The shape two shapes broadcast to, both written from the last axis on. -/
def broadcastBack : List Nat → List Nat → Option (List Nat)
  | [], shape => some shape
  | shape, [] => some shape
  | m :: first, n :: second =>
    (broadcastBack first second).bind fun rest =>
      if m = n then some (m :: rest)
      else if m = 1 then some (n :: rest)
      else if n = 1 then some (m :: rest)
      else none

/-- The shape of a sum, if there is one. -/
def broadcastShape (first second : List Nat) : Option (List Nat) :=
  (broadcastBack first.reverse second.reverse).map List.reverse

/-- Where an entry of a broadcast array comes from. -/
def project (shape index : List Nat) : List Nat :=
  (List.zipWith (fun length position => if length = 1 then 0 else position) shape.reverse
    index.reverse).reverse

theorem broadcastBack_self (shape : List Nat) : broadcastBack shape shape = some shape := by
  induction shape with
  | nil => rfl
  | cons length rest ih => rw [broadcastBack, ih, Option.bind_some, if_pos rfl]

theorem broadcastShape_self (shape : List Nat) : broadcastShape shape shape = some shape := by
  rw [broadcastShape, broadcastBack_self, Option.map_some, List.reverse_reverse]

/-- In its own shape every entry comes from its own index. -/
theorem project_of_inRange {shape index : List Nat} (inside : InRange shape index) :
    project shape index = index := by
  have back : List.Forall₂ (· < ·) index.reverse shape.reverse :=
    List.forall₂_reverse_iff.mpr inside
  have same : ∀ {positions lengths : List Nat}, List.Forall₂ (· < ·) positions lengths →
      List.zipWith (fun length position => if length = 1 then 0 else position) lengths positions =
        positions := by
    intro positions lengths both
    induction both with
    | nil => rfl
    | @cons position length positions lengths below _ ih =>
      rw [List.zipWith_cons_cons, ih]
      split
      · rename_i single
        rw [show position = 0 by omega]
      · rfl
  rw [project, same back, List.reverse_reverse]

section Add

variable {K : Type*} [AddZeroClass K]

/-- `a + b`, if the shapes broadcast. -/
def add (a b : NdArray K) : Option (NdArray K) :=
  (broadcastShape a.shape b.shape).map fun shape =>
    ofFn shape fun index => a.entry (project a.shape index) + b.entry (project b.shape index)

theorem add_eq_none {a b : NdArray K} : a.add b = none ↔ broadcastShape a.shape b.shape = none :=
  Option.map_eq_none_iff

theorem add_shape {a b sum : NdArray K} (added : a.add b = some sum) :
    broadcastShape a.shape b.shape = some sum.shape := by
  obtain ⟨shape, broadcast, rfl⟩ := Option.map_eq_some_iff.mp added
  exact broadcast

/-- **Arrays of one shape are added entry by entry.** -/
theorem add_of_shape_eq {a b : NdArray K} {shape : List Nat} (first : a.shape = shape)
    (second : b.shape = shape) :
    a.add b = some (ofFn shape fun index => a.entry index + b.entry index) := by
  subst first
  rw [add, second, broadcastShape_self, Option.map_some]
  refine congrArg some (ofFn_congr fun index inside => ?_)
  rw [project_of_inRange inside]

theorem zeros_add (a : NdArray K) : (zeros a.shape).add a = some a := by
  rw [add_of_shape_eq (zeros_shape a.shape) rfl]
  refine congrArg some (eq_ofFn rfl fun index _ => ?_).symm
  rw [zeros_entry, zero_add]

end Add

/-! ### Stacking and averaging -/

section Mean

variable {K : Type*} [DivisionRing K]

/-- `np.stack(arrays, axis=0)`; it needs at least one array, and one shape. -/
def stack (arrays : List (NdArray K)) : Option (NdArray K) :=
  match arrays with
  | [] => none
  | first :: _ =>
    if ∀ a ∈ arrays, a.shape = first.shape then
      some (ofFn (arrays.length :: first.shape) fun index =>
        ((arrays[index.headD 0]?).map fun a => a.entry index.tail).getD 0)
    else none

theorem stack_eq_none {arrays : List (NdArray K)}
    (mixed : ¬ ∃ shape, ∀ a ∈ arrays, a.shape = shape) : stack arrays = none := by
  cases arrays with
  | nil => rfl
  | cons first rest => exact if_neg fun same => mixed ⟨first.shape, same⟩

/-- `np.mean(a, axis=0)`. -/
def meanFirst (a : NdArray K) : NdArray K :=
  ofFn a.shape.tail fun index =>
    (∑ k ∈ Finset.range (a.shape.headD 0), a.entry (k :: index)) / (a.shape.headD 0 : K)

/-- The mean of the entries. -/
def averaged (shape : List Nat) (arrays : List (NdArray K)) : NdArray K :=
  ofFn shape fun index => (arrays.map fun a => a.entry index).sum / (arrays.length : K)

@[simp] theorem averaged_shape (shape : List Nat) (arrays : List (NdArray K)) :
    (averaged shape arrays).shape = shape := rfl

theorem averaged_perm {shape : List Nat} {first second : List (NdArray K)}
    (perm : first.Perm second) : averaged shape first = averaged shape second := by
  unfold averaged
  refine ofFn_congr fun index _ => ?_
  rw [(perm.map fun a => a.entry index).sum_eq, perm.length_eq]

/-- Summing a list by position. -/
theorem sum_range_getElem? {A : Type*} (f : A → K) (list : List A) :
    (∑ k ∈ Finset.range list.length, ((list[k]?).map f).getD 0) = (list.map f).sum := by
  induction list with
  | nil => rfl
  | cons first rest ih =>
    rw [List.length_cons, Finset.sum_range_succ', List.map_cons, List.sum_cons, ← ih, add_comm]
    simp

/-- **The mean of stacked arrays** is the mean of their entries. -/
theorem meanFirst_stack {shape : List Nat} {arrays : List (NdArray K)} (nonempty : arrays ≠ [])
    (same : ∀ a ∈ arrays, a.shape = shape) :
    (stack arrays).map meanFirst = some (averaged shape arrays) := by
  cases arrays with
  | nil => exact absurd rfl nonempty
  | cons first rest =>
    have head : first.shape = shape := same first List.mem_cons_self
    have stacked : stack (first :: rest) = some (ofFn ((first :: rest).length :: shape)
        fun index =>
          (((first :: rest)[index.headD 0]?).map fun a => a.entry index.tail).getD 0) := by
      rw [stack, head, if_pos same]
    rw [stacked, Option.map_some]
    refine congrArg some (ofFn_congr fun index inside => ?_)
    show (∑ k ∈ Finset.range (first :: rest).length, _) / _ = _
    rw [← sum_range_getElem?]
    refine congrArg (· / _) (Finset.sum_congr rfl fun k member => ?_)
    exact ofFn_entry (.cons (Finset.mem_range.mp member) inside)

end Mean

end NdArray

/-! ### Bytes -/

/-- The `.npy` format: what was saved is loaded again, with its shape. Other bytes may load or not.
-/
structure NpyFormat (K : Type) [Zero K] where
  Bytes : Type
  save : NdArray K → Bytes
  load : Bytes → Option (NdArray K)
  load_save : ∀ a, load (save a) = some a

/-- Bytes that are an array, or nothing that can be loaded. -/
def NpyFormat.plain (K : Type) [Zero K] : NpyFormat K where
  Bytes := Option (NdArray K)
  save := some
  load := id
  load_save _ := rfl

end ScreenSync.Foundation
