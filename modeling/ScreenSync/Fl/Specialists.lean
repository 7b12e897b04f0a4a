/-
**A round of specialists.**

Every device trains a part of the model of its own: no two deltas have an entry at one index, and
every index is some device's. Where a device has an entry, the mean has the same one, made smaller;
so nobody contradicts anybody. The detection compares each delta with the whole mean.

* `cosineSimilarity_specialist` — the direction detector fires for less than 49 % of the squares.
* `signFlipRatio_specialist` — the sign detector fires for less than 40 % of the entries.
* `specialists_flagged` — who is flagged, and that four devices at most are not.
-/

import ScreenSync.Fl.Dissent
import ScreenSync.Foundation.Apart

namespace ScreenSync.Fl

open ScreenSync.Foundation ScreenSync.Shared

noncomputable section

/-- The square of a delta. -/
def square (g : NdArray ℝ) : ℝ := norm Real.sqrt g.flatten * norm Real.sqrt g.flatten

/-- No two devices have an entry at one index, every index is some device's, and neither a delta nor
the mean is taken for zero. -/
structure Specialised (shape : List Nat) (deltas : Dict (NdArray ℝ)) : Prop where
  apart : Vector.Apart (deltas.map fun entry => entry.2.entry)
  covered : ∀ index ∈ NdArray.indices shape, ∃ entry ∈ deltas, entry.2.entry index ≠ 0
  visible : ∀ entry ∈ deltas, 1e-10 ≤ norm Real.sqrt entry.2.flatten
  pointed : 1e-10 ≤ norm Real.sqrt (NdArray.averaged shape (deltas.map Prod.snd)).flatten

/-- Less than 49 % of the squares of the round. -/
def Light (deltas : Dict (NdArray ℝ)) (g : NdArray ℝ) : Prop :=
  square g < 0.49 * (deltas.map fun entry => square entry.2).sum

/-- Less than 40 % of the entries. -/
def Narrow (g : NdArray ℝ) : Prop := density g < 0.40

/-- More than three times the mean of the norms. -/
def Heavy (deltas : Dict (NdArray ℝ)) (g : NdArray ℝ) : Prop :=
  3.0 * (meanNorm Real.sqrt deltas + 1e-8) < norm Real.sqrt g.flatten

/-- Two of the three. -/
def Suspect (deltas : Dict (NdArray ℝ)) (g : NdArray ℝ) : Prop :=
  Light deltas g ∧ Narrow g ∨ Light deltas g ∧ Heavy deltas g ∨ Narrow g ∧ Heavy deltas g

variable {deltas : Dict (NdArray ℝ)} {entry : DeviceId × NdArray ℝ} {shape : List Nat}
  {clock : DeviceId → UtcTime} {roundNumber : Int}

/-! ### The mean of the round -/

/-- The mean is the sum of the deltas, made smaller; outside of the shape there is neither. -/
theorem averaged_entry (same : ∀ entry ∈ deltas, entry.2.shape = shape) :
    (NdArray.averaged shape (deltas.map Prod.snd)).entry = fun index =>
      (deltas.length : ℝ)⁻¹ * Vector.total (deltas.map fun entry => entry.2.entry) index := by
  funext index
  have entries : ((deltas.map Prod.snd).map fun a => a.entry index).sum =
      Vector.total (deltas.map fun entry => entry.2.entry) index := by
    rw [Vector.total, List.map_map, List.map_map]
    rfl
  by_cases inside : InRange shape index
  · rw [NdArray.averaged, NdArray.ofFn_entry inside, entries, List.length_map, div_eq_inv_mul]
  · have nothing : ∀ f ∈ deltas.map fun entry => entry.2.entry, f index = 0 := by
      refine List.forall_mem_map.mpr fun entry member => ?_
      exact entry.2.outside index (same entry member ▸ inside)
    rw [Vector.total_eq_zero nothing, mul_zero]
    exact (NdArray.averaged shape (deltas.map Prod.snd)).outside index inside

theorem square_eq (g : NdArray ℝ) :
    square g = Vector.inner (NdArray.indices g.shape) g.entry g.entry := by
  rw [square, norm_flatten, Vector.length_mul_self]

/-- The square of the sum is the sum of the squares. -/
theorem inner_total_squares (apart : Vector.Apart (deltas.map fun entry => entry.2.entry))
    (same : ∀ entry ∈ deltas, entry.2.shape = shape) :
    Vector.inner (NdArray.indices shape) (Vector.total (deltas.map fun entry => entry.2.entry))
        (Vector.total (deltas.map fun entry => entry.2.entry)) =
      (deltas.map fun entry => square entry.2).sum := by
  rw [apart.inner_total_self, List.map_map]
  refine congrArg List.sum (List.map_congr_left fun entry member => ?_)
  rw [square_eq, same entry member]
  rfl

theorem norm_averaged (apart : Vector.Apart (deltas.map fun entry => entry.2.entry))
    (same : ∀ entry ∈ deltas, entry.2.shape = shape) :
    norm Real.sqrt (NdArray.averaged shape (deltas.map Prod.snd)).flatten =
      (deltas.length : ℝ)⁻¹ * √(deltas.map fun entry => square entry.2).sum := by
  rw [norm_flatten, averaged_entry same, Vector.length_smul, Vector.length]
  rw [NdArray.averaged_shape, inner_total_squares apart same,
    abs_of_nonneg (inv_nonneg.mpr (Nat.cast_nonneg _))]

/-! ### The detectors -/

/-- Every device has entries. -/
theorem Specialised.norm_pos (specialised : Specialised shape deltas) (member : entry ∈ deltas) :
    0 < norm Real.sqrt entry.2.flatten :=
  lt_of_lt_of_le (by norm_num) (specialised.visible entry member)

/-- A delta and the mean: what they have in common is the delta. -/
theorem Specialised.dot_averaged (specialised : Specialised shape deltas)
    (same : ∀ entry ∈ deltas, entry.2.shape = shape) (member : entry ∈ deltas) :
    dot entry.2.flatten (NdArray.averaged shape (deltas.map Prod.snd)).flatten =
      (deltas.length : ℝ)⁻¹ * square entry.2 := by
  have inside : entry.2.entry ∈ deltas.map fun entry => entry.2.entry :=
    List.mem_map_of_mem (f := fun entry => entry.2.entry) member
  rw [dot_flatten (same entry member).symm, averaged_entry same, Vector.inner_smul_right,
    specialised.apart.inner_total inside, square_eq]

theorem Specialised.root_pos (specialised : Specialised shape deltas)
    (same : ∀ entry ∈ deltas, entry.2.shape = shape) :
    0 < √(deltas.map fun entry => square entry.2).sum := by
  have pointed : 0 < norm Real.sqrt (NdArray.averaged shape (deltas.map Prod.snd)).flatten :=
    lt_of_lt_of_le (by norm_num) specialised.pointed
  rw [norm_averaged specialised.apart same] at pointed
  exact pos_of_mul_pos_right pointed (inv_nonneg.mpr (Nat.cast_nonneg _))

/-- **The direction of a specialist**: its norm, over the root of all squares. -/
theorem cosineSimilarity_specialist (specialised : Specialised shape deltas)
    (same : ∀ entry ∈ deltas, entry.2.shape = shape) (member : entry ∈ deltas) :
    cosineSimilarity Real.sqrt entry.2 (NdArray.averaged shape (deltas.map Prod.snd)) =
      norm Real.sqrt entry.2.flatten / √(deltas.map fun entry => square entry.2).sum := by
  have seen : ¬ (norm Real.sqrt entry.2.flatten < 1e-10 ∨
      norm Real.sqrt (NdArray.averaged shape (deltas.map Prod.snd)).flatten < 1e-10) := by
    rw [not_or, not_lt, not_lt]
    exact ⟨specialised.visible entry member, specialised.pointed⟩
  have scale : (deltas.length : ℝ)⁻¹ ≠ 0 :=
    inv_ne_zero (Nat.cast_ne_zero.mpr (List.length_pos_of_mem member).ne')
  simp only [cosineSimilarity, if_neg seen]
  rw [specialised.dot_averaged same member, norm_averaged specialised.apart same, square,
    mul_left_comm (norm Real.sqrt entry.2.flatten), mul_div_mul_left _ _ scale,
    mul_div_mul_left _ _ (specialised.norm_pos member).ne']

theorem cosine_specialist (specialised : Specialised shape deltas)
    (same : ∀ entry ∈ deltas, entry.2.shape = shape) (member : entry ∈ deltas) :
    cosineSimilarity Real.sqrt entry.2 (NdArray.averaged shape (deltas.map Prod.snd)) <
      cosineSimilarityFloor ↔ Light deltas entry.2 := by
  have own := specialised.norm_pos member
  have root := specialised.root_pos same
  have whole := Real.mul_self_sqrt (Real.sqrt_pos.mp root).le
  rw [cosineSimilarity_specialist specialised same member, div_lt_iff₀ root, Light, square]
  generalize √(deltas.map fun entry => square entry.2).sum = length at root whole
  rw [← whole]
  have squares : (0.49 : ℝ) * (length * length) =
      cosineSimilarityFloor * length * (cosineSimilarityFloor * length) := by
    norm_num [cosineSimilarityFloor]
    ring
  rw [squares]
  refine mul_self_lt_mul_self_iff own.le (mul_nonneg ?_ root.le)
  norm_num [cosineSimilarityFloor]

/-- Where a device has no entry it has no sign, and the mean has one; elsewhere they agree. -/
theorem Specialised.sign_ne_iff (specialised : Specialised shape deltas)
    (same : ∀ entry ∈ deltas, entry.2.shape = shape) (member : entry ∈ deltas)
    {index : List Nat} (inside : index ∈ NdArray.indices shape) :
    SignType.sign (entry.2.entry index) ≠
        SignType.sign ((NdArray.averaged shape (deltas.map Prod.snd)).entry index) ↔
      entry.2.entry index = 0 := by
  have listed : ∀ {other}, other ∈ deltas →
      other.2.entry ∈ deltas.map fun entry => entry.2.entry :=
    fun {other} there => List.mem_map_of_mem (f := fun entry => entry.2.entry) there
  have positive : (0 : ℝ) < (deltas.length : ℝ)⁻¹ :=
    inv_pos.mpr (Nat.cast_pos.mpr (List.length_pos_of_mem member))
  rw [averaged_entry same, sign_mul, sign_pos positive, one_mul]
  by_cases here : entry.2.entry index = 0
  · obtain ⟨other, there, filled⟩ := specialised.covered index inside
    rw [here, sign_zero, specialised.apart.total_eq (listed there) filled]
    exact iff_of_true (sign_ne_zero.mpr filled).symm rfl
  · rw [specialised.apart.total_eq (listed member) here]
    exact iff_of_false (not_not.mpr rfl) here

/-- **The signs of a specialist** differ wherever it has no entry. -/
theorem signFlipRatio_specialist (specialised : Specialised shape deltas)
    (same : ∀ entry ∈ deltas, entry.2.shape = shape) (member : entry ∈ deltas) :
    signFlipRatio entry.2 (NdArray.averaged shape (deltas.map Prod.snd)) =
      1 - density entry.2 := by
  have filled : entry.2.flatten ≠ [] := by
    intro none
    have own := specialised.norm_pos member
    rw [none] at own
    simp [norm] at own
  have length : (entry.2.flatten.length : ℝ) ≠ 0 :=
    Nat.cast_ne_zero.mpr (List.length_pos_iff.mpr filled).ne'
  have flips : ((entry.2.flatten.map SignType.sign).zip
      ((NdArray.averaged shape (deltas.map Prod.snd)).flatten.map SignType.sign)).countP
        (fun signs => signs.1 ≠ signs.2) = entry.2.flatten.countP fun x => ¬ x ≠ 0 := by
    rw [NdArray.flatten, NdArray.flatten, NdArray.averaged_shape, same entry member, List.map_map,
      List.map_map, List.zip_map', List.countP_map, List.countP_map]
    refine List.countP_congr fun index inside => ?_
    simpa using specialised.sign_ne_iff same member inside
  have parts := List.length_eq_countP_add_countP (fun x : ℝ => decide (x ≠ 0))
    (l := entry.2.flatten)
  simp only [signFlipRatio]
  rw [flips, List.length_map, density, eq_sub_iff_add_eq, ← add_div, div_eq_one_iff_eq length]
  rw [add_comm]
  exact_mod_cast (by simpa using parts.symm)

theorem sign_specialist (specialised : Specialised shape deltas)
    (same : ∀ entry ∈ deltas, entry.2.shape = shape) (member : entry ∈ deltas) :
    signFlipFloor < signFlipRatio entry.2 (NdArray.averaged shape (deltas.map Prod.snd)) ↔
      Narrow entry.2 := by
  rw [signFlipRatio_specialist specialised same member, Narrow, signFlipFloor]
  constructor
  · intro fires
    norm_num at fires ⊢
    linarith
  · intro narrow
    norm_num at narrow ⊢
    linarith

variable (clock roundNumber) in
/-- **Who is flagged.** -/
theorem specialist_flagged_iff (specialised : Specialised shape deltas)
    (same : ∀ entry ∈ deltas, entry.2.shape = shape) (member : entry ∈ deltas) :
    (reportOf Real.sqrt clock roundNumber shape deltas entry).isFlagged = true ↔
      Suspect deltas entry.2 := by
  have ceiling : (3.0 : ℝ) = 3 := by norm_num
  rw [reportOf, isFlagged_two, cosine_specialist specialised same member,
    sign_specialist specialised same member, l2_above_iff, Suspect, Heavy, ceiling]

/-! ### How many are left -/

/-- The devices share the entries. -/
theorem Specialised.density_sum_le (specialised : Specialised shape deltas)
    (same : ∀ entry ∈ deltas, entry.2.shape = shape) :
    (deltas.map fun entry => density entry.2).sum ≤ 1 := by
  have shared : ((deltas.map fun entry => entry.2.entry).map fun f =>
      (NdArray.indices shape).countP fun index => f index ≠ 0).sum ≤
        (NdArray.indices shape).length :=
    specialised.apart.support_le.trans List.countP_le_length
  have each : (deltas.map fun entry => density entry.2).sum =
      ((deltas.map fun entry => entry.2.entry).map fun f =>
        (NdArray.indices shape).countP fun index => f index ≠ 0).sum /
          ((NdArray.indices shape).length : ℝ) := by
    rw [List.map_map, Nat.cast_list_sum, List.map_map, div_eq_mul_inv, ← List.sum_map_mul_right]
    refine congrArg List.sum (List.map_congr_left fun entry member => ?_)
    rw [density, NdArray.flatten, List.length_map, List.countP_map, same entry member]
    rfl
  rw [each]
  exact div_le_one_of_le₀ (Nat.cast_le.mpr shared) (Nat.cast_nonneg _)

/-- **Four devices at most are left**: two for their squares and two for their entries. -/
theorem Specialised.passes_le (specialised : Specialised shape deltas)
    (same : ∀ entry ∈ deltas, entry.2.shape = shape) (filled : deltas ≠ [])
    {passes : DeviceId × NdArray ℝ → Bool}
    (clear : ∀ entry ∈ deltas, passes entry = true → ¬ Suspect deltas entry.2) :
    deltas.countP passes ≤ 4 := by
  have squares : deltas.countP (fun entry =>
      0.49 * (deltas.map fun entry => square entry.2).sum ≤ square entry.2) ≤ 2 := by
    have whole : 0 < (deltas.map fun entry => square entry.2).sum := by
      refine List.sum_pos _ (fun value listed => ?_) (by simpa using filled)
      obtain ⟨entry, member, rfl⟩ := List.mem_map.mp listed
      exact mul_pos (specialised.norm_pos member) (specialised.norm_pos member)
    refine Vector.countP_large_le (fun entry _ => mul_self_nonneg _) le_rfl ?_ whole
    linarith
  have entries : deltas.countP (fun entry => (0.40 : ℝ) ≤ density entry.2) ≤ 2 := by
    refine Vector.countP_large_le (fun entry _ => ?_) (specialised.density_sum_le same) (by norm_num)
      one_pos
    exact div_nonneg (Nat.cast_nonneg _) (Nat.cast_nonneg _)
  refine (Vector.countP_le_add fun entry member pass => ?_).trans (Nat.add_le_add squares entries)
  rw [decide_eq_true_eq, decide_eq_true_eq, ← not_lt, ← not_lt, ← not_and_or]
  exact fun both => clear entry member pass (.inl both)

/-- One entry of three. -/
def oneEntry (position : Nat) : NdArray ℝ :=
  .ofFn [3] fun index => if index = [position] then 1 else 0

/-- Each device trains one entry of the model. -/
def threeSpecialists : Dict (NdArray ℝ) :=
  [("tablet", oneEntry 0), ("phone", oneEntry 1), ("laptop", oneEntry 2)]

theorem oneEntry_apart {first second : Nat} (other : first ≠ second) (index : List Nat) :
    (oneEntry first).entry index = 0 ∨ (oneEntry second).entry index = 0 := by
  by_cases inside : InRange [3] index
  · rw [oneEntry, oneEntry, NdArray.ofFn_entry inside, NdArray.ofFn_entry inside]
    by_cases own : index = [first]
    · exact .inr (if_neg fun same => other (List.cons.inj (own.symm.trans same)).1)
    · exact .inl (if_neg own)
  · exact .inl ((oneEntry first).outside index inside)

theorem threeSpecialists_norm :
    ∀ entry ∈ threeSpecialists, norm Real.sqrt entry.2.flatten = 1 := by
  simp [threeSpecialists, oneEntry, norm, NdArray.flatten, NdArray.indices, NdArray.ofFn, InRange,
    List.range_succ]

theorem threeSpecialists_shape : ∀ entry ∈ threeSpecialists, entry.2.shape = [3] := by
  simp [threeSpecialists, oneEntry]

theorem threeSpecialists_squares :
    (threeSpecialists.map fun entry => square entry.2).sum = 3 := by
  have ones : ∀ entry ∈ threeSpecialists, square entry.2 = 1 := by
    intro entry member
    rw [square, threeSpecialists_norm entry member, one_mul]
  rw [List.map_congr_left ones]
  norm_num [threeSpecialists]

theorem threeSpecialists_specialised : Specialised [3] threeSpecialists := by
  have apart : Vector.Apart (threeSpecialists.map fun entry => entry.2.entry) := by
    have first := oneEntry_apart (show (0 : Nat) ≠ 1 by decide)
    have second := oneEntry_apart (show (0 : Nat) ≠ 2 by decide)
    have third := oneEntry_apart (show (1 : Nat) ≠ 2 by decide)
    simp [Vector.Apart, threeSpecialists, first, second, third]
  refine ⟨apart, ?_, ?_, ?_⟩
  · simp [threeSpecialists, oneEntry, NdArray.indices, NdArray.ofFn, InRange, List.range_succ]
  · intro entry member
    rw [threeSpecialists_norm entry member]
    norm_num
  · rw [norm_averaged apart threeSpecialists_shape, threeSpecialists_squares]
    have root : (1 : ℝ) ≤ √3 := Real.one_le_sqrt.mpr (by norm_num)
    norm_num [threeSpecialists]
    linarith

-- Nobody is left.
example : ∀ entry ∈ threeSpecialists, Suspect threeSpecialists entry.2 := by
  intro entry member
  refine .inl ⟨?_, ?_⟩
  · rw [Light, threeSpecialists_squares, square, threeSpecialists_norm entry member]
    norm_num
  · revert entry
    simp [threeSpecialists, oneEntry, Narrow, density, NdArray.flatten, NdArray.indices,
      NdArray.ofFn, InRange, List.range_succ]
    norm_num

end

end ScreenSync.Fl
