/-
**Real vectors over a list of indices.**

`inner` and `length` are those of the vectors `f` and `g` with an entry for every index of a list.

* `abs_inner_le` — the inner product is no greater than the product of the lengths.
* `length_smul` — a multiple is as many times as long.
* `inner_div_of_smul` — two vectors on one line have the cosine 1 or -1.
* `countP_div_mem` — the part of a list that passes a test lies between nothing and all of it.
-/

import Mathlib.Analysis.Real.Sqrt
import Mathlib.Algebra.BigOperators.Fin
import Mathlib.Data.Sign.Basic

namespace ScreenSync.Foundation.Vector

variable {ι : Type*} (index : List ι) (f g : ι → ℝ)

noncomputable section

/-- The inner product. -/
def inner : ℝ := (index.map fun i => f i * g i).sum

/-- The Euclidean length. -/
def length : ℝ := √(inner index f f)

/-! ### Products -/

theorem inner_self_nonneg : 0 ≤ inner index f f := by
  refine List.sum_nonneg fun product member => ?_
  obtain ⟨i, -, rfl⟩ := List.mem_map.mp member
  exact mul_self_nonneg (f i)

theorem inner_smul_left (c : ℝ) : inner index (fun i => c * f i) g = c * inner index f g := by
  rw [inner, inner, ← List.sum_map_mul_left]
  simp only [mul_assoc]

theorem inner_smul_right (c : ℝ) : inner index f (fun i => c * g i) = c * inner index f g := by
  rw [inner, inner, ← List.sum_map_mul_left]
  simp only [mul_left_comm]

theorem inner_neg_left : inner index (fun i => -f i) g = -inner index f g := by
  simpa using inner_smul_left index f g (-1)

/-! ### Lengths -/

theorem length_nonneg : 0 ≤ length index f := Real.sqrt_nonneg _

theorem length_mul_self : length index f * length index f = inner index f f :=
  Real.mul_self_sqrt (inner_self_nonneg index f)

/-- **A multiple is as many times as long.** -/
theorem length_smul (c : ℝ) : length index (fun i => c * f i) = |c| * length index f := by
  rw [length, inner_smul_left, inner_smul_right, ← mul_assoc,
    Real.sqrt_mul (mul_self_nonneg c), Real.sqrt_mul_self_eq_abs, length]

theorem length_neg : length index (fun i => -f i) = length index f := by
  simpa using length_smul index f (-1)

/-- One side of the Cauchy–Schwarz inequality. -/
theorem inner_le : inner index f g ≤ length index f * length index g := by
  have bound := Real.sum_mul_le_sqrt_mul_sqrt Finset.univ
    (fun k : Fin index.length => f index[k.1]) (fun k : Fin index.length => g index[k.1])
  have sums : ∀ h : ι → ℝ, (∑ k : Fin index.length, h index[k.1]) = (index.map h).sum :=
    fun h => Fin.sum_univ_fun_getElem index h
  simp only [sq] at bound
  rw [sums fun i => f i * g i, sums fun i => f i * f i, sums fun i => g i * g i] at bound
  exact bound

/-- **The inner product is no greater than the product of the lengths.** -/
theorem abs_inner_le : |inner index f g| ≤ length index f * length index g := by
  refine abs_le.mpr ⟨?_, inner_le index f g⟩
  have opposite := inner_le index (fun i => -f i) g
  rw [inner_neg_left, length_neg] at opposite
  exact neg_le.mp opposite

/-- The cosine of two vectors lies between -1 and 1. -/
theorem inner_div_mem :
    inner index f g / (length index f * length index g) ∈ Set.Icc (-1 : ℝ) 1 := by
  have product : 0 ≤ length index f * length index g :=
    mul_nonneg (length_nonneg index f) (length_nonneg index g)
  have bound : |inner index f g / (length index f * length index g)| ≤ 1 := by
    rw [abs_div, abs_of_nonneg product]
    exact div_le_one_of_le₀ (abs_inner_le index f g) product
  exact abs_le.mp bound

/-- **The cosine of a vector and a multiple of it** is the sign of the factor. -/
theorem inner_div_of_smul (c : ℝ) (long : 0 < length index f) :
    inner index f (fun i => c * f i) / (length index f * length index fun i => c * f i) =
      c / |c| := by
  rw [inner_smul_right, length_smul, ← length_mul_self, mul_left_comm (length index f) |c|,
    mul_div_mul_right _ _ (mul_pos long long).ne']

/-! ### Parts of a list -/

/-- The part of a list that passes a test. -/
theorem countP_div_mem {α : Type*} (test : α → Bool) {list : List α} {whole : ℕ}
    (fits : list.length ≤ whole) (some_element : 0 < whole) :
    (list.countP test : ℝ) / (whole : ℝ) ∈ Set.Icc (0 : ℝ) 1 := by
  have positive : (0 : ℝ) < (whole : ℝ) := by exact_mod_cast some_element
  refine ⟨?_, ?_⟩
  · exact div_nonneg (Nat.cast_nonneg _) positive.le
  · rw [div_le_one positive]
    exact_mod_cast (List.countP_le_length).trans fits

end

end ScreenSync.Foundation.Vector
