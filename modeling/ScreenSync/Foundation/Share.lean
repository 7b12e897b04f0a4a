/-
**Whole numbers out of exact fractions.**

* `truncate` — rounding towards zero, the integer conversion of most languages.
* `roundTo` — rounding to a number of decimal places, halves to the even neighbour; what lies
  between whole numbers stays there (`roundTo_mem`).
* `truncate_share` — the share of a whole pool is a quotient of integers.
* `sum_truncate_shares_le` — a pool cut up in proportion to weights, every share truncated: the
  shares together never exceed the pool, whatever part of the total weight they are for.
* `sum_quotients` — what truncation loses, as a sum of remainders.
* `le_sum_quotients` — every round of the pool that the whole weight divides is handed out in full.
* `sum_truncate_le`, `truncate_sum_le` — an amount cut into pieces, every piece truncated: less than
  a unit is lost at every cut.
-/

import Mathlib.Algebra.Order.BigOperators.Group.List
import Mathlib.Algebra.Order.Field.Basic
import Mathlib.Algebra.Order.Floor.Ring
import Mathlib.Algebra.BigOperators.Ring.Finset
import Mathlib.Data.Rat.Floor
import Mathlib.Tactic.Linarith
import Mathlib.Tactic.Ring

namespace ScreenSync.Foundation

section Rounding

variable {K : Type*} [Field K] [LinearOrder K] [FloorRing K]

/-- Rounding towards zero. -/
def truncate (x : K) : ℤ := if 0 ≤ x then ⌊x⌋ else ⌈x⌉

theorem truncate_of_nonneg {x : K} (nonneg : 0 ≤ x) : truncate x = ⌊x⌋ := if_pos nonneg

/-- Rounding towards zero keeps the order. -/
theorem truncate_mono [IsStrictOrderedRing K] {x y : K} (le : x ≤ y) : truncate x ≤ truncate y := by
  unfold truncate
  by_cases below : 0 ≤ x
  · rw [if_pos below, if_pos (below.trans le)]
    exact Int.floor_mono le
  · rw [if_neg below]
    split
    · rename_i above
      have nonpos : ⌈x⌉ ≤ 0 := Int.ceil_le.mpr (by simpa using (not_le.mp below).le)
      exact nonpos.trans (Int.floor_nonneg.mpr above)
    · exact Int.ceil_mono le

/-- Rounding to the nearest integer, halves to the even one. -/
def roundHalfEven (x : K) : ℤ :=
  if x - ⌊x⌋ < 1 / 2 then ⌊x⌋
  else if 1 / 2 < x - ⌊x⌋ then ⌊x⌋ + 1
  else if ⌊x⌋ % 2 = 0 then ⌊x⌋ else ⌊x⌋ + 1

/-- Rounding to `places` decimal places. -/
def roundTo (places : ℕ) (x : K) : K := (roundHalfEven (x * 10 ^ places) : K) / 10 ^ places

theorem floor_le_roundHalfEven (x : K) : ⌊x⌋ ≤ roundHalfEven x := by
  unfold roundHalfEven
  split_ifs <;> omega

theorem roundHalfEven_le_floor (x : K) : roundHalfEven x ≤ ⌊x⌋ + 1 := by
  unfold roundHalfEven
  split_ifs <;> omega

section Order

variable [IsStrictOrderedRing K] {x y : K}

@[simp] theorem roundHalfEven_intCast (n : ℤ) : roundHalfEven (n : K) = n := by
  rw [roundHalfEven, Int.floor_intCast, sub_self, if_pos one_half_pos]

/-- Rounding keeps the order. -/
theorem roundHalfEven_mono (le : x ≤ y) : roundHalfEven x ≤ roundHalfEven y := by
  rcases (Int.floor_mono le).eq_or_lt with same | below
  · -- in one unit interval the fractional parts decide
    unfold roundHalfEven
    rw [same]
    have fractions : x - ⌊y⌋ ≤ y - ⌊y⌋ := sub_le_sub_right le _
    split_ifs with first second third fourth fifth sixth <;> try omega
    all_goals linarith
  · exact (roundHalfEven_le_floor x).trans (le_trans below (floor_le_roundHalfEven y))

theorem roundTo_mono (places : ℕ) (le : x ≤ y) : roundTo places x ≤ roundTo places y := by
  have unit : (0 : K) < 10 ^ places := by positivity
  have scaled := roundHalfEven_mono (mul_le_mul_of_nonneg_right le unit.le)
  exact div_le_div_of_nonneg_right (by exact_mod_cast scaled) unit.le

/-- A whole number is left as it is. -/
theorem roundTo_intCast (places : ℕ) (n : ℤ) : roundTo places (n : K) = n := by
  have unit : (10 : K) ^ places ≠ 0 := by positivity
  have whole : (n : K) * 10 ^ places = ((n * 10 ^ places : ℤ) : K) := by push_cast; rfl
  rw [roundTo, whole, roundHalfEven_intCast, ← whole, mul_div_cancel_right₀ _ unit]

/-- **What lies between whole numbers stays there when it is rounded.** -/
theorem roundTo_mem (places : ℕ) (low high : ℤ) (inside : x ∈ Set.Icc (low : K) high) :
    roundTo places x ∈ Set.Icc (low : K) high := by
  refine ⟨?_, ?_⟩
  · exact (roundTo_intCast places low).symm.trans_le (roundTo_mono places inside.1)
  · exact (roundTo_mono places inside.2).trans_eq (roundTo_intCast places high)

theorem roundTo_mem_unit (places : ℕ) (inside : x ∈ Set.Icc (0 : K) 1) :
    roundTo places x ∈ Set.Icc (0 : K) 1 := by
  have rounded := roundTo_mem places 0 1 (x := x) (by simpa using inside)
  simpa using rounded

theorem roundTo_mem_cosine (places : ℕ) (inside : x ∈ Set.Icc (-1 : K) 1) :
    roundTo places x ∈ Set.Icc (-1 : K) 1 := by
  have rounded := roundTo_mem places (-1) 1 (x := x) (by simpa using inside)
  simpa using rounded

end Order

end Rounding

section Shares

variable {K : Type*} [Field K] [LinearOrder K] [IsStrictOrderedRing K] [FloorRing K]

theorem share_nonneg {pool : ℤ} {weight total : K} (amount : 0 ≤ pool) (nonneg : 0 ≤ weight)
    (positive : 0 < total) : 0 ≤ (pool : K) * (weight / total) :=
  mul_nonneg (by exact_mod_cast amount) (div_nonneg nonneg positive.le)

/-- **Truncated shares never exceed the pool.** -/
theorem sum_truncate_shares_le {ι : Type*} {pool : ℤ} {total : K} (weight : ι → K)
    (holders : List ι)
    (amount : 0 ≤ pool) (nonneg : ∀ i ∈ holders, 0 ≤ weight i) (positive : 0 < total)
    (covered : (holders.map weight).sum ≤ total) :
    (holders.map fun i => truncate ((pool : K) * (weight i / total))).sum ≤ pool := by
  have each : ∀ i ∈ holders, (truncate ((pool : K) * (weight i / total)) : K) ≤
      (pool : K) / total * weight i := by
    intro i member
    rw [truncate_of_nonneg (share_nonneg amount (nonneg i member) positive)]
    refine (Int.floor_le _).trans_eq ?_
    ring
  have whole : ((holders.map fun i => truncate ((pool : K) * (weight i / total))).sum : K) ≤ pool :=
    calc ((holders.map fun i => truncate ((pool : K) * (weight i / total))).sum : K)
        = (holders.map fun i => (truncate ((pool : K) * (weight i / total)) : K)).sum := by
          rw [Int.cast_list_sum, List.map_map]
          rfl
      _ ≤ (holders.map fun i => (pool : K) / total * weight i).sum := List.sum_le_sum each
      _ = (pool : K) / total * (holders.map weight).sum := List.sum_map_mul_left _ _ _
      _ ≤ (pool : K) / total * total :=
          mul_le_mul_of_nonneg_left covered (div_nonneg (by exact_mod_cast amount) positive.le)
      _ = pool := div_mul_cancel₀ _ positive.ne'
  exact_mod_cast whole

end Shares

/-! ### Pieces of an amount -/

section Pieces

variable {K : Type*} [Field K] [LinearOrder K] [IsStrictOrderedRing K] [FloorRing K]

theorem sum_floor_le (pieces : List K) : (pieces.map Int.floor).sum ≤ ⌊pieces.sum⌋ := by
  induction pieces with
  | nil => simp
  | cons first rest ih =>
    simp only [List.map_cons, List.sum_cons]
    calc ⌊first⌋ + (rest.map Int.floor).sum ≤ ⌊first⌋ + ⌊rest.sum⌋ := by
          exact add_le_add_right ih _
      _ ≤ ⌊first + rest.sum⌋ := Int.le_floor_add first rest.sum

/-- A cut loses one unit at most. -/
theorem floor_sum_le (first : K) (rest : List K) :
    ⌊(first :: rest).sum⌋ ≤ ((first :: rest).map Int.floor).sum + rest.length := by
  induction rest generalizing first with
  | nil => simp
  | cons second rest ih =>
    have cut := Int.le_floor_add_floor first (second :: rest).sum
    have fewer := ih second
    simp only [List.map_cons, List.sum_cons, List.length_cons, Nat.cast_add, Nat.cast_one]
      at cut fewer ⊢
    linarith

omit [IsStrictOrderedRing K] in
theorem map_truncate {pieces : List K} (nonneg : ∀ piece ∈ pieces, 0 ≤ piece) :
    pieces.map truncate = pieces.map Int.floor :=
  List.map_congr_left fun piece member => truncate_of_nonneg (nonneg piece member)

/-- **Truncated pieces never exceed the whole.** -/
theorem sum_truncate_le {pieces : List K} (nonneg : ∀ piece ∈ pieces, 0 ≤ piece) :
    (pieces.map truncate).sum ≤ truncate pieces.sum := by
  rw [map_truncate nonneg, truncate_of_nonneg (List.sum_nonneg nonneg)]
  exact sum_floor_le pieces

/-- **The whole exceeds the truncated pieces** by the number of cuts at most. -/
theorem truncate_sum_le {pieces : List K} (nonneg : ∀ piece ∈ pieces, 0 ≤ piece)
    (some_piece : pieces ≠ []) :
    truncate pieces.sum ≤ (pieces.map truncate).sum + (pieces.length - 1 : ℤ) := by
  rw [map_truncate nonneg, truncate_of_nonneg (List.sum_nonneg nonneg)]
  cases pieces with
  | nil => exact absurd rfl some_piece
  | cons first rest =>
    have cuts := floor_sum_le first rest
    rw [List.length_cons, Nat.cast_add, Nat.cast_one, add_sub_cancel_right]
    exact cuts

end Pieces

/-! ### Shares as quotients -/

section Quotients

variable {ι : Type*} (pool : ℤ) (total : ℕ) (weight : ι → ℕ)

/-- **The share of a whole pool** is a quotient of integers. -/
theorem truncate_share {pool : ℤ} (amount : 0 ≤ pool) (weight total : ℕ) :
    truncate ((pool : ℚ) * ((weight : ℚ) / (total : ℚ))) = pool * weight / total := by
  have fraction : (pool : ℚ) * ((weight : ℚ) / (total : ℚ)) =
      ((pool * weight : ℤ) : ℚ) / total := by
    push_cast
    ring
  have nonneg : (0 : ℚ) ≤ ((pool * weight : ℤ) : ℚ) / total := by
    have product : 0 ≤ pool * (weight : ℤ) := mul_nonneg amount (Int.natCast_nonneg _)
    exact div_nonneg (by exact_mod_cast product) (Nat.cast_nonneg _)
  rw [fraction, truncate_of_nonneg nonneg, Rat.floor_intCast_div_natCast]

/-- Quotients and remainders add up. -/
theorem sum_quotients (holders : List ι) :
    total * (holders.map fun i => pool * weight i / total).sum +
        (holders.map fun i => pool * weight i % total).sum =
      pool * (holders.map weight).sum := by
  induction holders with
  | nil => simp
  | cons first rest ih =>
    have here := Int.mul_ediv_add_emod (pool * weight first) total
    simp only [List.map_cons, List.sum_cons, Nat.cast_add, mul_add]
    linarith

/-- **Whole rounds are handed out in full.** -/
theorem le_sum_quotients {total : ℕ} (holders : List ι) (positive : 0 < total)
    (covered : (holders.map weight).sum = total) :
    total * (pool / total) ≤ (holders.map fun i => pool * weight i / total).sum := by
  have each : ∀ i ∈ holders, pool / total * weight i ≤ pool * weight i / (total : ℤ) := by
    intro i _
    refine Int.le_ediv_of_mul_le (by exact_mod_cast positive) ?_
    have round : pool / (total : ℤ) * total ≤ pool :=
      Int.ediv_mul_le _ (by exact_mod_cast positive.ne')
    calc pool / total * weight i * total = pool / total * total * weight i := by ring
      _ ≤ pool * weight i := mul_le_mul_of_nonneg_right round (Int.natCast_nonneg _)
  calc total * (pool / total) = pool / total * ((holders.map weight).sum : ℕ) := by
        rw [covered, mul_comm]
    _ = (holders.map fun i => pool / total * (weight i : ℤ)).sum := by
        rw [List.sum_map_mul_left, Nat.cast_list_sum, List.map_map]
        rfl
    _ ≤ _ := List.sum_le_sum each

end Quotients

end ScreenSync.Foundation
