/-
**Vectors with nothing in common.**

The vectors of a list are apart if no two of them have an entry that is not zero at one index. Their
sum is then each of them where that one is not zero, and its square is the sum of the squares.

* `Apart.inner_total` — a vector's product with the sum is its square.
* `Apart.inner_total_self` — the square of the sum.
* `Apart.support_le` — the vectors have no more entries that are not zero than their sum.
* `countP_large_le` — two parts of a whole at most are greater than a third.
-/

import ScreenSync.Foundation.Vector

namespace ScreenSync.Foundation.Vector

variable {ι : Type*} {index : List ι} {vectors : List (ι → ℝ)} {f g : ι → ℝ} {i : ι}

noncomputable section

/-- No two vectors of the list share an index. -/
def Apart (vectors : List (ι → ℝ)) : Prop := vectors.Pairwise fun f g => ∀ i, f i = 0 ∨ g i = 0

/-- The sum of the vectors. -/
def total (vectors : List (ι → ℝ)) (i : ι) : ℝ := (vectors.map fun f => f i).sum

theorem total_cons : total (f :: vectors) i = f i + total vectors i := List.sum_cons

theorem total_eq_zero (none : ∀ g ∈ vectors, g i = 0) : total vectors i = 0 := by
  refine List.sum_eq_zero fun entry member => ?_
  obtain ⟨g, inside, rfl⟩ := List.mem_map.mp member
  exact none g inside

/-- **The sum is a vector** wherever this one is not zero. -/
theorem Apart.total_eq (apart : Apart vectors) (member : f ∈ vectors) (here : f i ≠ 0) :
    total vectors i = f i := by
  induction vectors with
  | nil => cases member
  | cons first rest ih =>
    obtain ⟨head, tail⟩ := List.pairwise_cons.mp apart
    rw [total_cons]
    rcases List.mem_cons.mp member with rfl | inside
    · rw [total_eq_zero fun g other => (head g other i).resolve_left here, add_zero]
    · rw [(head f inside i).resolve_right here, zero_add]
      exact ih tail inside

/-- A vector's product with the sum is its square. -/
theorem Apart.inner_total (apart : Apart vectors) (member : f ∈ vectors) :
    inner index f (total vectors) = inner index f f := by
  refine congrArg List.sum (List.map_congr_left fun i _ => ?_)
  by_cases here : f i = 0
  · rw [here, zero_mul, zero_mul]
  · rw [apart.total_eq member here]

/-- **The square of the sum** is the sum of the squares. -/
theorem Apart.inner_total_self (apart : Apart vectors) :
    inner index (total vectors) (total vectors) =
      (vectors.map fun f => inner index f f).sum := by
  induction vectors with
  | nil =>
    refine List.sum_eq_zero fun product member => ?_
    obtain ⟨i, -, rfl⟩ := List.mem_map.mp member
    exact mul_zero _
  | cons first rest ih =>
    obtain ⟨head, tail⟩ := List.pairwise_cons.mp apart
    rw [List.map_cons, List.sum_cons, ← ih tail]
    unfold inner
    rw [← List.sum_map_add]
    refine congrArg List.sum (List.map_congr_left fun i _ => ?_)
    rw [total_cons]
    by_cases here : first i = 0
    · rw [here, zero_add, zero_mul, zero_add]
    · rw [total_eq_zero fun g other => (head g other i).resolve_left here, add_zero, mul_zero,
        add_zero]

/-- Two tests that never pass together, under a third one. -/
theorem countP_add_le {p q r : ι → Prop} [DecidablePred p] [DecidablePred q] [DecidablePred r]
    (never : ∀ i, p i → ¬ q i) (first : ∀ i, p i → r i) (second : ∀ i, q i → r i) :
    index.countP (fun i => p i) + index.countP (fun i => q i) ≤ index.countP fun i => r i := by
  induction index with
  | nil => exact le_rfl
  | cons i index ih =>
    simp only [List.countP_cons, decide_eq_true_eq]
    have never := never i
    have first := first i
    have second := second i
    split <;> split <;> split <;> first | omega | (exfalso; tauto)

/-- **The vectors share the indices**: what they have is what their sum has. -/
theorem Apart.support_le (apart : Apart vectors) :
    (vectors.map fun f => index.countP fun i => f i ≠ 0).sum ≤
      index.countP fun i => total vectors i ≠ 0 := by
  induction vectors with
  | nil => exact Nat.zero_le _
  | cons first rest ih =>
    obtain ⟨head, tail⟩ := List.pairwise_cons.mp apart
    rw [List.map_cons, List.sum_cons]
    refine (Nat.add_le_add_left (ih tail) _).trans (countP_add_le ?_ ?_ ?_)
    · intro i here there
      exact there (total_eq_zero fun g other => (head g other i).resolve_left here)
    · intro i here
      rw [apart.total_eq List.mem_cons_self here]
      exact here
    · intro i there
      rw [total_cons]
      by_cases here : first i = 0
      · rw [here, zero_add]
        exact there
      · exact absurd (total_eq_zero fun g other => (head g other i).resolve_left here) there

/-! ### Parts of a whole -/

section Parts

variable {α : Type*} {list : List α}

/-- At most two of some parts of a whole are a third of it, and more. -/
theorem countP_large_le {part : α → ℝ} {whole large : ℝ}
    (parts : ∀ a ∈ list, 0 ≤ part a) (sum : (list.map part).sum ≤ whole) (third : whole < 3 * large)
    (filled : 0 < whole) : list.countP (fun a => large ≤ part a) ≤ 2 := by
  have bound : ∀ list : List α, (∀ a ∈ list, 0 ≤ part a) →
      (list.countP (fun a => large ≤ part a) : ℝ) * large ≤ (list.map part).sum := by
    intro list parts
    induction list with
    | nil => simp
    | cons a list ih =>
      have rest := ih fun b member => parts b (List.mem_cons_of_mem a member)
      have own := parts a List.mem_cons_self
      rw [List.countP_cons, List.map_cons, List.sum_cons]
      by_cases above : large ≤ part a
      · simp only [above, decide_true, if_true]
        push_cast
        linarith
      · simp only [above, decide_false, Bool.false_eq_true, if_false, add_zero]
        linarith
  by_contra many
  have three : (3 : ℝ) ≤ (list.countP (fun a => large ≤ part a) : ℝ) := by
    exact_mod_cast not_le.mp many
  have positive : 0 < large := by linarith
  have product := mul_le_mul_of_nonneg_right three positive.le
  linarith [bound list parts]

/-- Elements that pass the first test pass one of two others. -/
theorem countP_le_add {first second third : α → Bool}
    (either : ∀ a ∈ list, first a = true → second a = true ∨ third a = true) :
    list.countP first ≤ list.countP second + list.countP third := by
  induction list with
  | nil => exact le_rfl
  | cons a list ih =>
    have rest := ih fun b member => either b (List.mem_cons_of_mem a member)
    have own := either a List.mem_cons_self
    rw [List.countP_cons, List.countP_cons, List.countP_cons]
    by_cases passed : first a = true
    · rcases own passed with here | here
      · rw [if_pos passed, if_pos here]
        omega
      · rw [if_pos passed, if_pos here]
        omega
    · rw [if_neg passed]
      omega

end Parts

end

end ScreenSync.Foundation.Vector
