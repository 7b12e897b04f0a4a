/-
**When an explosion is out of the ordinary.**

The norm of a delta is compared with three times the mean of all norms, its own included. The ratio
is therefore less than the number of the devices, and a round of three, which is a quorum, leaves
no room for an outlier.

* `l2_ratio_lt` — the ratio of a norm to the mean is less than the number of devices.
* `explosion_caught` — among four devices or more, twelve times every other norm is enough.
* `explosions_caught_iff` — some factor is enough exactly in rounds that exceed the quorum.
-/

import ScreenSync.Fl.Score

namespace ScreenSync.Fl

open ScreenSync.Foundation ScreenSync.Shared

noncomputable section

variable {deltas : Dict (NdArray ℝ)} {entry : DeviceId × NdArray ℝ} {shape : List Nat}
  {clock : DeviceId → UtcTime} {roundNumber : Int}

/-! ### The ratio of the norms -/

theorem denominator_pos (deltas : Dict (NdArray ℝ)) : 0 < meanNorm Real.sqrt deltas + 1e-8 :=
  add_pos_of_nonneg_of_pos (meanNorm_nonneg deltas) (by norm_num)

/-- The ratio is above the ceiling if the norm is above three times the mean. -/
theorem l2_above_iff {own : ℝ} :
    l2RatioCeiling < own / (meanNorm Real.sqrt deltas + 1e-8) ↔
      3 * (meanNorm Real.sqrt deltas + 1e-8) < own := by
  have ceiling : (l2RatioCeiling : ℝ) = 3 := by norm_num [l2RatioCeiling]
  rw [ceiling, lt_div_iff₀ (denominator_pos deltas)]

/-- When the detector fires for a device. -/
theorem l2_fires_iff : "l2_magnitude_outlier" ∈
      (reportOf Real.sqrt clock roundNumber shape deltas entry).detectorsFired ↔
    3 * (meanNorm Real.sqrt deltas + 1e-8) < norm Real.sqrt entry.2.flatten := by
  rw [← l2_above_iff]
  simp only [reportOf, evaluateDevice, List.mem_append]
  refine ⟨fun fired => ?_, fun above => ?_⟩
  · rcases fired with (fired | fired) | fired
    · split at fired
      · exact absurd (List.mem_singleton.mp fired) (by decide)
      · cases fired
    · split at fired
      · assumption
      · cases fired
    · split at fired
      · exact absurd (List.mem_singleton.mp fired) (by decide)
      · cases fired
  · rw [if_pos above]
    exact .inl (.inr (List.mem_singleton_self _))

theorem meanNorm_mul_length (member : entry ∈ deltas) :
    meanNorm Real.sqrt deltas * deltas.length =
      (deltas.map fun entry => norm Real.sqrt entry.2.flatten).sum := by
  have some_device : (deltas.length : ℝ) ≠ 0 := by
    exact_mod_cast (List.length_pos_of_mem member).ne'
  rw [meanNorm, div_mul_cancel₀ _ some_device]

/-- **The ratio is less than the number of devices.** -/
theorem l2_ratio_lt (member : entry ∈ deltas) :
    norm Real.sqrt entry.2.flatten < deltas.length * (meanNorm Real.sqrt deltas + 1e-8) := by
  have some_device : (0 : ℝ) < deltas.length := by
    exact_mod_cast List.length_pos_of_mem member
  have one : norm Real.sqrt entry.2.flatten ≤
      (deltas.map fun entry => norm Real.sqrt entry.2.flatten).sum := by
    refine List.single_le_sum (fun length inside => ?_) _
      (List.mem_map_of_mem (f := fun entry => norm Real.sqrt entry.2.flatten) member)
    obtain ⟨other, -, rfl⟩ := List.mem_map.mp inside
    exact norm_nonneg other.2
  rw [← meanNorm_mul_length member] at one
  linarith

/-- **Among three devices or fewer nothing fires.** -/
theorem explosion_missed (few : deltas.length ≤ 3) (member : entry ∈ deltas) :
    "l2_magnitude_outlier" ∉
      (reportOf Real.sqrt clock roundNumber shape deltas entry).detectorsFired := by
  rw [l2_fires_iff, not_lt]
  have count : (deltas.length : ℝ) ≤ 3 := by exact_mod_cast few
  exact (l2_ratio_lt member).le.trans
    (mul_le_mul_of_nonneg_right count (denominator_pos deltas).le)

/-! ### A delta that dominates the others -/

/-- The norms of some devices, each at most a part of the greatest. -/
theorem sum_norms_le {most : ℝ} (bounded : ∀ entry ∈ deltas,
    norm Real.sqrt entry.2.flatten ≤ most) :
    (deltas.map fun entry => norm Real.sqrt entry.2.flatten).sum ≤ deltas.length * most := by
  have bound := List.sum_le_card_nsmul (deltas.map fun entry => norm Real.sqrt entry.2.flatten)
    most (List.forall_mem_map.mpr bounded)
  rwa [List.length_map, nsmul_eq_mul] at bound

/-- **Among four devices or more**, a delta twelve times as long as every other one fires the
detector. -/
theorem explosion_caught (distinct : (deltas.map Prod.fst).Nodup) (many : 4 ≤ deltas.length)
    (member : entry ∈ deltas) (large : 1 ≤ norm Real.sqrt entry.2.flatten)
    (dominates : ∀ other ∈ deltas, other.1 ≠ entry.1 →
      12 * norm Real.sqrt other.2.flatten ≤ norm Real.sqrt entry.2.flatten) :
    "l2_magnitude_outlier" ∈
      (reportOf Real.sqrt clock roundNumber shape deltas entry).detectorsFired := by
  rw [l2_fires_iff]
  have whole := meanNorm_mul_length member
  obtain ⟨before, after, rfl⟩ := List.append_of_mem member
  rw [List.map_append, List.map_cons, List.nodup_middle, List.nodup_cons,
    ← List.map_append] at distinct
  have others : ∀ other ∈ before ++ after,
      norm Real.sqrt other.2.flatten ≤ norm Real.sqrt entry.2.flatten / 12 := by
    intro other inside
    have apart : other.1 ≠ entry.1 := fun same =>
      distinct.1 (same ▸ List.mem_map_of_mem inside)
    have listed : other ∈ before ++ entry :: after :=
      (List.mem_append.mp inside).elim (List.mem_append_left _)
        fun later => List.mem_append_right _ (List.mem_cons_of_mem _ later)
    linarith [dominates other listed apart]
  have rest := sum_norms_le others
  have count : ((before ++ entry :: after).length : ℝ) = (before ++ after).length + 1 := by
    rw [List.length_append, List.length_cons, List.length_append]
    push_cast
    ring
  have many' : (3 : ℝ) ≤ (before ++ after).length := by
    have counted : 4 ≤ ((before ++ entry :: after).length : ℝ) := by exact_mod_cast many
    linarith
  rw [count, List.map_append, List.sum_append, List.map_cons, List.sum_cons] at whole
  rw [List.map_append, List.sum_append] at rest
  generalize ((before ++ after).length : ℝ) = number at whole rest many'
  generalize norm Real.sqrt entry.2.flatten = own at large whole rest
  generalize meanNorm Real.sqrt (before ++ entry :: after) = mean at whole
  -- the mean is at most 5/16 of the norm
  have mean_le : mean * (number + 1) ≤ own * (5 / 16) * (number + 1) := by
    nlinarith
  have mean_le' := le_of_mul_le_mul_right mean_le (by linarith)
  norm_num
  linarith

/-! ### Rounds of a given size -/

/-- In every round of so many devices, the detector fires for a delta whose norm is 1 or more, and
at least the factor times the norm of every other delta. -/
def CatchesExplosions {Id : Type} (npy : NpyFormat ℝ)
    (order : RowOrder (FLModelUpdate Id npy.Bytes)) (clock : DeviceId → UtcTime) (devices : Nat)
    (factor : ℝ) : Prop :=
  ∀ (state : FlState Id npy.Bytes) (roundNumber : Int) (shape : List Nat)
    (deltas : Dict (NdArray ℝ)), Holds npy (state.ofRound roundNumber) deltas →
    deltas.length = devices → (∀ entry ∈ deltas, entry.2.shape = shape) →
    ∀ entry ∈ deltas, 1 ≤ norm Real.sqrt entry.2.flatten →
    (∀ other ∈ deltas, other.1 ≠ entry.1 →
      factor * norm Real.sqrt other.2.flatten ≤ norm Real.sqrt entry.2.flatten) →
    ∃ summary flags report, runDriftDetection npy Real.sqrt order clock state roundNumber =
        .ok (summary, flags) ∧
      report ∈ summary.reports ∧ report.deviceId = entry.1 ∧
      "l2_magnitude_outlier" ∈ report.detectorsFired

/-- A scalar one. -/
def oneDelta : NdArray ℝ := .ofFn [] fun _ => 1

theorem norm_oneDelta : norm Real.sqrt oneDelta.flatten = 1 := by
  have entries : oneDelta.flatten = [1] := rfl
  rw [entries, norm]
  simp

theorem norm_zeros (shape : List Nat) :
    norm Real.sqrt (NdArray.zeros shape : NdArray ℝ).flatten = 0 := by
  rw [norm_flatten, Vector.length, Vector.inner]
  simp

/-- One device explodes, and the two others submit nothing but zeros. -/
def explodedTablet : Dict (NdArray ℝ) :=
  [("tablet", oneDelta), ("phone", .zeros []), ("laptop", .zeros [])]

/-- **No factor is enough among three devices.** -/
theorem three_catch_nothing {Id : Type} [Inhabited Id] (npy : NpyFormat ℝ)
    (order : RowOrder (FLModelUpdate Id npy.Bytes)) (clock : DeviceId → UtcTime) (factor : ℝ) :
    ¬ CatchesExplosions npy order clock 3 factor := by
  intro catches
  have holds : Holds npy ((roundOf npy (fun _ => (default : Id)) explodedTablet 1).ofRound 1)
      explodedTablet := holds_roundOf _ (by decide) 1
  have shapes : ∀ entry ∈ explodedTablet, entry.2.shape = [] := by
    simp [explodedTablet, oneDelta]
  obtain ⟨summary, flags, report, returned, member, -, fired⟩ :=
    catches _ 1 [] explodedTablet holds rfl shapes ("tablet", oneDelta) List.mem_cons_self
      norm_oneDelta.ge (by simp [explodedTablet, norm_zeros, norm_oneDelta])
  have reports := holds.reports_of_returned (by decide) shapes returned
  obtain ⟨entry, inside, rfl⟩ := List.mem_map.mp (reports.mem_iff.mp member)
  exact explosion_missed le_rfl inside fired

theorem four_catch_explosions {Id : Type} (npy : NpyFormat ℝ)
    (order : RowOrder (FLModelUpdate Id npy.Bytes)) (clock : DeviceId → UtcTime) {devices : Nat}
    (many : 4 ≤ devices) : CatchesExplosions npy order clock devices 12 := by
  rintro state roundNumber shape deltas holds rfl same entry member large dominates
  obtain ⟨summary, flags, returned, reports⟩ := holds.reports Real.sqrt order clock
    (le_trans (by decide) many) same
  refine ⟨summary, flags, reportOf Real.sqrt clock roundNumber shape deltas entry, returned,
    reports.mem_iff.mpr (List.mem_map_of_mem member), rfl, ?_⟩
  exact explosion_caught holds.distinct many member large dominates

/-- **Some factor is enough exactly in rounds of more devices than the quorum.** -/
theorem explosions_caught_iff {Id : Type} [Inhabited Id] (npy : NpyFormat ℝ)
    (order : RowOrder (FLModelUpdate Id npy.Bytes)) (clock : DeviceId → UtcTime) (devices : Nat)
    (quorum : minDevicesPerRound ≤ devices) :
    (∃ factor, CatchesExplosions npy order clock devices factor) ↔
      minDevicesPerRound < devices := by
  refine ⟨fun caught => ?_, fun more => ?_⟩
  · obtain ⟨factor, catches⟩ := caught
    apply lt_of_le_of_ne quorum
    rintro rfl
    exact three_catch_nothing npy order clock factor catches
  · exact ⟨12, four_catch_explosions npy order clock more⟩

theorem explosions_caught_iff_four :
    (∃ factor, CatchesExplosions (.plain ℝ) (.asStored : RowOrder (FLModelUpdate String _))
        (fun _ => someTime 9 0) 4 factor) ↔ minDevicesPerRound < 4 :=
  explosions_caught_iff (.plain ℝ) .asStored (fun _ => someTime 9 0) 4 (by decide)

/-- A quorum of three has no such factor. -/
theorem explosion_unseen_by_quorum :
    ¬ ∀ devices, minDevicesPerRound ≤ devices → ∃ factor, CatchesExplosions (.plain ℝ)
      (.asStored : RowOrder (FLModelUpdate String _)) (fun _ => someTime 9 0) devices factor := by
  intro always
  obtain ⟨factor, catches⟩ := always 3 le_rfl
  exact three_catch_nothing (.plain ℝ) .asStored (fun _ => someTime 9 0) factor catches

end

end ScreenSync.Fl
