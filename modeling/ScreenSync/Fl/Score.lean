/-
**The drift score is a score.**

Nothing clamps what a report says of a device. The cosine stays between -1 and 1 by the
Cauchy–Schwarz inequality, the part of the signs that differ is a part, and the ratio of the norms
is cut off where it enters the score.

* `cosineSimilarity_mem`, `signFlipRatio_mem` — the ranges of the two metrics.
* `computeDriftScore_mem` — the mean of three numbers between 0 and 1, rounded.
* `drift_scores_bounded` — the ranges of everything that a detection reports.
-/

import Mathlib.Algebra.Order.Archimedean.Real.Basic
import ScreenSync.Fl.Detection
import ScreenSync.Foundation.Vector

namespace ScreenSync.Fl

open ScreenSync.Foundation ScreenSync.Shared

noncomputable section

variable {a b delta globalMean : NdArray ℝ}

/-! ### Arrays as vectors -/

theorem norm_flatten (a : NdArray ℝ) :
    norm Real.sqrt a.flatten = Vector.length (NdArray.indices a.shape) a.entry := by
  rw [norm, NdArray.flatten, List.map_map]
  rfl

theorem norm_nonneg (a : NdArray ℝ) : 0 ≤ norm Real.sqrt a.flatten := Real.sqrt_nonneg _

/-- Two arrays of one shape have their entries under the same indices. -/
theorem dot_flatten (same : b.shape = a.shape) :
    dot a.flatten b.flatten = Vector.inner (NdArray.indices a.shape) a.entry b.entry := by
  rw [dot, NdArray.flatten, NdArray.flatten, same, List.zipWith_map, List.zipWith_self]
  rfl

/-! ### The metrics -/

theorem cosineSimilarity_mem (same : globalMean.shape = delta.shape) :
    cosineSimilarity Real.sqrt delta globalMean ∈ Set.Icc (-1 : ℝ) 1 := by
  simp only [cosineSimilarity]
  split
  · constructor <;> norm_num
  · rw [dot_flatten same, norm_flatten, norm_flatten, same]
    exact Vector.inner_div_mem ..

/-- The signs of a delta that has entries. -/
theorem signFlipRatio_mem (filled : 0 < delta.flatten.length) (globalMean : NdArray ℝ) :
    signFlipRatio delta globalMean ∈ Set.Icc (0 : ℝ) 1 := by
  apply Vector.countP_div_mem
  · rw [List.length_zip]
    exact min_le_left _ _
  · rwa [List.length_map]

/-- **The score**: three components between 0 and 1. -/
theorem computeDriftScore_mem {cosineSim l2Ratio signFlips : ℝ}
    (cosine : cosineSim ∈ Set.Icc (-1 : ℝ) 1) (ratio : 0 ≤ l2Ratio)
    (flips : signFlips ∈ Set.Icc (0 : ℝ) 1) :
    computeDriftScore cosineSim l2Ratio signFlips ∈ Set.Icc (0 : ℝ) 1 := by
  have cut : min (l2Ratio / l2RatioCeiling) 1.0 ∈ Set.Icc (0 : ℝ) 1 := by
    have ceiling : (0 : ℝ) ≤ l2RatioCeiling := by norm_num [l2RatioCeiling]
    refine ⟨?_, ?_⟩
    · exact le_min (div_nonneg ratio ceiling) (by norm_num)
    · exact (min_le_right _ _).trans (by norm_num)
  have mean : (1.0 - (cosineSim + 1.0) / 2.0 + min (l2Ratio / l2RatioCeiling) 1.0 + signFlips) / 3 ∈
      Set.Icc (0 : ℝ) 1 := by
    obtain ⟨cosineLow, cosineHigh⟩ := cosine
    obtain ⟨cutLow, cutHigh⟩ := cut
    obtain ⟨flipsLow, flipsHigh⟩ := flips
    refine ⟨?_, ?_⟩
    · norm_num
      linarith
    · norm_num
      linarith
  exact roundTo_mem_unit 4 mean

/-! ### The reports -/

/-- The numbers of a report are in their ranges. -/
structure InRanges (report : DeviceDriftReport ℝ) : Prop where
  driftScore : report.driftScore ∈ Set.Icc (0 : ℝ) 1
  signFlipRatio : report.metrics.signFlipRatio ∈ Set.Icc (0 : ℝ) 1
  cosineSimilarity : report.metrics.cosineSimilarity ∈ Set.Icc (-1 : ℝ) 1

theorem meanNorm_nonneg (deltas : Dict (NdArray ℝ)) : 0 ≤ meanNorm Real.sqrt deltas := by
  refine div_nonneg (List.sum_nonneg fun length member => ?_) (Nat.cast_nonneg _)
  obtain ⟨entry, -, rfl⟩ := List.mem_map.mp member
  exact norm_nonneg entry.2

/-- **One report**, of a delta that has entries, against a mean of its shape. -/
theorem evaluateDevice_inRanges (same : globalMean.shape = delta.shape)
    (filled : 0 < delta.flatten.length) {meanNorm : ℝ} (mean : 0 ≤ meanNorm) (device : DeviceId)
    (roundNumber : Int) (evaluatedAt : UtcTime) :
    InRanges (evaluateDevice Real.sqrt device roundNumber delta globalMean meanNorm
      evaluatedAt) := by
  have cosine := cosineSimilarity_mem same
  have flips := signFlipRatio_mem filled globalMean
  have ratio : 0 ≤ norm Real.sqrt delta.flatten / (meanNorm + 1e-8) :=
    div_nonneg (norm_nonneg delta) (add_nonneg mean (by norm_num))
  exact ⟨computeDriftScore_mem cosine ratio flips, roundTo_mem_unit 4 flips,
    roundTo_mem_cosine 4 cosine⟩

/-- A shape without an empty axis has indices. -/
theorem flatten_length_pos (filled : 0 ∉ a.shape) : 0 < a.flatten.length := by
  rw [NdArray.flatten, List.length_map]
  exact List.length_pos_iff.mpr (NdArray.indices_ne_nil filled)

/-- **Every number that a detection reports is in its range**, over any two devices or more whose
deltas have one shape, and entries. -/
theorem drift_scores_bounded {Id : Type} (npy : NpyFormat ℝ)
    (order : RowOrder (FLModelUpdate Id npy.Bytes)) (clock : DeviceId → UtcTime)
    (state : FlState Id npy.Bytes) (roundNumber : Int) (shape : List Nat) (filled : 0 ∉ shape)
    (two : 2 ≤ (deviceDeltas npy (order.arrange (state.ofRound roundNumber))).length)
    (same : ∀ entry ∈ deviceDeltas npy (order.arrange (state.ofRound roundNumber)),
      entry.2.shape = shape) :
    ∃ summary flags, runDriftDetection npy Real.sqrt order clock state roundNumber =
        .ok (summary, flags) ∧
      summary.reports.map DeviceDriftReport.deviceId =
        (deviceDeltas npy (order.arrange (state.ofRound roundNumber))).map Prod.fst ∧
      ∀ report ∈ summary.reports, InRanges report := by
  obtain ⟨summary, flags, returned, reports⟩ := runDriftDetection_reports Real.sqrt clock
    two same
  refine ⟨summary, flags, returned, ?_, ?_⟩
  · rw [reports, List.map_map]
    rfl
  · rw [reports]
    refine List.forall_mem_map.mpr fun entry member => ?_
    have entryShape := same entry member
    refine evaluateDevice_inRanges entryShape.symm ?_ (meanNorm_nonneg _) entry.1 roundNumber _
    exact flatten_length_pos (entryShape ▸ filled)

/-! ### Two devices -/

/-- A tablet that submits a one, and a phone that submits a zero. -/
def pair : Dict (NdArray ℝ) := [("tablet", .ofFn [1] fun _ => 1), ("phone", .zeros [1])]

theorem pair_gathered :
    (deviceDeltas (.plain ℝ) ((roundOf (.plain ℝ) id pair 1).ofRound 1)).Perm pair :=
  (holds_roundOf id (by decide) 1).deviceDeltas_perm

theorem drift_scores_bounded_pair :
    ∃ summary flags, runDriftDetection (.plain ℝ) Real.sqrt .asStored (fun _ => someTime 9 0)
        (roundOf (.plain ℝ) id pair 1) 1 = .ok (summary, flags) ∧
      summary.reports.map DeviceDriftReport.deviceId =
        (deviceDeltas (.plain ℝ) ((roundOf (.plain ℝ) id pair 1).ofRound 1)).map Prod.fst ∧
      ∀ report ∈ summary.reports, InRanges report := by
  refine drift_scores_bounded (.plain ℝ) .asStored (fun _ => someTime 9 0)
    (roundOf (.plain ℝ) id pair 1) 1 [1] (by decide) pair_gathered.length_eq.ge ?_
  intro entry member
  rcases pair_gathered.mem_iff.mp member with _ | ⟨_, _ | ⟨_, none⟩⟩
  · rfl
  · rfl
  · cases none

end

end ScreenSync.Fl
