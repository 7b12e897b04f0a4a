/-
**A majority against one.**

All devices but one submit the same delta, and one submits a multiple of it in the opposite
direction. The mean that the detection compares with is the mean of all of them; if the one device
outweighs the others the mean points its way, and it is the others that look reversed.

* `averaged_dissent` — the mean is a multiple of the common delta.
* `dissent_flagged_iff` — when a device of the majority is flagged.
* `majority_unflagged_iff` — the majority is not flagged unless the mean is reversed, and more than
  60 % of the entries are not zero.
-/

import ScreenSync.Fl.Outlier

namespace ScreenSync.Fl

open ScreenSync.Foundation ScreenSync.Shared

noncomputable section

/-- One device submits a negative multiple of what all the others submit. -/
def dissent (g : NdArray ℝ) (factor : ℝ) (dissenter : DeviceId) (majority : List DeviceId) :
    Dict (NdArray ℝ) :=
  (dissenter, g.scale (-factor)) :: majority.map fun device => (device, g)

/-- The part of the entries that are not zero. -/
def density (g : NdArray ℝ) : ℝ :=
  (g.flatten.countP fun x => x ≠ 0 : ℝ) / (g.flatten.length : ℝ)

/-- The mean of the round points away from the majority, and is not taken for zero; and most entries
have a sign to lose. -/
def Reversed (g : NdArray ℝ) (factor : ℝ) (majority : Nat) : Prop :=
  1e-10 ≤ (factor - majority) / (majority + 1) * norm Real.sqrt g.flatten ∧ 0.60 < density g

variable {g : NdArray ℝ} {factor c : ℝ} {dissenter device : DeviceId} {majority : List DeviceId}
  {clock : DeviceId → UtcTime} {roundNumber : Int}

/-! ### The mean of the round -/

theorem sum_map_same (majority : List DeviceId) (x : ℝ) :
    (majority.map fun _ => x).sum = majority.length * x := by
  rw [List.map_const', List.sum_replicate, nsmul_eq_mul]

theorem norm_scale (c : ℝ) (g : NdArray ℝ) :
    norm Real.sqrt (g.scale c).flatten = |c| * norm Real.sqrt g.flatten := by
  rw [norm_flatten, norm_flatten]
  exact Vector.length_smul _ g.entry c

/-- **The mean is a multiple of the common delta.** -/
theorem averaged_dissent :
    NdArray.averaged g.shape ((dissent g factor dissenter majority).map Prod.snd) =
      g.scale ((majority.length - factor) / (majority.length + 1)) := by
  refine (NdArray.eq_ofFn (NdArray.scale_shape _ g) fun index _ => ?_).symm
  rw [dissent, List.map_cons, List.map_map, List.map_cons, List.map_map, List.sum_cons,
    List.length_cons, List.length_map]
  show (majority.length - factor) / (majority.length + 1) * g.entry index =
    (-factor * g.entry index + (majority.map fun _ => g.entry index).sum) /
      ((majority.length + 1 : ℕ) : ℝ)
  rw [sum_map_same]
  push_cast
  ring

theorem meanNorm_dissent (positive : 0 < factor) :
    meanNorm Real.sqrt (dissent g factor dissenter majority) =
      (factor + majority.length) / (majority.length + 1) * norm Real.sqrt g.flatten := by
  rw [meanNorm, dissent, List.map_cons, List.map_map, List.sum_cons, List.length_cons,
    List.length_map, norm_scale, abs_neg, abs_of_pos positive]
  show (factor * norm Real.sqrt g.flatten +
    (majority.map fun _ => norm Real.sqrt g.flatten).sum) / ((majority.length + 1 : ℕ) : ℝ) = _
  rw [sum_map_same]
  push_cast
  ring

/-! ### The detectors -/

/-- The cosine of a delta and a multiple of it. -/
theorem cosineSimilarity_scale (large : 1 ≤ norm Real.sqrt g.flatten) :
    cosineSimilarity Real.sqrt g (g.scale c) =
      if |c| * norm Real.sqrt g.flatten < 1e-10 then 1 else c / |c| := by
  have long : ¬ norm Real.sqrt g.flatten < 1e-10 := by
    rw [not_lt]
    exact le_trans (by norm_num) large
  simp only [cosineSimilarity, norm_scale, or_iff_right long]
  refine if_congr Iff.rfl (by norm_num) ?_
  have positive : 0 < Vector.length (NdArray.indices g.shape) g.entry := by
    rw [← norm_flatten]
    exact lt_of_lt_of_le one_pos large
  have cosine := Vector.inner_div_of_smul (NdArray.indices g.shape) g.entry c positive
  rw [Vector.length_smul] at cosine
  rw [dot_flatten (NdArray.scale_shape c g), norm_flatten]
  exact cosine

/-- The direction detector fires exactly if the mean is reversed. -/
theorem cosine_fires_iff (large : 1 ≤ norm Real.sqrt g.flatten) :
    cosineSimilarity Real.sqrt g (g.scale c) < cosineSimilarityFloor ↔
      1e-10 ≤ -c * norm Real.sqrt g.flatten := by
  have floor : (cosineSimilarityFloor : ℝ) = 0.70 := rfl
  rw [cosineSimilarity_scale large, floor]
  rcases lt_trichotomy c 0 with negative | rfl | positive
  · rw [abs_of_neg negative, div_neg, div_self negative.ne]
    split
    · rename_i short
      exact iff_of_false (by norm_num) (not_le.mpr short)
    · rename_i long
      exact iff_of_true (by norm_num) (not_lt.mp long)
  · norm_num
  · have away : ¬ (1e-10 : ℝ) ≤ -c * norm Real.sqrt g.flatten := by
      rw [not_le]
      nlinarith
    rw [abs_of_pos positive, div_self positive.ne']
    refine iff_of_false ?_ away
    split <;> norm_num

/-- A reversed mean flips every sign that there is. -/
theorem signFlipRatio_scale (negative : c < 0) : signFlipRatio g (g.scale c) = density g := by
  have flips : ∀ x : ℝ, SignType.sign x ≠ SignType.sign (c * x) ↔ x ≠ 0 := by
    intro x
    rw [sign_mul, sign_neg negative]
    rcases lt_trichotomy x 0 with below | rfl | above
    · rw [sign_neg below]
      exact iff_of_true (by decide) below.ne
    · simp
    · rw [sign_pos above]
      exact iff_of_true (by decide) above.ne'
  simp only [signFlipRatio, density, NdArray.flatten_scale, List.map_map, List.length_map]
  congr 2
  rw [List.zip_map', List.countP_map]
  refine List.countP_congr fun x _ => ?_
  simp [flips]

/-- The norm of the common delta is never out of the ordinary. -/
theorem l2_silent (two : 2 ≤ majority.length) (positive : 0 < factor) :
    norm Real.sqrt g.flatten ≤
      3 * (meanNorm Real.sqrt (dissent g factor dissenter majority) + 1e-8) := by
  have count : (2 : ℝ) ≤ majority.length := by exact_mod_cast two
  have part : (1 : ℝ) ≤ 3 * ((factor + majority.length) / (majority.length + 1)) := by
    rw [← mul_div_assoc, one_le_div (by linarith)]
    linarith
  have scaled := mul_le_mul_of_nonneg_right part (norm_nonneg g)
  rw [meanNorm_dissent positive]
  norm_num
  linarith

/-- Two of the three detectors have to fire. -/
theorem isFlagged_two {delta globalMean : NdArray ℝ} {mean : ℝ} {evaluatedAt : UtcTime} :
    (evaluateDevice Real.sqrt device roundNumber delta globalMean mean
        evaluatedAt).isFlagged = true ↔
      cosineSimilarity Real.sqrt delta globalMean < cosineSimilarityFloor ∧
          signFlipFloor < signFlipRatio delta globalMean ∨
        cosineSimilarity Real.sqrt delta globalMean < cosineSimilarityFloor ∧
            l2RatioCeiling < norm Real.sqrt delta.flatten / (mean + 1e-8) ∨
          signFlipFloor < signFlipRatio delta globalMean ∧
            l2RatioCeiling < norm Real.sqrt delta.flatten / (mean + 1e-8) := by
  simp only [evaluateDevice, voteThreshold]
  by_cases magnitude : l2RatioCeiling < norm Real.sqrt delta.flatten / (mean + 1e-8)
  · by_cases direction : cosineSimilarity Real.sqrt delta globalMean < cosineSimilarityFloor
    · simp [direction, magnitude]
    · by_cases signs : signFlipFloor < signFlipRatio delta globalMean
      · simp [direction, magnitude, signs]
      · simp [direction, magnitude, signs]
  · by_cases direction : cosineSimilarity Real.sqrt delta globalMean < cosineSimilarityFloor
    · by_cases signs : signFlipFloor < signFlipRatio delta globalMean
      · simp [direction, magnitude, signs]
      · simp [direction, magnitude, signs]
    · by_cases signs : signFlipFloor < signFlipRatio delta globalMean
      · simp [direction, magnitude, signs]
      · simp [direction, magnitude, signs]

/-- Without the magnitude detector both others have to fire. -/
theorem isFlagged_iff {delta globalMean : NdArray ℝ} {mean : ℝ} {evaluatedAt : UtcTime}
    (silent : ¬ l2RatioCeiling < norm Real.sqrt delta.flatten / (mean + 1e-8)) :
    (evaluateDevice Real.sqrt device roundNumber delta globalMean mean
        evaluatedAt).isFlagged = true ↔
      cosineSimilarity Real.sqrt delta globalMean < cosineSimilarityFloor ∧
        signFlipFloor < signFlipRatio delta globalMean := by
  rw [isFlagged_two]
  simp only [silent, and_false, or_false]

/-- **When a device of the majority is flagged.** -/
theorem dissent_flagged_iff (two : 2 ≤ majority.length) (positive : 0 < factor)
    (large : 1 ≤ norm Real.sqrt g.flatten) (device : DeviceId) :
    (reportOf Real.sqrt clock roundNumber g.shape (dissent g factor dissenter majority)
        (device, g)).isFlagged = true ↔ Reversed g factor majority.length := by
  have silent : ¬ (l2RatioCeiling : ℝ) < norm Real.sqrt g.flatten /
      (meanNorm Real.sqrt (dissent g factor dissenter majority) + 1e-8) := by
    rw [l2_above_iff, not_lt]
    exact l2_silent two positive
  have opposite : (factor - majority.length) / ((majority.length : ℝ) + 1) =
      -(((majority.length : ℝ) - factor) / (majority.length + 1)) := by
    rw [← neg_div, neg_sub]
  rw [reportOf, isFlagged_iff silent, averaged_dissent, cosine_fires_iff large, Reversed, opposite]
  refine and_congr_right fun reversed => ?_
  have negative : ((majority.length : ℝ) - factor) / (majority.length + 1) < 0 := by
    by_contra nonneg
    have norm := mul_nonneg (not_lt.mp nonneg) (norm_nonneg g)
    norm_num at reversed
    linarith
  rw [signFlipRatio_scale negative]
  rfl

/-! ### The round -/

theorem dissent_devices (g : NdArray ℝ) (factor : ℝ) (dissenter : DeviceId)
    (majority : List DeviceId) :
    (dissent g factor dissenter majority).map Prod.fst = dissenter :: majority := by
  rw [dissent, List.map_cons, List.map_map]
  exact congrArg _ (List.map_id' majority)

theorem dissent_shapes : ∀ entry ∈ dissent g factor dissenter majority,
    entry.2.shape = g.shape := by
  intro entry member
  rcases List.mem_cons.mp member with rfl | other
  · rfl
  · obtain ⟨device, -, rfl⟩ := List.mem_map.mp other
    rfl

theorem dissent_length (g : NdArray ℝ) (factor : ℝ) (dissenter : DeviceId)
    (two : 2 ≤ majority.length) : 2 ≤ (dissent g factor dissenter majority).length := by
  rw [← List.length_map Prod.fst, dissent_devices]
  exact le_trans two (Nat.le_succ _)

theorem mem_dissent {device : DeviceId} (member : device ∈ majority) :
    (device, g) ∈ dissent g factor dissenter majority :=
  List.mem_cons_of_mem _ (List.mem_map_of_mem member)

/-- **The majority is not flagged unless it is outweighed.** In a round in which one device submits
`-factor` times what all the others submit, no other device is flagged, except if the mean is
reversed and most entries are not zero. -/
theorem majority_unflagged_iff {Id : Type} (npy : NpyFormat ℝ)
    (order : RowOrder (FLModelUpdate Id npy.Bytes)) (clock : DeviceId → UtcTime)
    (state : FlState Id npy.Bytes) (roundNumber : Int) (g : NdArray ℝ) (factor : ℝ)
    (dissenter : DeviceId) (majority : List DeviceId) (two : 2 ≤ majority.length)
    (large : 1 ≤ norm Real.sqrt g.flatten) (positive : 0 < factor)
    (holds : Holds npy (state.ofRound roundNumber) (dissent g factor dissenter majority)) :
    ∃ summary flags, runDriftDetection npy Real.sqrt order clock state roundNumber =
        .ok (summary, flags) ∧
      (summary.reports.map DeviceDriftReport.deviceId).Perm (dissenter :: majority) ∧
      ((∀ report ∈ summary.reports, report.deviceId ∈ majority → report.isFlagged = false) ↔
        ¬ Reversed g factor majority.length) := by
  obtain ⟨summary, flags, returned, reports⟩ := holds.reports Real.sqrt order clock
    (dissent_length g factor dissenter two) dissent_shapes
  refine ⟨summary, flags, returned, ?_, ?_, ?_⟩
  · have devices := reports.map DeviceDriftReport.deviceId
    rw [List.map_map] at devices
    exact dissent_devices g factor dissenter majority ▸ devices
  · intro silent reversed
    obtain ⟨device, member⟩ := List.exists_mem_of_length_pos (lt_of_lt_of_le two_pos two)
    have unflagged := silent _ (reports.mem_iff.mpr (List.mem_map_of_mem (mem_dissent member)))
      member
    rw [(dissent_flagged_iff two positive large device).mpr reversed] at unflagged
    cases unflagged
  · intro upright report member inside
    obtain ⟨entry, among, rfl⟩ := List.mem_map.mp (reports.mem_iff.mp member)
    have apart := holds.distinct
    rw [dissent_devices, List.nodup_cons] at apart
    rcases List.mem_cons.mp among with rfl | other
    · exact absurd inside apart.1
    · obtain ⟨device, -, rfl⟩ := List.mem_map.mp other
      rw [Bool.eq_false_iff]
      exact fun flagged => upright ((dissent_flagged_iff two positive large device).mp flagged)

/-! ### Two devices against one -/

theorem majority_unflagged_iff_mild :
    ∃ summary flags, runDriftDetection (.plain ℝ) Real.sqrt .asStored (fun _ => someTime 9 0)
        (roundOf (.plain ℝ) id (dissent oneDelta 1 "laptop" ["tablet", "phone"]) 1) 1 =
          .ok (summary, flags) ∧
      (summary.reports.map DeviceDriftReport.deviceId).Perm ["laptop", "tablet", "phone"] ∧
      ((∀ report ∈ summary.reports, report.deviceId ∈ ["tablet", "phone"] →
          report.isFlagged = false) ↔ ¬ Reversed oneDelta 1 2) :=
  majority_unflagged_iff (.plain ℝ) .asStored (fun _ => someTime 9 0) _ 1 oneDelta 1 "laptop"
    ["tablet", "phone"] le_rfl norm_oneDelta.ge one_pos
    (holds_roundOf id (by decide) 1)

theorem reversed_oneDelta : Reversed oneDelta 3 2 := by
  have entries : oneDelta.flatten = [1] := rfl
  refine ⟨?_, ?_⟩
  · rw [norm_oneDelta]
    norm_num
  · rw [density, entries]
    norm_num

/-- The laptop submits -3 where the two others submit 1, and a tablet that agrees with the phone is
flagged. -/
theorem agreeing_tablet_flagged :
    1 ≤ norm Real.sqrt oneDelta.flatten ∧
      Holds (.plain ℝ) ((roundOf (.plain ℝ) id
        (dissent oneDelta 3 "laptop" ["tablet", "phone"]) 1).ofRound 1)
        (dissent oneDelta 3 "laptop" ["tablet", "phone"]) ∧
      ¬ ∃ summary flags, runDriftDetection (.plain ℝ) Real.sqrt .asStored (fun _ => someTime 9 0)
          (roundOf (.plain ℝ) id (dissent oneDelta 3 "laptop" ["tablet", "phone"]) 1) 1 =
            .ok (summary, flags) ∧
        ∀ report ∈ summary.reports, report.deviceId ∈ ["tablet", "phone"] →
          report.isFlagged = false := by
  have holds : Holds (.plain ℝ) ((roundOf (.plain ℝ) id
      (dissent oneDelta 3 "laptop" ["tablet", "phone"]) 1).ofRound 1)
      (dissent oneDelta 3 "laptop" ["tablet", "phone"]) := holds_roundOf id (by decide) 1
  refine ⟨norm_oneDelta.ge, holds, ?_⟩
  rintro ⟨summary, flags, returned, silent⟩
  have reports := holds.reports_of_returned (dissent_length oneDelta 3 "laptop" le_rfl)
    dissent_shapes returned
  have unflagged := silent _ (reports.mem_iff.mpr (List.mem_map_of_mem
    (mem_dissent List.mem_cons_self))) List.mem_cons_self
  have flagged : (reportOf Real.sqrt (fun _ => someTime 9 0) 1 oneDelta.shape
      (dissent oneDelta 3 "laptop" ["tablet", "phone"]) ("tablet", oneDelta)).isFlagged = true :=
    (dissent_flagged_iff le_rfl three_pos norm_oneDelta.ge "tablet").mpr reversed_oneDelta
  rw [flagged] at unflagged
  cases unflagged

end

end ScreenSync.Fl
