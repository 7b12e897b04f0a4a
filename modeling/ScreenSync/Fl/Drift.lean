/-
**Drift detection.**

The detector compares every delta of a round with their mean: its direction, its norm and its signs.
Two of three detectors flag a device. `sqrt` is the square root of `np.linalg.norm`; quotients by
zero are zero.

* `reports_devices` — a round whose rows can be loaded and stacked gets one report for every device
  with a row.
* `drift_unseen` — an aggregation that succeeds deletes the rows, so that the detection after it has
  nothing to report: the two never agree.
-/

import Mathlib.Data.Rat.Floor
import Mathlib.Data.Sign.Defs
import ScreenSync.Fl.Failure
import ScreenSync.Foundation.Share

namespace ScreenSync.Fl

open ScreenSync.Foundation ScreenSync.Shared

section Detector

variable {Id K : Type} [Field K] [LinearOrder K] [FloorRing K] (npy : NpyFormat K) (sqrt : K → K)

/-! ### Thresholds and reports -/

def cosineSimilarityFloor : K := 0.70
def l2RatioCeiling : K := 3.0
def signFlipFloor : K := 0.60
def voteThreshold : Nat := 2

structure DriftMetrics (K : Type) where
  cosineSimilarity : K
  l2Norm : K
  l2NormRatio : K
  signFlipRatio : K

structure DeviceDriftReport (K : Type) where
  deviceId : DeviceId
  roundNumber : Int
  isFlagged : Bool
  driftScore : K
  detectorsFired : List String
  metrics : DriftMetrics K
  evaluatedAt : UtcTime

structure RoundDriftSummary (K : Type) where
  roundNumber : Int
  devicesEvaluated : Nat
  devicesFlagged : Nat
  reports : List (DeviceDriftReport K)

/-- A call of `flag_anomalous_device`. -/
structure DriftFlag (K : Type) where
  deviceId : DeviceId
  driftScore : K
  reason : String

/-! ### Detector math -/

/-- `np.linalg.norm` of a flattened array. -/
def norm (a : List K) : K := sqrt (a.map fun x => x * x).sum

/-- `np.dot` of two flattened arrays. -/
def dot (a b : List K) : K := (List.zipWith (· * ·) a b).sum

/-- `_cosine_similarity`; a zero vector is not anomalous by direction. -/
def cosineSimilarity (a b : NdArray K) : K :=
  let normA := norm sqrt a.flatten
  let normB := norm sqrt b.flatten
  if normA < 1e-10 ∨ normB < 1e-10 then 1.0 else dot a.flatten b.flatten / (normA * normB)

/-- `_sign_flip_ratio`. -/
def signFlipRatio (delta globalMean : NdArray K) : K :=
  let deltaSigns := delta.flatten.map SignType.sign
  let meanSigns := globalMean.flatten.map SignType.sign
  let flipped := (deltaSigns.zip meanSigns).countP fun signs => signs.1 ≠ signs.2
  (flipped : K) / (deltaSigns.length : K)

/-- `_compute_drift_score`. -/
def computeDriftScore (cosineSim l2Ratio signFlipRatio : K) : K :=
  let cosineComponent := 1.0 - (cosineSim + 1.0) / 2.0
  let l2Component := min (l2Ratio / l2RatioCeiling) 1.0
  roundTo 4 ((cosineComponent + l2Component + signFlipRatio) / 3)

/-- `_evaluate_device`; `evaluatedAt` is its reading of the clock. -/
def evaluateDevice (deviceId : DeviceId) (roundNumber : Int) (delta globalMean : NdArray K)
    (meanNorm : K) (evaluatedAt : UtcTime) : DeviceDriftReport K :=
  let cosineSim := cosineSimilarity sqrt delta globalMean
  let deviceNorm := norm sqrt delta.flatten
  let l2Ratio := deviceNorm / (meanNorm + 1e-8)
  let signFlips := signFlipRatio delta globalMean
  let detectorsFired :=
    (if cosineSim < cosineSimilarityFloor then ["cosine_direction_drift"] else []) ++
      (if l2RatioCeiling < l2Ratio then ["l2_magnitude_outlier"] else []) ++
        (if signFlipFloor < signFlips then ["sign_flip_anomaly"] else [])
  { deviceId
    roundNumber
    isFlagged := voteThreshold ≤ detectorsFired.length
    driftScore := computeDriftScore cosineSim l2Ratio signFlips
    detectorsFired
    metrics := ⟨roundTo 4 cosineSim, roundTo 4 deviceNorm, roundTo 4 l2Ratio, roundTo 4 signFlips⟩
    evaluatedAt }

/-! ### A round -/

/-- The deltas that can be loaded, under their devices; a later row of a device replaces an earlier
one. -/
def deviceDeltas (submissions : List (FLModelUpdate Id npy.Bytes)) : Dict (NdArray K) :=
  submissions.foldl (fun deltas sub =>
    match deserialise npy sub.gradientDelta with
    | .ok delta => deltas.set sub.deviceId delta
    | .error _ => deltas) []

/-- `run_drift_detection`: the summary, and the devices it flags. -/
def runDriftDetection (order : RowOrder (FLModelUpdate Id npy.Bytes))
    (clock : DeviceId → UtcTime) (state : FlState Id npy.Bytes) (roundNumber : Int) :
    Except PyError (RoundDriftSummary K × List (DriftFlag K)) :=
  let submissions := order.arrange (state.ofRound roundNumber)
  if submissions = [] then .ok (⟨roundNumber, 0, 0, []⟩, [])
  else
    let deltas := deviceDeltas npy submissions
    if deltas.length < 2 then .ok (⟨roundNumber, deltas.length, 0, []⟩, [])
    else
      match NdArray.stack (deltas.map Prod.snd) with
      | none => .error (.valueError "all input arrays must have the same shape")
      | some stacked =>
        let globalMean := stacked.meanFirst
        let deviceNorms := deltas.map fun entry => norm sqrt entry.2.flatten
        let meanNorm := deviceNorms.sum / (deviceNorms.length : K)
        let reports := deltas.map fun entry =>
          evaluateDevice sqrt entry.1 roundNumber entry.2 globalMean meanNorm (clock entry.1)
        let flagged := reports.filter fun report => report.isFlagged
        .ok (⟨roundNumber, reports.length, flagged.length, reports⟩,
          flagged.map fun report =>
            ⟨report.deviceId, report.driftScore, ", ".intercalate report.detectorsFired⟩)

/-- There is exactly one report for the device of every row. -/
def ReportsEach (summary : RoundDriftSummary K) (rows : List (FLModelUpdate Id npy.Bytes)) : Prop :=
  ∀ row ∈ rows, (summary.reports.map DeviceDriftReport.deviceId).count row.deviceId = 1

/-- The aggregation and the detection of a round, one after the other, give a summary with one
report for every device that was included in the mean. -/
def PipelineReports (fails : RedisFailures) (aggregated detected : RowOrder
    (FLModelUpdate Id npy.Bytes)) (clock : DeviceId → UtcTime) (state : FlState Id npy.Bytes)
    (roundNumber : Int) : Prop :=
  ∃ reply next summary flags,
    runAggregation npy fails aggregated state roundNumber = .ok (reply, next) ∧
      runDriftDetection npy sqrt detected clock next roundNumber = .ok (summary, flags) ∧
      ReportsEach npy summary (state.ofRound roundNumber)

/-! ### Which devices are reported -/

variable {npy sqrt} {order : RowOrder (FLModelUpdate Id npy.Bytes)} {clock : DeviceId → UtcTime}
  {state : FlState Id npy.Bytes} {roundNumber : Int}

/-- The deltas of some rows, one for each device. -/
structure Gathered (rows : List (FLModelUpdate Id npy.Bytes)) (deltas : Dict (NdArray K)) :
    Prop where
  distinct : (deltas.map Prod.fst).Nodup
  devices : ∀ device, device ∈ deltas.map Prod.fst ↔ ∃ row ∈ rows, row.deviceId = device
  arrays : ∀ entry ∈ deltas, ∃ row ∈ rows, decode npy row.gradientDelta = entry.2

omit [LinearOrder K] [FloorRing K] in
/-- One more row. -/
theorem Gathered.set {rows : List (FLModelUpdate Id npy.Bytes)} {deltas : Dict (NdArray K)}
    (gathered : Gathered rows deltas) (row : FLModelUpdate Id npy.Bytes) :
    Gathered (rows ++ [row]) (deltas.set row.deviceId (decode npy row.gradientDelta)) where
  distinct := Dict.nodup_set gathered.distinct ..
  devices := by
    intro device
    rw [Dict.mem_keys_set, gathered.devices, @eq_comm _ device]
    simp only [List.mem_append, List.mem_singleton, or_and_right, exists_or, exists_eq_left]
  arrays := by
    intro entry member
    rcases Dict.mem_set member with rfl | old
    · exact ⟨row, List.mem_append_right _ (List.mem_singleton_self _), rfl⟩
    · obtain ⟨other, inside, same⟩ := gathered.arrays entry old
      exact ⟨other, List.mem_append_left _ inside, same⟩

omit [LinearOrder K] [FloorRing K] in
theorem deviceDeltas_gathered {rows : List (FLModelUpdate Id npy.Bytes)}
    (loads : ∀ row ∈ rows, deserialise npy row.gradientDelta = .ok (decode npy row.gradientDelta)) :
    Gathered rows (deviceDeltas npy rows) := by
  induction rows using List.reverseRecOn with
  | nil => exact ⟨List.nodup_nil, by simp [deviceDeltas], nofun⟩
  | append_singleton rows row ih =>
    have last := loads row (List.mem_append_right _ (List.mem_singleton_self _))
    have earlier := ih fun other member => loads other (List.mem_append_left _ member)
    rw [deviceDeltas, List.foldl_append, List.foldl_cons, List.foldl_nil, last]
    exact earlier.set row

omit [LinearOrder K] [FloorRing K] in
theorem Gathered.length {rows : List (FLModelUpdate Id npy.Bytes)} {deltas : Dict (NdArray K)}
    (gathered : Gathered rows deltas) :
    deltas.length = (rows.map FLModelUpdate.deviceId).toFinset.card := by
  have devices : (rows.map FLModelUpdate.deviceId).toFinset = (deltas.map Prod.fst).toFinset := by
    ext device
    rw [List.mem_toFinset, List.mem_toFinset, gathered.devices, List.mem_map]
  rw [devices, List.toFinset_card_of_nodup gathered.distinct, List.length_map]

/-- **One report for every device with a row**, if there are two of them and their deltas have one
shape. -/
theorem reports_devices (loadable : Loadable npy state) {shape : List Nat}
    (same : ∀ a ∈ deltasOf npy state roundNumber, a.shape = shape)
    (two : 2 ≤ ((state.ofRound roundNumber).map FLModelUpdate.deviceId).toFinset.card) :
    ∃ summary flags, runDriftDetection npy sqrt order clock state roundNumber =
      .ok (summary, flags) ∧ ReportsEach npy summary (state.ofRound roundNumber) := by
  have perm := order.perm (state.ofRound roundNumber)
  unfold runDriftDetection
  generalize order.arrange (state.ofRound roundNumber) = rows at perm
  have gathered : Gathered rows (deviceDeltas npy rows) := deviceDeltas_gathered
    fun row member => loadable.updates row (List.mem_of_mem_filter (perm.mem_iff.mp member))
  have enough : 2 ≤ (deviceDeltas npy rows).length := by
    rw [gathered.length, List.toFinset_eq_of_perm _ _ (perm.map _)]
    exact two
  have filled : rows ≠ [] := by
    rintro rfl
    exact absurd enough (Nat.not_succ_le_zero 1)
  have shapes : ∀ a ∈ (deviceDeltas npy rows).map Prod.snd, a.shape = shape := by
    intro a member
    obtain ⟨entry, inside, rfl⟩ := List.mem_map.mp member
    obtain ⟨row, stored, array⟩ := gathered.arrays entry inside
    exact array ▸ same _ (List.mem_map_of_mem (perm.mem_iff.mp stored))
  have nonempty : (deviceDeltas npy rows).map Prod.snd ≠ [] := by
    intro none
    rw [List.map_eq_nil_iff.mp none] at enough
    exact absurd enough (Nat.not_succ_le_zero 1)
  obtain ⟨stacked, isStack, -⟩ :=
    Option.map_eq_some_iff.mp (NdArray.meanFirst_stack nonempty shapes)
  simp only [if_neg filled, if_neg (not_lt.mpr enough), isStack]
  refine ⟨_, _, rfl, fun row member => ?_⟩
  simp only [List.map_map]
  refine List.count_eq_one_of_mem gathered.distinct ((gathered.devices row.deviceId).mpr ?_)
  exact ⟨row, perm.mem_iff.mpr member, rfl⟩

theorem detection_of_empty (none : state.ofRound roundNumber = []) :
    runDriftDetection npy sqrt order clock state roundNumber =
      .ok (⟨roundNumber, 0, 0, []⟩, []) := by
  have nothing : order.arrange (state.ofRound roundNumber) = [] := by
    have perm := order.perm (state.ofRound roundNumber)
    rw [none] at perm ⊢
    exact perm.eq_nil
  rw [runDriftDetection, nothing]
  exact if_pos rfl

/-- **The detection never sees the round that was aggregated.** -/
theorem drift_unseen (npy : NpyFormat K) (sqrt : K → K) (fails : RedisFailures)
    (aggregated detected : RowOrder (FLModelUpdate Id npy.Bytes)) (clock : DeviceId → UtcTime)
    (state : FlState Id npy.Bytes) (roundNumber : Int) (shape : List Nat)
    (loadable : Loadable npy state)
    (quorum : minDevicesPerRound ≤ submissionCount state roundNumber)
    (same : ∀ a ∈ deltasOf npy state roundNumber, a.shape = shape) :
    ¬ PipelineReports npy sqrt fails aggregated detected clock state roundNumber := by
  rintro ⟨reply, next, summary, flags, ran, detection, reports⟩
  have effect : AggregationEffect npy fails state roundNumber
      (runAggregation npy fails aggregated state roundNumber) := runAggregation_effect loadable
  rw [ran] at effect
  cases effect with
  | skipped few => exact absurd quorum (not_le.mpr few)
  | mismatch _ different => exact absurd ⟨shape, same⟩ different
  | aggregated _ _ added =>
    -- the rows are gone, so there is nothing to report
    rw [detection_of_empty (by simp [FlState.ofRound, List.filter_filter])] at detection
    cases detection
    have nonempty : state.ofRound roundNumber ≠ [] := by
      intro none
      rw [submissionCount, none] at quorum
      exact absurd quorum (of_decide_eq_false rfl)
    obtain ⟨row, member⟩ := List.exists_mem_of_ne_nil _ nonempty
    exact absurd (reports row member) (by simp)

end Detector

/-! ### Three devices -/

theorem drift_unseen_openRound :
    ¬ PipelineReports (.plain ℚ) id .none .asStored .asStored (fun _ => someTime 9 0) openRound 2 :=
  drift_unseen (.plain ℚ) id .none .asStored .asStored (fun _ => someTime 9 0) openRound 2 []
    openRound_loadable (by decide) openRound_shapes

/-- The three devices of an aggregated round get no report. -/
theorem aggregated_round_unreported :
    ((openRound.ofRound 2).map FLModelUpdate.deviceId).Nodup ∧
      ¬ PipelineReports (.plain ℚ) id .none .asStored .asStored (fun _ => someTime 9 0)
        openRound 2 := by
  refine ⟨by decide, ?_⟩
  rintro ⟨reply, next, summary, flags, ran, detection, reports⟩
  have deleted : (runAggregation (.plain ℚ) .none .asStored openRound 2).toOption.map
      (fun answer => (answer.2.ofRound 2).length) = some 0 := by
    decide +kernel
  rw [ran] at deleted
  have none : next.ofRound 2 = [] := List.eq_nil_of_length_eq_zero (Option.some.inj deleted)
  rw [detection_of_empty none] at detection
  cases detection
  have first : (openRound.ofRound 2).head? = some _ := rfl
  exact absurd (reports _ (List.mem_of_head? first)) (by simp)

end ScreenSync.Fl
