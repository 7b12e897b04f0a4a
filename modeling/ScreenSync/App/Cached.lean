/-
**What the modules keep in the shared Redis client.**

`get_budget` caches the dictionary of a row, `flag_anomalous_device` a dictionary with the drift
score, and `_save_global_weights` the number of the round. No dictionary is stored, and the number
comes back as a text.

* `getBudget_uncached` — a budget is never cached.
* `isDeviceFlagged_flag` — a flag that is set does not show.
* `roundNumber_save` — the number of the round is a text.
* `never_round_trips` — no value of any caller comes back.
-/

import ScreenSync.Decision.Budget
import ScreenSync.Shared.RedisClient

namespace ScreenSync.App

open ScreenSync.Foundation ScreenSync.Shared ScreenSync.Decision

/-! ### The callers -/

/-- The dictionary of a budget, as a Python value. -/
def budgetValue (budget : BudgetDict) : Json :=
  .obj [("id", .str budget.id), ("device_id", .str budget.deviceId), ("date", .str budget.date),
    ("total_budget_seconds", .int budget.totalBudgetSeconds),
    ("used_seconds", .int budget.usedSeconds), ("remaining_seconds", .int budget.remainingSeconds),
    ("rebalanced_at", (budget.rebalancedAt.map Json.str).getD .null)]

/-- The flag of a device. -/
def flagValue (driftScore : ℚ) (reason : String) (flaggedAt : UtcTime) : Json :=
  .obj [("drift_score", .float driftScore), ("reason", .str reason),
    ("flagged_at", .str flaggedAt.isoformat)]

def flagKey (deviceId : DeviceId) : String := "drift_flag:" ++ deviceId

def globalModelRoundKey : String := "fl:global_model:round"

variable (encoder : RedisEncoder) (redis : TextStore)

/-- `get_budget`. -/
def getBudgetThrough (db : Database) (deviceId : DeviceId) (targetDate : Date) : Json × TextStore :=
  let cacheKey := budgetCacheText (deviceId, targetDate)
  let cached := clientGet redis cacheKey
  if cached.truthy then (cached, redis)
  else
    match db.budgets.find (deviceId, targetDate) with
    | none => (.null, redis)
    | some budget =>
      let data := budgetValue (budgetToDict budget)
      (data, clientSet encoder redis cacheKey data)

/-- `flag_anomalous_device`. -/
def flagAnomalousDevice (deviceId : DeviceId) (driftScore : ℚ) (reason : String) (now : UtcTime) :
    TextStore :=
  clientSet encoder redis (flagKey deviceId) (flagValue driftScore reason now)

/-- `is_device_flagged`. -/
def isDeviceFlagged (deviceId : DeviceId) : Json := clientGet redis (flagKey deviceId)

/-- The part of `_save_global_weights` that stores the number of the round. -/
def saveRoundNumber (roundNumber : Int) : TextStore :=
  clientSet encoder redis globalModelRoundKey (.int roundNumber)

/-- The number of the round in `get_global_model_weights`. -/
def loadRoundNumber : Json :=
  let stored := clientGet redis globalModelRoundKey
  if stored.truthy then stored else .int 0

/-! ### What comes back -/

variable {encoder redis}

/-- **A budget is never cached**: `get_budget` leaves the store as it was. -/
theorem getBudget_uncached (db : Database) (deviceId : DeviceId) (targetDate : Date) :
    (getBudgetThrough encoder redis db deviceId targetDate).2 = redis := by
  unfold getBudgetThrough
  dsimp only
  split
  · rfl
  · split
    · rfl
    · exact clientSet_obj _

/-- **A flag that is set does not show.** -/
theorem isDeviceFlagged_flag (deviceId : DeviceId) (driftScore : ℚ) (reason : String)
    (now : UtcTime) :
    isDeviceFlagged (flagAnomalousDevice encoder redis deviceId driftScore reason now) deviceId =
      isDeviceFlagged redis deviceId :=
  congrArg (fun store => clientGet store (flagKey deviceId)) (clientSet_obj _)

/-- **The number of the round is a text.** -/
theorem roundNumber_save (roundNumber : Int) :
    loadRoundNumber (saveRoundNumber encoder redis roundNumber) = .str roundNumber.repr := by
  have stored : clientGet (saveRoundNumber encoder redis roundNumber) globalModelRoundKey =
      .str roundNumber.repr := clientGet_set_int roundNumber
  have shown : roundNumber.repr ≠ "" := by
    cases roundNumber with
    | ofNat n => exact Nat.repr_ne_empty
    | negSucc n => simp [Int.repr]
  unfold loadRoundNumber
  rw [stored]
  exact if_pos (decide_eq_true shown)

/-! ### All callers -/

/-- A value that a caller stores. -/
inductive CallerValue
  | budget (row : Budget)
  | flag (deviceId : DeviceId) (driftScore : ℚ) (reason : String) (flaggedAt : UtcTime)
  | round (roundNumber : Int)

def CallerValue.key : CallerValue → String
  | .budget row => budgetCacheText row.key
  | .flag deviceId .. => flagKey deviceId
  | .round _ => globalModelRoundKey

def CallerValue.value : CallerValue → Json
  | .budget row => budgetValue (budgetToDict row)
  | .flag _ driftScore reason flaggedAt => flagValue driftScore reason flaggedAt
  | .round roundNumber => .int roundNumber

/-- What is stored comes back. -/
def RoundTrips (encoder : RedisEncoder) (redis : TextStore) (stored : CallerValue) : Prop :=
  clientGet (clientSet encoder redis stored.key stored.value) stored.key = stored.value

/-- **No value of any caller comes back**, whatever was stored before. -/
theorem never_round_trips (encoder : RedisEncoder) (redis : TextStore) (stored : CallerValue) :
    ¬ RoundTrips encoder redis stored := by
  cases stored with
  | budget row => exact clientGet_ne_obj _
  | flag deviceId driftScore reason flaggedAt => exact clientGet_ne_obj _
  | round roundNumber => exact clientGet_ne_int roundNumber

/-- The flag of the tablet is not stored. -/
theorem tablet_flag_lost :
    ¬ RoundTrips (.plain fun _ => "0.9") (fun _ => none)
      (.flag "tablet" 0.9 "gradient_drift" (someTime 9 30)) := by
  intro same
  cases same

end ScreenSync.App
