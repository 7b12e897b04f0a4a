/-
**Conflict resolution.**

Last write wins by timestamp, then the higher priority, then the larger device id; a forced event
beats an unforced one before any of that. Which of the two events wins is a `Pick`, as the source
compares the winner with its arguments by identity.

* `pickWinner_forced`, `pickWinner_unforced` — the rules, for two events of one device and one
  priority: the second wins if it is forced, or if it is not the older one.
-/

import Mathlib.Tactic.Common
import ScreenSync.Foundation.Clock
import ScreenSync.Shared.Message

namespace ScreenSync.Sync

open ScreenSync.Foundation ScreenSync.Shared

inductive ConflictReason
  | timestamp
  | priority
  | uuidTiebreak
  | forcedSync
  deriving DecidableEq

def ConflictReason.value : ConflictReason → String
  | .timestamp => "timestamp_lww"
  | .priority => "priority_tiebreak"
  | .uuidTiebreak => "uuid_tiebreak"
  | .forcedSync => "forced_sync_override"

/-- A state-carrying event from a device. The event id is a JSON value, since it is also read back
from snapshots. -/
structure DeviceEvent where
  deviceId : DeviceId
  userId : UserId
  priority : Int
  timestamp : UtcTime
  payload : Dict Json
  forced : Bool
  eventId : Json

/-- Immutable audit record written after every resolution. -/
structure ConflictRecord where
  conflictId : String
  winnerId : Json
  loserId : Json
  winnerDevice : DeviceId
  loserDevice : DeviceId
  reason : ConflictReason
  resolvedAt : String
  winnerTs : String
  loserTs : String

/-- One of the two events of a conflict. -/
inductive Pick
  | a
  | b
  deriving DecidableEq

def Pick.winner (pick : Pick) (eventA eventB : DeviceEvent) : DeviceEvent :=
  match pick with
  | .a => eventA
  | .b => eventB

def Pick.loser (pick : Pick) (eventA eventB : DeviceEvent) : DeviceEvent :=
  match pick with
  | .a => eventB
  | .b => eventA

/-- `_pick_winner`. -/
def pickWinner (a b : DeviceEvent) : Pick × ConflictReason :=
  -- Rule 0 — forced sync always wins
  if a.forced = true ∧ b.forced = false then (.a, .forcedSync)
  else if b.forced = true ∧ a.forced = false then (.b, .forcedSync)
  -- Rule 1 — last write wins by device timestamp
  else if a.timestamp ≠ b.timestamp then
    (if b.timestamp < a.timestamp then .a else .b, .timestamp)
  -- Rule 2 — tiebreak by device priority
  else if a.priority ≠ b.priority then (if b.priority < a.priority then .a else .b, .priority)
  -- Rule 3 — last resort: lexicographically larger device id
  else (if b.deviceId < a.deviceId then .a else .b, .uuidTiebreak)

/-- `resolve`; `conflictId` is the id it draws and `now` its reading of the clock. -/
def resolve (eventA eventB : DeviceEvent) (conflictId : String) (now : UtcTime) :
    Pick × ConflictRecord :=
  let (pick, reason) := pickWinner eventA eventB
  let winner := pick.winner eventA eventB
  let loser := pick.loser eventA eventB
  (pick,
    { conflictId
      winnerId := winner.eventId
      loserId := loser.eventId
      winnerDevice := winner.deviceId
      loserDevice := loser.deviceId
      reason
      resolvedAt := now.isoformat
      winnerTs := winner.timestamp.isoformat
      loserTs := loser.timestamp.isoformat })

/-! ### The rules on two events of one device -/

variable {a b : DeviceEvent}

theorem pickWinner_forced (unforced : a.forced = false) (forced : b.forced = true) :
    (pickWinner a b).1 = .b := by
  rw [pickWinner, if_neg (by simp [unforced]), if_pos ⟨forced, unforced⟩]

/-- Without a forced event, one device against itself: the second event wins unless it is older. -/
theorem pickWinner_unforced (first : a.forced = false) (second : b.forced = false)
    (device : a.deviceId = b.deviceId) (priority : a.priority = b.priority) :
    (pickWinner a b).1 = if b.timestamp < a.timestamp then .a else .b := by
  rw [pickWinner, if_neg (by simp [first]), if_neg (by simp [second])]
  by_cases tie : a.timestamp = b.timestamp
  · rw [if_neg (not_not.mpr tie), if_neg (not_not.mpr priority), device, tie]
    rw [if_neg (String.lt_irrefl _), if_neg (lt_irrefl _)]
  · rw [if_pos tie]

end ScreenSync.Sync
