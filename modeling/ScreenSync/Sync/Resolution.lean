/-
**Conflict resolution as a merge.**

The four rules of `_pick_winner` compare two events by one key: forced, timestamp, priority and
device id, lexicographically. So `resolve` selects by a linear order, and devices that resolve the
same events in different orders agree without coordination.

* `eventKey`, `DiffersFirstAt` — the key, and the first component in which two events differ.
* `pickWinner_pick`, `pickWinner_reason` — the rules are the comparison of the keys.
* `resolve_selects` — `resolve` is a merge that selects by the key.
* `resolution_merges` — every way to resolve a list of events down ends at the event with the
  greatest key, and every record names its two events and the component that decided.
-/

import Mathlib.Data.Bool.Basic
import Mathlib.Data.Prod.Lex
import Mathlib.Data.String.Basic
import ScreenSync.Foundation.Merge
import ScreenSync.Sync.Conflict

namespace ScreenSync.Sync

open ScreenSync.Foundation ScreenSync.Shared

/-! ### The key of an event -/

/-- What the rules compare, the first rule first. -/
def eventKey (event : DeviceEvent) : Bool ×ₗ UtcTime ×ₗ Int ×ₗ String :=
  toLex (event.forced, toLex (event.timestamp, toLex (event.priority, event.deviceId)))

/-- The reason stands for the first component of the key in which the events differ. -/
def DiffersFirstAt (reason : ConflictReason) (a b : DeviceEvent) : Prop :=
  match reason with
  | .forcedSync => a.forced ≠ b.forced
  | .timestamp => a.forced = b.forced ∧ a.timestamp ≠ b.timestamp
  | .priority => a.forced = b.forced ∧ a.timestamp = b.timestamp ∧ a.priority ≠ b.priority
  | .uuidTiebreak => a.forced = b.forced ∧ a.timestamp = b.timestamp ∧ a.priority = b.priority ∧
      a.deviceId ≠ b.deviceId

variable {a b : DeviceEvent}

theorem eventKey_lt : eventKey a < eventKey b ↔ a.forced < b.forced ∨ a.forced = b.forced ∧
    (a.timestamp < b.timestamp ∨ a.timestamp = b.timestamp ∧
      (a.priority < b.priority ∨ a.priority = b.priority ∧ a.deviceId < b.deviceId)) := by
  simp only [eventKey, Prod.Lex.toLex_lt_toLex]

theorem eventKey_eq : eventKey a = eventKey b ↔ a.forced = b.forced ∧ a.timestamp = b.timestamp ∧
    a.priority = b.priority ∧ a.deviceId = b.deviceId := by
  simp only [eventKey, toLex_inj, Prod.mk.injEq]

/-! ### The rules compare the keys -/

/-- **The first event wins exactly if its key is the greater one.** -/
theorem pickWinner_pick :
    (pickWinner a b).1 = if eventKey b < eventKey a then .a else .b := by
  unfold pickWinner
  simp only [eventKey_lt]
  by_cases forced : a.forced = b.forced
  · rw [forced, if_neg (by simp), if_neg (by simp)]
    by_cases timestamp : a.timestamp = b.timestamp
    · rw [timestamp, if_neg (by simp)]
      by_cases priority : a.priority = b.priority
      · rw [priority, if_neg (by simp)]
        simp
      · simp [priority, Ne.symm priority]
    · simp [timestamp, Ne.symm timestamp]
  · revert forced
    cases a.forced <;> cases b.forced <;> simp

/-- The reason is the first component in which the events differ. -/
theorem pickWinner_reason (different : eventKey a ≠ eventKey b) :
    DiffersFirstAt (pickWinner a b).2 a b := by
  unfold pickWinner
  by_cases forced : a.forced = b.forced
  · rw [if_neg (by simp [forced]), if_neg (by simp [forced])]
    by_cases timestamp : a.timestamp = b.timestamp
    · rw [if_neg (not_not.mpr timestamp)]
      by_cases priority : a.priority = b.priority
      · rw [if_neg (not_not.mpr priority)]
        have device : a.deviceId ≠ b.deviceId := fun device =>
          different (eventKey_eq.mpr ⟨forced, timestamp, priority, device⟩)
        exact ⟨forced, timestamp, priority, device⟩
      · rw [if_pos priority]
        exact ⟨forced, timestamp, priority⟩
    · rw [if_pos timestamp]
      exact ⟨forced, timestamp⟩
  · revert forced
    cases first : a.forced <;> cases second : b.forced <;> simp [DiffersFirstAt, first, second]

/-! ### `resolve` as a merge -/

/-- What `resolve` may return for two events, whatever id it draws and whenever it runs. -/
def Resolves (a b winner : DeviceEvent) : Prop :=
  ∃ conflictId now, winner = (resolve a b conflictId now).1.winner a b

/-- A record that names its two events and the component that decided. -/
structure NamesBoth (a b : DeviceEvent) (pick : Pick) (record : ConflictRecord) : Prop where
  greater : eventKey (pick.loser a b) < eventKey (pick.winner a b)
  winnerId : record.winnerId = (pick.winner a b).eventId
  loserId : record.loserId = (pick.loser a b).eventId
  winnerDevice : record.winnerDevice = (pick.winner a b).deviceId
  loserDevice : record.loserDevice = (pick.loser a b).deviceId
  reason : DiffersFirstAt record.reason a b

theorem pickWinner_greater (different : eventKey a ≠ eventKey b) :
    eventKey ((pickWinner a b).1.loser a b) < eventKey ((pickWinner a b).1.winner a b) := by
  rw [pickWinner_pick]
  by_cases lower : eventKey b < eventKey a
  · rw [if_pos lower]
    exact lower
  · rw [if_neg lower]
    exact lt_of_le_of_ne (not_lt.mp lower) different

theorem resolve_names (different : eventKey a ≠ eventKey b) (conflictId : String) (now : UtcTime) :
    NamesBoth a b (resolve a b conflictId now).1 (resolve a b conflictId now).2 where
  greater := pickWinner_greater different
  winnerId := rfl
  loserId := rfl
  winnerDevice := rfl
  loserDevice := rfl
  reason := pickWinner_reason different

theorem resolve_selects : Selects eventKey Resolves := by
  rintro a b winner different ⟨conflictId, now, rfl⟩
  have greater : eventKey ((resolve a b conflictId now).1.loser a b) <
      eventKey ((resolve a b conflictId now).1.winner a b) := pickWinner_greater different
  cases pick : (resolve a b conflictId now).1 with
  | a =>
    rw [pick] at greater
    exact .inl ⟨rfl, greater⟩
  | b =>
    rw [pick] at greater
    exact .inr ⟨rfl, greater⟩

theorem resolve_total (a b : DeviceEvent) : ∃ winner, Resolves a b winner :=
  ⟨_, "", .min, rfl⟩

/-- **Conflict resolution is a coordination-free merge.** Events with different keys that are
resolved pair by pair, in any order and any bracketing, are fewer after each resolution and end at
the event with the greatest key. Every resolution names its two events, and its reason is the first
component in which they differ. -/
theorem resolution_merges {events : List DeviceEvent} (nonempty : events ≠ [])
    (distinct : (events.map eventKey).Nodup) :
    (∃ winner, GreatestBy eventKey events winner ∧
      ∀ reached, Relation.ReflTransGen (MergeStep Resolves) events reached →
        (reached = [winner] ∨ ∃ next, MergeStep Resolves reached next) ∧
        ∀ next, MergeStep Resolves reached next → reached.length = next.length + 1) ∧
    ∀ a b, eventKey a ≠ eventKey b → ∀ conflictId now,
      NamesBoth a b (resolve a b conflictId now).1 (resolve a b conflictId now).2 := by
  constructor
  · have exists_winner : ∃ winner, GreatestBy eventKey events winner := exists_greatestBy nonempty
    obtain ⟨winner, greatest⟩ := exists_winner
    refine ⟨winner, greatest, fun reached steps => ⟨?_, fun _ step => step.length_eq⟩⟩
    exact merge_ends_at_greatest resolve_selects resolve_total distinct greatest steps
  · intro a b different conflictId now
    exact resolve_names different conflictId now

/-- Two events of one instant, and a forced one that is older than both. -/
def someEvents : List DeviceEvent :=
  [{ deviceId := "phone", userId := "parent", priority := 5, timestamp := ⟨1, by decide⟩,
     payload := [], forced := false, eventId := .null },
   { deviceId := "tablet", userId := "parent", priority := 7, timestamp := ⟨1, by decide⟩,
     payload := [], forced := false, eventId := .null },
   { deviceId := "laptop", userId := "parent", priority := 1, timestamp := .min,
     payload := [], forced := true, eventId := .null }]

theorem resolution_merges_someEvents :
    (∃ winner, GreatestBy eventKey someEvents winner ∧
      ∀ reached, Relation.ReflTransGen (MergeStep Resolves) someEvents reached →
        (reached = [winner] ∨ ∃ next, MergeStep Resolves reached next) ∧
        ∀ next, MergeStep Resolves reached next → reached.length = next.length + 1) ∧
    ∀ a b, eventKey a ≠ eventKey b → ∀ conflictId now,
      NamesBoth a b (resolve a b conflictId now).1 (resolve a b conflictId now).2 :=
  resolution_merges (by simp [someEvents]) (by simp [someEvents, eventKey_eq])

end ScreenSync.Sync
