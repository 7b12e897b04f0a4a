/-
**The MQTT listener.**

`usage_ingestion/mqtt_listener.py`: every message goes through `_on_message`, which takes the ids
from the levels of the topic and decodes the payload. Whatever a handler raises is logged and
dropped, with nothing stored.

* `onMessage` — one message.
* `UsageRow` — the row a usage message asks for, as the guards of `_handle_usage` let it through.
* `handleUsage_effect` — a usage message stores that row or changes nothing.
-/

import Mathlib.Data.Rat.Floor
import ScreenSync.Foundation.Share
import ScreenSync.Rest.Service

namespace ScreenSync.Rest

open ScreenSync.Foundation ScreenSync.Shared

/-- What the listener takes from the language and the database driver: `int()` of a text, and the
text that a decoded value bound to a `String` column is stored as, unless it is refused. -/
structure Conversions where
  parseInt : String → Option Int
  bindText : Json → Option String
  bindText_str : ∀ text, bindText (.str text) = some text

/-- Texts are taken as they are and other values refused; `int()` reads plain decimal digits. -/
def Conversions.strict : Conversions where
  parseInt := String.toInt?
  bindText
    | .str text => some text
    | _ => none
  bindText_str _ := rfl

/-- `int(value)`. -/
def Conversions.toInt (conversions : Conversions) : Json → Option Int
  | .int value => some value
  | .float value => some (truncate value)
  | .bool value => some (if value then 1 else 0)
  | .str text => conversions.parseInt text
  | _ => none

/-- A message; an undecodable payload is `none`. -/
structure MqttMessage where
  topic : String
  payload : Option Json

/-- `topic.split("/")`. -/
def topicLevels (topic : String) : List String := (topic.toList.splitOn '/').map String.ofList

/-- The category and the seconds that a usage payload reports; `none` where `int()` raises. -/
def usageReport (conversions : Conversions) (payload : Dict Json) : Option (Json × Int) :=
  let category := (payload.get "category").getD (.str "other")
  let duration := conversions.toInt ((payload.get "secs").getD (.int 0))
  duration.map fun seconds => (category, seconds)

/-- `_handle_usage`. -/
def handleUsage (conversions : Conversions) (around : Surroundings) (userId : UserId)
    (deviceId : DeviceId) (payload : Dict Json) (r : Registry) : Registry :=
  match usageReport conversions payload with
  | none => r
  | some (category, duration) =>
    if duration ≤ 0 then r
    else
      match r.devices.find deviceId with
      | none => r
      | some device =>
        if device.userId ≠ userId then r
        else
          match conversions.bindText category with
          | none => r
          | some appCategory =>
            let event := newUsageEvent around deviceId appCategory duration
            (getDb around.commits (insertUsageEvent around.accepts event) r).2

/-- `_handle_heartbeat`. -/
def handleHeartbeat (around : Surroundings) (deviceId : DeviceId) (r : Registry) : Registry :=
  match r.devices.find deviceId with
  | none => r
  | some device =>
    if around.commits then beatDevice device.id around.now r else r

/-- The user, the device and the event type, if the topic has at least five levels. -/
def messageParts (topic : String) : Option (UserId × DeviceId × String) :=
  match topicLevels topic with
  | _ :: userId :: deviceId :: eventType :: _ :: _ => some (userId, deviceId, eventType)
  | _ => none

/-- `_on_message`. -/
def onMessage (conversions : Conversions) (around : Surroundings) (message : MqttMessage)
    (r : Registry) : Registry :=
  match messageParts message.topic with
  | none => r
  | some (userId, deviceId, eventType) =>
    match message.payload with
    | none => r
    | some payload =>
      if eventType = "usage" then
        match payload with
        | .obj entries => handleUsage conversions around userId deviceId entries r
        -- no `get`
        | _ => r
      else if eventType = "heartbeat" then handleHeartbeat around deviceId r
      else r

/-! ### What a usage message stores -/

/-- The row that a usage message asks for: its seconds are positive, the device is its user's, the
driver takes its category and the database the row. -/
structure UsageRow (conversions : Conversions) (around : Surroundings) (userId : UserId)
    (deviceId : DeviceId) (payload : Dict Json) (r : Registry) (row : UsageEvent) : Prop where
  category : conversions.bindText ((payload.get "category").getD (.str "other")) =
    some row.appCategory
  seconds : conversions.toInt ((payload.get "secs").getD (.int 0)) = some row.durationSeconds
  positive : 0 < row.durationSeconds
  owner : ∃ device, r.devices.find deviceId = some device ∧ device.userId = userId
  device : row.deviceId = deviceId
  fresh : r.usageEvents.find row.id = none
  accepted : around.accepts = true ∧ around.commits = true
  rest : row.id = around.eventId ∧ row.recordedAt = around.databaseNow

/-- The registry with one more usage event. -/
def Stored (r : Registry) (row : UsageEvent) (next : Registry) : Prop :=
  next.devices = r.devices ∧ next.usageEvents.rows = r.usageEvents.rows ++ [row]

theorem insertUsageEvent_stored (around : Surroundings) (row : UsageEvent) (r : Registry) :
    (getDb around.commits (insertUsageEvent around.accepts row) r).2 = r ∧
        ¬ (r.usageEvents.find row.id = none ∧ around.accepts = true ∧ around.commits = true) ∨
      (r.usageEvents.find row.id = none ∧ around.accepts = true ∧ around.commits = true) ∧
        (getDb around.commits (insertUsageEvent around.accepts row) r).1 = .ok () ∧
        Stored r row (getDb around.commits (insertUsageEvent around.accepts row) r).2 := by
  unfold getDb insertUsageEvent
  simp only [Session.exec_bind, Session.exec_get]
  by_cases fresh : r.usageEvents.find row.id = none ∧ around.accepts = true
  · rw [dif_pos fresh]
    cases commits : around.commits with
    | true => exact .inr ⟨⟨fresh.1, fresh.2, rfl⟩, rfl, rfl, rfl⟩
    | false => exact .inl ⟨rfl, by simp⟩
  · rw [dif_neg fresh]
    exact .inl ⟨rfl, fun all => fresh ⟨all.1, all.2.1⟩⟩

/-- A usage message asks for one row at most. -/
theorem UsageRow.unique {conversions : Conversions} {around : Surroundings} {userId : UserId}
    {deviceId : DeviceId} {payload : Dict Json} {r : Registry} {first second : UsageEvent}
    (asked : UsageRow conversions around userId deviceId payload r first)
    (again : UsageRow conversions around userId deviceId payload r second) : first = second := by
  have category := Option.some.inj (asked.category.symm.trans again.category)
  have seconds := Option.some.inj (asked.seconds.symm.trans again.seconds)
  have device := asked.device.trans again.device.symm
  have id := asked.rest.1.trans again.rest.1.symm
  have recorded := asked.rest.2.trans again.rest.2.symm
  cases first
  cases second
  cases category
  cases seconds
  cases device
  cases id
  cases recorded
  rfl

/-- **A usage message** stores the row it asks for, or it asks for none and changes nothing. -/
theorem handleUsage_effect (conversions : Conversions) (around : Surroundings) (userId : UserId)
    (deviceId : DeviceId) (payload : Dict Json) (r : Registry) :
    handleUsage conversions around userId deviceId payload r = r ∧
        (∀ row, ¬ UsageRow conversions around userId deviceId payload r row) ∨
      ∃ row, UsageRow conversions around userId deviceId payload r row ∧
        Stored r row (handleUsage conversions around userId deviceId payload r) := by
  unfold handleUsage usageReport
  cases seconds : conversions.toInt ((payload.get "secs").getD (.int 0)) with
  | none => exact .inl ⟨rfl, fun row asked => by cases seconds.symm.trans asked.seconds⟩
  | some duration =>
    simp only [Option.map_some]
    by_cases nothing : duration ≤ 0
    · rw [if_pos nothing]
      refine .inl ⟨rfl, fun row asked => ?_⟩
      cases seconds.symm.trans asked.seconds
      exact absurd asked.positive (not_lt.mpr nothing)
    · rw [if_neg nothing]
      cases found : r.devices.find deviceId with
      | none =>
        refine .inl ⟨rfl, fun row asked => ?_⟩
        obtain ⟨device, there, -⟩ := asked.owner
        cases found.symm.trans there
      | some device =>
        by_cases owner : device.userId = userId
        · simp only [owner, ne_eq, not_true_eq_false, if_false]
          cases bound : conversions.bindText ((payload.get "category").getD (.str "other")) with
          | none => exact .inl ⟨rfl, fun row asked => by cases bound.symm.trans asked.category⟩
          | some appCategory =>
            refine (insertUsageEvent_stored around
              (newUsageEvent around deviceId appCategory duration) r).imp ?_ ?_
            · rintro ⟨same, refused⟩
              refine ⟨same, fun row asked => refused ⟨?_, asked.accepted⟩⟩
              have free := asked.fresh
              rw [asked.rest.1] at free
              exact free
            · rintro ⟨⟨fresh, accepted⟩, -, stored⟩
              exact ⟨_, ⟨bound, seconds, not_le.mp nothing, ⟨device, found, owner⟩, rfl, fresh,
                accepted, rfl, rfl⟩, stored⟩
        · simp only [owner, ne_eq, not_false_eq_true, if_true]
          refine .inl ⟨trivial, fun row asked => ?_⟩
          obtain ⟨other, there, own⟩ := asked.owner
          cases found.symm.trans there
          exact owner own

end ScreenSync.Rest
