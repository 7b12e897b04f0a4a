/-
**Which handler a message reaches.**

`_on_connect` subscribes to two filters of different lengths, and `_on_message` serves both by the
places of the levels, after one check of their number. The check is for the longer filter, so no
heartbeat passes it.

* `dispatch` — the handler that a message reaches, and what it is handed.
* `heartbeat_dropped` — a heartbeat's topic reaches no handler.
* `exact_iff` — the topics on which `_on_message` accepts what the filters match.
-/

import ScreenSync.Foundation.TopicFilter
import ScreenSync.Rest.Listener

namespace ScreenSync.Rest

open ScreenSync.Foundation ScreenSync.Shared

/-- A call of a handler. -/
inductive HandlerCall
  | usage (userId : UserId) (deviceId : DeviceId) (payload : Json)
  | heartbeat (deviceId : DeviceId) (payload : Json)

/-- The call that `_on_message` makes, if any. -/
def dispatch (message : MqttMessage) : Option HandlerCall :=
  match messageParts message.topic with
  | none => none
  | some (userId, deviceId, eventType) =>
    match message.payload with
    | none => none
    | some payload =>
      if eventType = "usage" then some (.usage userId deviceId payload)
      else if eventType = "heartbeat" then some (.heartbeat deviceId payload)
      else none

/-- What the call does. -/
def HandlerCall.run (conversions : Conversions) (around : Surroundings) :
    HandlerCall → Registry → Registry
  | .usage userId deviceId (.obj entries), r =>
    handleUsage conversions around userId deviceId entries r
  | .usage .., r => r
  | .heartbeat deviceId _, r => handleHeartbeat around deviceId r

/-- **A message** does what the call it is dispatched to does. -/
theorem onMessage_dispatch (conversions : Conversions) (around : Surroundings)
    (message : MqttMessage) (r : Registry) :
    onMessage conversions around message r =
      (dispatch message).elim r fun call => call.run conversions around r := by
  unfold onMessage dispatch
  cases messageParts message.topic with
  | none => rfl
  | some parts =>
    obtain ⟨userId, deviceId, eventType⟩ := parts
    cases message.payload with
    | none => rfl
    | some payload =>
      by_cases usage : eventType = "usage"
      · simp only [if_pos usage, Option.elim_some]
        cases payload <;> rfl
      · by_cases heartbeat : eventType = "heartbeat"
        · simp only [if_neg usage, if_pos heartbeat, Option.elim_some]
          rfl
        · simp only [if_neg usage, if_neg heartbeat, Option.elim_none]

/-! ### The subscriptions -/

/-- `TOPIC_USAGE`. -/
def topicUsage : String := "screensync/+/+/usage/report"

/-- `TOPIC_HEARTBEAT`. -/
def topicHeartbeat : String := "screensync/+/+/heartbeat"

/-- The levels of a filter, as the broker reads it. -/
def filterLevels (filter : String) : List (FilterLevel String) :=
  (topicLevels filter).map fun level => if level = "+" then .any else .exactly level

/-- What the wildcards of a subscription stand for in a topic. -/
def wildcards (filter topic : String) : Option (List String) :=
  captured (filterLevels filter) (topicLevels topic)

/-- A filter with wildcards for the user and the device only. -/
theorem wildcards_iff {filter : String} {others : List String}
    (levels : topicLevels filter = "screensync" :: "+" :: "+" :: others) (plain : "+" ∉ others)
    (topic : String) (found : List String) :
    wildcards filter topic = some found ↔ ∃ userId deviceId, found = [userId, deviceId] ∧
      topicLevels topic = "screensync" :: userId :: deviceId :: others := by
  have read : filterLevels filter =
      .exactly "screensync" :: .any :: .any :: others.map .exactly := by
    have rest : others.map (fun level => if level = "+" then FilterLevel.any else .exactly level) =
        others.map .exactly :=
      List.map_congr_left fun level member => if_neg (by rintro rfl; exact plain member)
    rw [filterLevels, levels, ← rest]
    rfl
  rw [wildcards, captured_iff, read]
  match found with
  | [] => simp [filled]
  | [_] => simp [filled]
  | userId :: deviceId :: more =>
    simp only [filled, Option.map_map, Option.map_eq_some_iff, filled_exactly]
    constructor
    · rintro ⟨_, ⟨rfl, rfl⟩, topic⟩
      exact ⟨userId, deviceId, rfl, topic.symm⟩
    · rintro ⟨_, _, same, topic⟩
      cases same
      exact ⟨others, ⟨rfl, rfl⟩, topic.symm⟩

theorem wildcards_usage (topic : String) (found : List String) :
    wildcards topicUsage topic = some found ↔ ∃ userId deviceId, found = [userId, deviceId] ∧
      topicLevels topic = ["screensync", userId, deviceId, "usage", "report"] :=
  wildcards_iff (by decide) (by decide) topic found

theorem wildcards_heartbeat (topic : String) (found : List String) :
    wildcards topicHeartbeat topic = some found ↔ ∃ userId deviceId, found = [userId, deviceId] ∧
      topicLevels topic = ["screensync", userId, deviceId, "heartbeat"] :=
  wildcards_iff (by decide) (by decide) topic found

/-! ### What is accepted -/

/-- A call is made for an object exactly if the topic matches the handler's filter, and the ids
are what the wildcards stand for. -/
structure Exact (topic : String) : Prop where
  usage : ∀ entries userId deviceId payload,
    dispatch ⟨topic, some (.obj entries)⟩ = some (.usage userId deviceId payload) ↔
      payload = .obj entries ∧ wildcards topicUsage topic = some [userId, deviceId]
  heartbeat : ∀ entries deviceId payload,
    dispatch ⟨topic, some (.obj entries)⟩ = some (.heartbeat deviceId payload) ↔
      payload = .obj entries ∧ ∃ userId, wildcards topicHeartbeat topic = some [userId, deviceId]

/-- The topics on which the number of the levels and the fourth of them decide as the filters do. -/
def Decided (topic : String) : Prop :=
  match topicLevels topic with
  | [first, _, _, fourth] => first = "screensync" → fourth ≠ "heartbeat"
  | first :: _ :: _ :: fourth :: fifth :: others =>
    fourth ≠ "heartbeat" ∧
      (fourth = "usage" → first = "screensync" ∧ fifth = "report" ∧ others = [])
  | _ => True

/-- A topic of four levels or fewer reaches no handler. -/
theorem dispatch_short {topic : String} (short : (topicLevels topic).length < 5)
    (payload : Option Json) : dispatch ⟨topic, payload⟩ = none := by
  have unread : messageParts topic = none := by
    unfold messageParts
    split
    · rename_i levels
      rw [levels] at short
      exact absurd short (by simp)
    · rfl
  unfold dispatch
  rw [unread]

/-- **A heartbeat is dropped**: its topic has one level too few for the check. -/
theorem heartbeat_dropped {topic : String} {found : List String}
    (subscribed : wildcards topicHeartbeat topic = some found) (payload : Option Json) :
    dispatch ⟨topic, payload⟩ = none := by
  obtain ⟨userId, deviceId, -, levels⟩ := (wildcards_heartbeat topic found).mp subscribed
  exact dispatch_short (by rw [levels]; exact Nat.lt_succ_self 4) payload

/-- No heartbeat that the broker delivers marks a device as online. -/
theorem onMessage_heartbeat {topic : String} {found : List String}
    (subscribed : wildcards topicHeartbeat topic = some found) (conversions : Conversions)
    (around : Surroundings) (payload : Option Json) (r : Registry) :
    onMessage conversions around ⟨topic, payload⟩ r = r := by
  rw [onMessage_dispatch, heartbeat_dropped subscribed payload]
  rfl

/-- The call made on a topic of five levels or more. -/
theorem dispatch_long {topic first userId deviceId fourth fifth : String} {others : List String}
    (levels : topicLevels topic = first :: userId :: deviceId :: fourth :: fifth :: others)
    (payload : Json) :
    dispatch ⟨topic, some payload⟩ =
      if fourth = "usage" then some (.usage userId deviceId payload)
      else if fourth = "heartbeat" then some (.heartbeat deviceId payload)
      else none := by
  unfold dispatch messageParts
  rw [levels]

theorem exact_short {topic : String} (short : (topicLevels topic).length < 5) :
    Exact topic ↔
      ∀ userId deviceId, topicLevels topic ≠ ["screensync", userId, deviceId, "heartbeat"] := by
  constructor
  · intro exact userId deviceId levels
    have called := (exact.heartbeat [] deviceId (.obj [])).mpr
      ⟨rfl, userId, (wildcards_heartbeat topic _).mpr ⟨userId, deviceId, rfl, levels⟩⟩
    rw [dispatch_short short] at called
    cases called
  · intro unlike
    constructor
    · intro entries userId deviceId payload
      rw [dispatch_short short]
      refine ⟨fun called => (by cases called), ?_⟩
      rintro ⟨-, subscribed⟩
      obtain ⟨_, _, -, levels⟩ := (wildcards_usage topic _).mp subscribed
      rw [levels] at short
      simp at short
    · intro entries deviceId payload
      rw [dispatch_short short]
      refine ⟨fun called => (by cases called), ?_⟩
      rintro ⟨-, userId, subscribed⟩
      obtain ⟨_, _, -, levels⟩ := (wildcards_heartbeat topic _).mp subscribed
      exact absurd levels (unlike _ _)

theorem exact_long {topic first userId deviceId fourth fifth : String} {others : List String}
    (levels : topicLevels topic = first :: userId :: deviceId :: fourth :: fifth :: others) :
    Exact topic ↔ fourth ≠ "heartbeat" ∧
      (fourth = "usage" → first = "screensync" ∧ fifth = "report" ∧ others = []) := by
  have unsubscribed : ∀ found, wildcards topicHeartbeat topic ≠ some found := by
    intro found subscribed
    obtain ⟨_, _, -, again⟩ := (wildcards_heartbeat topic _).mp subscribed
    rw [levels] at again
    simp at again
  constructor
  · intro exact
    constructor
    · rintro rfl
      obtain ⟨-, _, subscribed⟩ := (exact.heartbeat [] deviceId (.obj [])).mp
        (dispatch_long levels _)
      exact unsubscribed _ subscribed
    · rintro rfl
      obtain ⟨-, subscribed⟩ := (exact.usage [] userId deviceId (.obj [])).mp
        (dispatch_long levels _)
      obtain ⟨_, _, -, again⟩ := (wildcards_usage topic _).mp subscribed
      rw [levels] at again
      cases again
      exact ⟨rfl, rfl, rfl⟩
  · rintro ⟨unlike, usage⟩
    constructor
    · intro entries someone something payload
      rw [dispatch_long levels]
      constructor
      · intro called
        by_cases isUsage : fourth = "usage"
        · obtain ⟨rfl, rfl, rfl⟩ := usage isUsage
          rw [if_pos isUsage] at called
          cases called
          exact ⟨rfl, (wildcards_usage topic _).mpr ⟨_, _, rfl, isUsage ▸ levels⟩⟩
        · rw [if_neg isUsage, if_neg unlike] at called
          cases called
      · rintro ⟨rfl, subscribed⟩
        obtain ⟨_, _, ids, again⟩ := (wildcards_usage topic _).mp subscribed
        cases ids
        rw [levels] at again
        cases again
        rfl
    · intro entries something payload
      rw [dispatch_long levels, if_neg unlike]
      constructor
      · intro called
        split at called <;> cases called
      · rintro ⟨-, _, subscribed⟩
        exact absurd subscribed (unsubscribed _)

/-- **What is accepted** is what the filters match, exactly on the decided topics. -/
theorem exact_iff (topic : String) : Exact topic ↔ Decided topic := by
  unfold Decided
  match levels : topicLevels topic with
  | [] | [_] | [_, _] | [_, _, _] | [_, _, _, _] =>
    exact (exact_short (by simp [levels])).trans (by simp [levels])
  | _ :: _ :: _ :: _ :: _ :: _ => exact exact_long levels

/-- The heartbeat of the tablet is dropped. -/
theorem tablet_heartbeat_dropped : ¬ Exact "screensync/family/tablet/heartbeat" := by
  intro exact
  have called := (exact.heartbeat [] "tablet" (.obj [])).mpr ⟨rfl, "family", by decide⟩
  have dropped : dispatch ⟨"screensync/family/tablet/heartbeat", some (.obj [])⟩ = none := by
    decide
  cases dropped.symm.trans called

end ScreenSync.Rest
