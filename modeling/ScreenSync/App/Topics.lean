/-
**Topics.**

The backend publishes under topics made of a user's and a device's id, and listens on the broker for
what devices report. The ids are UUID texts, so they have no slash.

* `Address` — the topic helpers of `mqtt_client.py` and the topics written out elsewhere, as what
  they stand for.
* `topicLevels_topic` — a topic splits into what it was made of.
* `publications_heard` — two publications share a topic only if they are for the same place, and
  the listener does nothing about what the backend publishes, wherever it turns up in a run.
-/

import ScreenSync.App.Wire
import ScreenSync.Decision.Broadcast
import ScreenSync.Rest.Dispatch
import ScreenSync.Rest.Privacy

namespace ScreenSync.App

open ScreenSync.Foundation ScreenSync.Shared ScreenSync.Decision ScreenSync.Override ScreenSync.Sync
  ScreenSync.Rest

/-! ### Addresses -/

/-- What a topic stands for. -/
inductive Address
  | budget (userId : UserId) (deviceId : DeviceId)
  | enforce (userId : UserId) (deviceId : DeviceId)
  | overrideResult (userId : UserId) (deviceId : DeviceId)
  | familyOverride (userId : UserId)
  | familyState (userId : UserId)

namespace Address

def topic : Address → String
  | .budget userId deviceId => topicBudget userId deviceId
  | .enforce userId deviceId => topicEnforce userId deviceId
  | .overrideResult userId deviceId => topicOverrideResult userId deviceId
  | .familyOverride userId => topicFamilyOverride userId
  | .familyState userId => familyTopic userId

/-- The levels after the first one. -/
def levels : Address → List String
  | .budget userId deviceId => [userId, deviceId, "budget", "receive"]
  | .enforce userId deviceId => [userId, deviceId, "control", "enforce"]
  | .overrideResult userId deviceId => [userId, deviceId, "override", "result"]
  | .familyOverride userId => [userId, "family", "override", "request"]
  | .familyState userId => [userId, "family", "sync", "state"]

/-- No id has a slash. -/
def Plain : Address → Prop
  | .budget userId deviceId | .enforce userId deviceId | .overrideResult userId deviceId =>
    '/' ∉ userId.toList ∧ '/' ∉ deviceId.toList
  | .familyOverride userId | .familyState userId => '/' ∉ userId.toList

theorem levels_inj {first second : Address} (same : first.levels = second.levels) :
    first = second := by
  cases first <;> cases second <;> simp_all [levels]

end Address

/-- A topic that is made of levels splits into them. -/
theorem topicLevels_join {topic : String} {levels : List String} (nonempty : levels ≠ [])
    (plain : ∀ level ∈ levels, '/' ∉ level.toList)
    (joined : topic.toList = ['/'].intercalate (levels.map String.toList)) :
    topicLevels topic = levels := by
  have split : topic.toList.splitOn '/' = levels.map String.toList := by
    rw [joined]
    refine List.splitOn_intercalate _ ?_ (by simpa using nonempty)
    intro level member
    obtain ⟨text, inside, rfl⟩ := List.mem_map.mp member
    exact plain text inside
  unfold topicLevels
  rw [split, List.map_map]
  exact (List.map_congr_left fun level _ => String.ofList_toList).trans (List.map_id _)

/-- **A topic splits into what it was made of.** -/
theorem topicLevels_topic {address : Address} (plain : address.Plain) :
    topicLevels address.topic = "screensync" :: address.levels := by
  refine topicLevels_join (List.cons_ne_nil _ _) ?_ ?_
  · cases address <;> simpa [Address.levels, Address.Plain] using plain
  · cases address <;>
      simp [Address.topic, Address.levels, topicBudget, topicEnforce, topicOverrideResult,
        topicFamilyOverride, familyTopic, List.intercalate, List.intersperse,
        String.toList_append]

/-- **Topics tell addresses apart.** -/
theorem topic_inj {first second : Address} (plain : first.Plain) (plain' : second.Plain)
    (same : first.topic = second.topic) : first = second := by
  have levels := congrArg topicLevels same
  rw [topicLevels_topic plain, topicLevels_topic plain'] at levels
  exact Address.levels_inj (List.cons.inj levels).2

/-! ### What the listener makes of them -/

/-- No subscription matches. -/
theorem topic_unsubscribed {address : Address} (plain : address.Plain) :
    wildcards topicUsage address.topic = none ∧ wildcards topicHeartbeat address.topic = none := by
  constructor
  · refine Option.eq_none_iff_forall_ne_some.mpr fun found matched => ?_
    obtain ⟨userId, deviceId, -, levels⟩ := (wildcards_usage _ _).mp matched
    rw [topicLevels_topic plain] at levels
    cases address <;> simp [Address.levels] at levels
  · refine Option.eq_none_iff_forall_ne_some.mpr fun found matched => ?_
    obtain ⟨userId, deviceId, -, levels⟩ := (wildcards_heartbeat _ _).mp matched
    rw [topicLevels_topic plain] at levels
    cases address <;> simp [Address.levels] at levels

/-- No handler is called. -/
theorem dispatch_topic {address : Address} (plain : address.Plain) (payload : Option Json) :
    dispatch ⟨address.topic, payload⟩ = none := by
  have levels := topicLevels_topic plain
  cases payload with
  | none =>
    unfold dispatch
    cases messageParts address.topic <;> rfl
  | some payload =>
    cases address <;> exact dispatch_long levels payload

/-- The listener: a message, delivered with what it finds around. -/
def hear (conversions : Conversions) (r : Registry) (delivery : Surroundings × MqttMessage) :
    Registry :=
  onMessage conversions delivery.1 delivery.2 r

/-! ### Publications -/

/-- Where a publication may send a message: an enforcement to its device, the broadcast of a
rebalance to devices of its user, a family state to its user, and the result of an override to its
device, under the user that the metadata names. -/
def Publication.Addresses : Publication → Address → Prop
  | .enforcement device _ _ _, address => address = .enforce device.userId device.id
  | .rebalance store userId _ _ _, address =>
    ∃ device ∈ store.db.devices.rows, device.userId = userId ∧ address = .budget userId device.id
  | .familyState _ userId _, address => address = .familyState userId
  | .overrideResult deviceId _ _ _ call, address =>
    ∃ userId, call.metaUserId = some userId ∧ address = .overrideResult userId deviceId

/-- An update of a rebalance is for a device of the user. -/
theorem updated_device {store : Store} {userId : UserId} {today : Date} {now : UtcTime}
    {update : RebalancedBudget} (listed : update ∈ (rebalanceBudgets store userId today now).1) :
    ∃ device ∈ store.db.devices.rows, device.userId = userId ∧ update.deviceId = device.id := by
  rw [rebalanceBudgets_updates] at listed
  obtain ⟨row, active, rfl⟩ := List.mem_map.mp listed
  have joined : row ∈ store.db.budgetRows userId today := List.mem_of_mem_filter active
  obtain ⟨-, owner⟩ := Database.mem_budgetRows.mp joined
  obtain ⟨found, mine, -⟩ := Database.ownerOf_eq_some.mp owner
  exact ⟨row.2, (Table.find_eq_some.mp found).1, mine, rfl⟩

/-- **Where a publication's messages go.** -/
theorem addressed {publication : Publication} {message : Message}
    (built : message ∈ publication.messages) :
    ∃ address, publication.Addresses address ∧ message.topic = address.topic := by
  cases publication with
  | enforcement device result budget now =>
    rw [List.mem_singleton.mp built]
    exact ⟨_, rfl, rfl⟩
  | rebalance store userId today now publishedAt =>
    have listed : message ∈ (rebalanceBudgets store userId today now).1.mapIdx fun i update =>
        rebalanceMessage userId update (publishedAt i) := built
    generalize updates : (rebalanceBudgets store userId today now).1 = changed at listed
    obtain ⟨i, inside, rfl⟩ := List.mem_mapIdx.mp listed
    have member : changed[i] ∈ (rebalanceBudgets store userId today now).1 :=
      updates ▸ List.getElem_mem inside
    obtain ⟨device, registered, owner, same⟩ := updated_device member
    refine ⟨_, ⟨device, registered, owner, rfl⟩, ?_⟩
    rw [← same]
    rfl
  | familyState state userId now =>
    obtain ⟨sent, broadcast, found⟩ := List.mem_filterMap.mp built
    rw [broadcastFamilyState] at broadcast
    split at broadcast
    · cases broadcast
    · rw [List.mem_singleton.mp broadcast] at found
      cases found
      exact ⟨_, rfl, rfl⟩
  | overrideResult deviceId overrideId approved extraSeconds call =>
    obtain ⟨userId, known, rfl⟩ := Option.map_eq_some_iff.mp (Option.mem_toList.mp built)
    exact ⟨_, ⟨userId, known, rfl⟩, rfl⟩

/-- **What the backend's own messages do.** Whatever is published, in whatever state, for ids
without a slash: each message is on a topic of its publication, no two publications that are meant
for different places share a topic, and no subscription of the listener matches it. Should the
broker deliver it all the same, at any point of a run, the run ends as it does without it. -/
theorem publications_heard (publications : List Publication)
    (plain : ∀ publication ∈ publications, ∀ address, publication.Addresses address →
      address.Plain) :
    (∀ publication ∈ publications, ∀ message ∈ publication.messages,
      ∃ address, publication.Addresses address ∧ message.topic = address.topic) ∧
      (∀ first ∈ publications, ∀ second ∈ publications, ∀ address other,
        first.Addresses address → second.Addresses other →
          (address.topic = other.topic ↔ address = other)) ∧
      ∀ publication ∈ publications, ∀ message ∈ publication.messages,
        wildcards topicUsage message.topic = none ∧
          wildcards topicHeartbeat message.topic = none ∧
          ∀ conversions around payload r before after,
            run (hear conversions) r (before ++ (around, ⟨message.topic, payload⟩) :: after) =
              run (hear conversions) r (before ++ after) := by
  refine ⟨fun _ _ message built => addressed built, ?_, ?_⟩
  · intro first here second there address other mine theirs
    constructor
    · exact topic_inj (plain first here address mine) (plain second there other theirs)
    · rintro rfl
      rfl
  · intro publication here message built
    obtain ⟨address, meant, same⟩ := addressed built
    have known := plain publication here address meant
    obtain ⟨usage, heartbeat⟩ := topic_unsubscribed known
    rw [same]
    refine ⟨usage, heartbeat, fun conversions around payload r before after => ?_⟩
    rw [run_append, run_append, run_cons]
    refine congrArg (run (hear conversions) · after) ?_
    show onMessage conversions around ⟨address.topic, payload⟩ _ = _
    rw [onMessage_dispatch, dispatch_topic known]
    rfl

/-! ### A tablet and its family -/

/-- A block for the tablet, and a broadcast to its family. -/
def bedtimeNews : List Publication :=
  [bedtimeBlock, .familyState ⟨[(stateKey "family" "tablet", [])], []⟩ "family" (someTime 23 0)]

theorem bedtimeNews_plain : ∀ publication ∈ bedtimeNews, ∀ address,
    publication.Addresses address → address.Plain := by
  unfold bedtimeNews
  simp only [List.forall_mem_cons]
  refine ⟨?_, ?_, fun _ none => absurd none List.not_mem_nil⟩
  · rintro _ rfl
    simp [Address.Plain, tablet]
  · rintro _ rfl
    simp [Address.Plain]

/-- The block reaches the tablet, and the listener takes no notice. -/
theorem publications_heard_bedtimeNews :
    ∃ message ∈ bedtimeBlock.messages,
      message.topic = "screensync/family/tablet/control/enforce" ∧
      wildcards topicUsage message.topic = none ∧
      wildcards topicHeartbeat message.topic = none ∧
      run (hear .strict) noDevices [(undisturbed "" 1, ⟨message.topic, some .null⟩)] =
        run (hear .strict) noDevices [] := by
  have heard := (publications_heard bedtimeNews bedtimeNews_plain).2.2 bedtimeBlock
    List.mem_cons_self _ (List.mem_singleton_self _)
  exact ⟨_, List.mem_singleton_self _, rfl, heard.1, heard.2.1,
    heard.2.2 .strict (undisturbed "" 1) (some .null) noDevices [] []⟩

end ScreenSync.App
