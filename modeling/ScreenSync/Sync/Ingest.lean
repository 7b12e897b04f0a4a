/-
**Ingestion of device events.**

`ingestEvent` compares an event with the snapshot of its device, keeps the payload of the winner,
stamps it and writes it back. A snapshot is a plain JSON object under the text key of its device: it
keeps neither the timestamp of the event its payload came with nor its forced flag.

`Tracked` runs the same calls and remembers, beside the state, the call whose payload was kept last.

* `chooseWinner_rehydrated` — against a snapshot that can be read back as an event, the incoming
  event wins exactly if it is forced or not older; `chooseWinner_stamped` is the case of a snapshot
  that was written by a call, whose time is that call's `_synced_at`.
* `stampSnapshot_stampSnapshot` — stamping again leaves no trace of the earlier stamp.
* `tracked_shows` — a run of calls for one device is a run of offers to a stamped register, and the
  stored snapshot is the payload of the register's value with the stamps of the last call.
-/

import ScreenSync.Foundation.Register
import ScreenSync.Sync.Conflict

namespace ScreenSync.Sync

open ScreenSync.Foundation ScreenSync.Shared

/-! ### State and calls -/

/-- The snapshots in Redis, under their keys, and the audit stream. -/
structure SyncState where
  snapshots : Dict (Dict Json)
  audit : List ConflictRecord

/-- A call of `ingest_event`: the event, whether the lock was acquired, the id drawn for a conflict
record, and the readings of the clock for that record, for the snapshot and for the broadcast. -/
structure IngestCall where
  event : DeviceEvent
  acquired : Bool
  conflictId : String
  resolvedAt : UtcTime
  syncedAt : UtcTime
  broadcastAt : UtcTime

/-- What a call sends: the event for a retry on the internal channel, or a broadcast over MQTT. -/
inductive Sent
  | retry (channel : String) (message : Dict Json)
  | broadcast (message : Message)

def stateKey (userId : UserId) (deviceId : DeviceId) : String :=
  "screensync:state:" ++ userId ++ ":" ++ deviceId

def pubsubChannel : String := "screensync:sync:events"

/-- `get_device_snapshot`. -/
def getDeviceSnapshot (state : SyncState) (userId : UserId) (deviceId : DeviceId) :
    Option (Dict Json) :=
  state.snapshots.get (stateKey userId deviceId)

/-- `_write_snapshot`. -/
def writeSnapshot (state : SyncState) (userId : UserId) (deviceId : DeviceId)
    (snapshot : Dict Json) : SyncState :=
  { state with snapshots := state.snapshots.set (stateKey userId deviceId) snapshot }

/-- The text after the last `:`. -/
def lastPart (key : String) : String :=
  String.ofList (key.toList.reverse.takeWhile (· ≠ ':')).reverse

/-- `get_family_snapshot`. User ids are UUID texts, so the pattern `prefix*` matches by prefix. -/
def getFamilySnapshot (state : SyncState) (userId : UserId) : Dict Json :=
  (state.snapshots.filter fun entry => (stateKey userId "").toList.isPrefixOf entry.1.toList).foldl
    (fun family entry => Dict.set family (lastPart entry.1) (.obj entry.2)) []

/-! ### Keys -/

theorem stateKey_toList (user : UserId) (deviceId : DeviceId) :
    (stateKey user deviceId).toList = (stateKey user "").toList ++ deviceId.toList := by
  have front : stateKey user "" = "screensync:state:" ++ user ++ ":" := String.append_empty
  rw [front]
  exact String.toList_append

/-- The key under which the state of a device is stored is one of the user's. -/
theorem stateKey_starts (user : UserId) (deviceId : DeviceId) :
    (stateKey user "").toList <+: (stateKey user deviceId).toList :=
  ⟨deviceId.toList, (stateKey_toList user deviceId).symm⟩

/-- The last part of the key is the device's id, which has no colon. -/
theorem lastPart_stateKey (user : UserId) {deviceId : DeviceId} (plain : ':' ∉ deviceId.toList) :
    lastPart (stateKey user deviceId) = deviceId := by
  have letters : ∀ c ∈ deviceId.toList.reverse, decide (c ≠ ':') = true := by
    intro c member
    refine decide_eq_true ?_
    rintro rfl
    exact plain (List.mem_reverse.mp member)
  have colon : ":".toList = [':'] := by simp
  have front : (stateKey user "").toList = ("screensync:state:" ++ user).toList ++ ":".toList :=
    (congrArg String.toList String.append_empty).trans String.toList_append
  have split := stateKey_toList user deviceId
  rw [front, colon] at split
  generalize ("screensync:state:" ++ user).toList = start at split
  have back : (start ++ [':']).reverse = ':' :: start.reverse := by simp
  rw [lastPart, split, List.reverse_append, List.takeWhile_append_of_pos letters, back,
    List.takeWhile_cons_of_neg (by simp), List.append_nil, List.reverse_reverse,
    String.ofList_toList]

/-! ### One call -/

/-- The value of Python's `first or second` on dictionary reads. -/
def pyOr (first second : Option Json) : Option Json :=
  match first with
  | some value => if value.truthy then some value else second
  | none => second

/-- The timestamp of a snapshot: `datetime.min` where neither field has one. A time without an
offset cannot be compared with the incoming one. -/
def snapshotTimestamp (iso : IsoReader) (snapshot : Dict Json) : Except PyError UtcTime :=
  match pyOr (snapshot.get "_synced_at") (snapshot.get "recorded_at") with
  | none => .ok UtcTime.min
  | some tsRaw =>
    if tsRaw.truthy then
      match tsRaw with
      | .str text =>
        match iso.fromisoformat text with
        | .aware ts => .ok ts
        | .naive => .error .typeError
        | .refused => .error (.valueError ("Invalid isoformat string: '" ++ text ++ "'"))
      | _ => .error .typeError
    else .ok UtcTime.min

/-- `_snapshot_to_event`. -/
def snapshotToEvent (iso : IsoReader) (snapshot : Dict Json) (reference : DeviceEvent) :
    Except PyError DeviceEvent := do
  let ts ← snapshotTimestamp iso snapshot
  return {
    deviceId := reference.deviceId
    userId := reference.userId
    priority := reference.priority
    timestamp := ts
    payload := snapshot
    forced := false
    eventId := (snapshot.get "_event_id").getD (.str "") }

/-- `_needs_resolution`. -/
def needsResolution (existing incoming : DeviceEvent) : Prop :=
  incoming.timestamp ≤ existing.timestamp

instance (existing incoming : DeviceEvent) : Decidable (needsResolution existing incoming) :=
  inferInstanceAs (Decidable (_ ≤ _))

/-- Whose payload is kept, the snapshot's (`a`) or the incoming event's (`b`), and the record of the
conflict if there was one. -/
def chooseWinner (iso : IsoReader) (existingState : Option (Dict Json)) (call : IngestCall) :
    Except PyError (Pick × Option ConflictRecord) :=
  match existingState with
  | none => .ok (.b, none)
  | some snapshot => do
    let existingEvent ← snapshotToEvent iso snapshot call.event
    if needsResolution existingEvent call.event then
      let (pick, conflictRecord) := resolve existingEvent call.event call.conflictId call.resolvedAt
      return (pick, some conflictRecord)
    else return (.b, none)

/-- The payload that is kept. -/
def winnerPayload (existingState : Option (Dict Json)) (pick : Pick) (call : IngestCall) :
    Dict Json :=
  match existingState, pick with
  | some snapshot, .a => snapshot
  | _, _ => call.event.payload

/-- Stamp a snapshot with sync metadata. -/
def stampSnapshot (payload : Dict Json) (call : IngestCall) : Dict Json :=
  ((payload.set "_synced_at" (.str call.syncedAt.isoformat)).set "_device_id"
    (.str call.event.deviceId)).set "_event_id" call.event.eventId

/-- The message that hands an event over to a retry. -/
def retryMessage (event : DeviceEvent) : Dict Json :=
  [("user_id", .str event.userId), ("device_id", .str event.deviceId),
    ("payload", .obj event.payload), ("timestamp", .str event.timestamp.isoformat),
    ("priority", .int event.priority), ("forced", .bool event.forced)]

/-- The topic of a family's state. -/
def familyTopic (userId : UserId) : String := "screensync/" ++ userId ++ "/family/sync/state"

/-- `_broadcast_family_state`. -/
def broadcastFamilyState (state : SyncState) (userId : UserId) (now : UtcTime) : List Sent :=
  let family := getFamilySnapshot state userId
  if family.isEmpty then []
  else
    [.broadcast
      { topic := familyTopic userId
        payload := [("user_id", .str userId), ("snapshot", .obj family),
          ("broadcast_at", .str now.isoformat)]
        qos := 1 }]

/-- `ingest_event`. A failure to write the audit log is swallowed by the source and left out here.
An acquired call of the source that broadcasts raises a `TypeError` afterwards, at the `await` of
what `publish` returns. By then the snapshot and the audit log are written and the message is sent,
so the answer `ok` stands for that call too. -/
def ingestEvent (iso : IsoReader) (state : SyncState) (call : IngestCall) :
    Except PyError (List Sent × SyncState) :=
  let incoming := call.event
  if call.acquired then do
    let existingState := getDeviceSnapshot state incoming.userId incoming.deviceId
    let (pick, conflictRecord) ← chooseWinner iso existingState call
    let logged := { state with audit := state.audit ++ conflictRecord.toList }
    let snapshot := stampSnapshot (winnerPayload existingState pick call) call
    let next := writeSnapshot logged incoming.userId incoming.deviceId snapshot
    return (broadcastFamilyState next incoming.userId call.broadcastAt, next)
  else .ok ([.retry pubsubChannel (retryMessage incoming)], state)

/-! ### Whose payload is stored -/

/-- The state, and the call whose payload the latest write kept. -/
structure Tracked where
  state : SyncState
  source : Option IngestCall

/-- The state after a call; one that raises changes nothing. -/
def serveIngest (iso : IsoReader) (state : SyncState) (call : IngestCall) : SyncState :=
  match ingestEvent iso state call with
  | .ok (_, next) => next
  | .error _ => state

/-- The call that the payload comes from after a call. -/
def sourceAfter (iso : IsoReader) (now : Tracked) (call : IngestCall) : Option IngestCall :=
  if call.acquired then
    match chooseWinner iso
        (getDeviceSnapshot now.state call.event.userId call.event.deviceId) call with
    | .ok (.b, _) => some call
    | _ => now.source
  else now.source

/-- One call, with its payload remembered if it is kept. -/
def track (iso : IsoReader) (now : Tracked) (call : IngestCall) : Tracked where
  state := serveIngest iso now.state call
  source := sourceAfter iso now call

/-- The state and the provenance after some calls, from a state without a known source. -/
def tracked (iso : IsoReader) (state : SyncState) (calls : List IngestCall) : Tracked :=
  run (track iso) ⟨state, none⟩ calls

/-- Remembering the source does not change what the calls do. -/
theorem tracked_state (iso : IsoReader) (state : SyncState) (calls : List IngestCall) :
    (tracked iso state calls).state = run (serveIngest iso) state calls := by
  refine run_simulates (fun (now : Tracked) other => now.state = other) (fun _ => True) ?_ rfl
    fun _ _ => trivial
  rintro now _ call rfl -
  rfl

/-! ### Snapshots read back as events -/

/-- A snapshot is read back as an unforced event of the incoming event's device. -/
structure Rehydrated (snapshot : Dict Json) (existing incoming : DeviceEvent) : Prop where
  device : existing.deviceId = incoming.deviceId
  priority : existing.priority = incoming.priority
  payload : existing.payload = snapshot
  unforced : existing.forced = false

variable {iso : IsoReader} {snapshot : Dict Json} {existing incoming : DeviceEvent}
  {state : SyncState} {call : IngestCall}

theorem snapshotToEvent_ok (read : snapshotToEvent iso snapshot incoming = .ok existing) :
    Rehydrated snapshot existing incoming := by
  unfold snapshotToEvent at read
  cases timed : snapshotTimestamp iso snapshot with
  | error raised =>
    rw [timed] at read
    cases read
  | ok ts =>
    rw [timed] at read
    cases read
    exact ⟨rfl, rfl, rfl, rfl⟩

/-- **Who wins against a snapshot**: the incoming event, unless it is unforced and older. -/
theorem Rehydrated.resolve (same : Rehydrated snapshot existing incoming) (conflictId : String)
    (now : UtcTime) : (resolve existing incoming conflictId now).1 =
      if incoming.forced = true ∨ existing.timestamp ≤ incoming.timestamp then .b else .a := by
  show (pickWinner existing incoming).1 = _
  cases forced : incoming.forced with
  | true => rw [pickWinner_forced same.unforced forced, if_pos (.inl rfl)]
  | false =>
    rw [pickWinner_unforced same.unforced forced same.device same.priority]
    by_cases stale : incoming.timestamp < existing.timestamp
    · rw [if_pos stale, if_neg (by simp [stale])]
    · rw [if_neg stale, if_pos (.inr (not_lt.mp stale))]

/-- The fast path takes the winner that the resolver would have picked. -/
theorem chooseWinner_rehydrated (read : snapshotToEvent iso snapshot call.event = .ok existing) :
    ∃ record, chooseWinner iso (some snapshot) call =
      .ok (if call.event.forced = true ∨ existing.timestamp ≤ call.event.timestamp then .b else .a,
        record) := by
  simp only [chooseWinner, read, bind, Except.bind]
  by_cases needed : needsResolution existing call.event
  · rw [if_pos needed,
      ← (snapshotToEvent_ok read).resolve call.conflictId call.resolvedAt]
    exact ⟨_, rfl⟩
  · have newer : existing.timestamp < call.event.timestamp := not_le.mp needed
    rw [if_neg needed, if_pos (.inr newer.le)]
    exact ⟨none, rfl⟩

/-- What an acquired call stores once the winner is known. -/
theorem ingestEvent_of_choice {pick : Pick} {record : Option ConflictRecord}
    (acquired : call.acquired = true)
    (chosen :
      chooseWinner iso (getDeviceSnapshot state call.event.userId call.event.deviceId) call =
        .ok (pick, record)) :
    ∃ sent next, ingestEvent iso state call = .ok (sent, next) ∧
      getDeviceSnapshot next call.event.userId call.event.deviceId =
        some (stampSnapshot
          (winnerPayload (getDeviceSnapshot state call.event.userId call.event.deviceId) pick call)
          call) := by
  simp only [ingestEvent, acquired, if_true, chosen, bind, Except.bind, pure, Except.pure]
  exact ⟨_, _, rfl, Dict.get_set_self ..⟩

/-! ### Stamped snapshots -/

@[simp] theorem stampSnapshot_get_synced (payload : Dict Json) (call : IngestCall) :
    (stampSnapshot payload call).get "_synced_at" = some (.str call.syncedAt.isoformat) := by
  rw [stampSnapshot, Dict.get_set_of_ne _ _ (by decide), Dict.get_set_of_ne _ _ (by decide),
    Dict.get_set_self]

/-- **Stamping again leaves no trace of the earlier stamp.** -/
theorem stampSnapshot_stampSnapshot (payload : Dict Json) (first second : IngestCall) :
    stampSnapshot (stampSnapshot payload first) second = stampSnapshot payload second := by
  simp only [stampSnapshot]
  -- the three keys are there: each new stamp moves to the old one of its key and replaces it
  rw [Dict.set_comm _ (show "_event_id" ≠ "_synced_at" by decide) _ _ (by simp [Dict.get_set]),
    Dict.set_comm _ (show "_device_id" ≠ "_synced_at" by decide) _ _ (by simp), Dict.set_set,
    Dict.set_comm _ (show "_event_id" ≠ "_device_id" by decide) _ _ (by simp), Dict.set_set,
    Dict.set_set]

/-- The timestamp of a snapshot that a call wrote is that call's reading of the clock. -/
theorem snapshotTimestamp_stamped (iso : IsoReader) (payload : Dict Json) (call : IngestCall) :
    snapshotTimestamp iso (stampSnapshot payload call) = .ok call.syncedAt := by
  have truthy : (Json.str call.syncedAt.isoformat).truthy = true :=
    decide_eq_true call.syncedAt.isoformat_ne_empty
  rw [snapshotTimestamp, stampSnapshot_get_synced, pyOr]
  simp only [truthy, if_true, iso.fromisoformat_isoformat]

/-- A stamped snapshot read back as an event. -/
def stampedEvent (payload : Dict Json) (last : IngestCall) (reference : DeviceEvent) :
    DeviceEvent where
  deviceId := reference.deviceId
  userId := reference.userId
  priority := reference.priority
  timestamp := last.syncedAt
  payload := stampSnapshot payload last
  forced := false
  eventId := ((stampSnapshot payload last).get "_event_id").getD (.str "")

theorem snapshotToEvent_stamped (iso : IsoReader) (payload : Dict Json) (last : IngestCall)
    (reference : DeviceEvent) : snapshotToEvent iso (stampSnapshot payload last) reference =
      .ok (stampedEvent payload last reference) := by
  rw [snapshotToEvent, snapshotTimestamp_stamped]
  rfl

/-- **Who wins against a stamped snapshot**, through the fast path or the resolver. -/
theorem chooseWinner_stamped (iso : IsoReader) (payload : Dict Json) (last call : IngestCall) :
    ∃ record, chooseWinner iso (some (stampSnapshot payload last)) call =
      .ok (if call.event.forced = true ∨ last.syncedAt ≤ call.event.timestamp then .b else .a,
        record) :=
  chooseWinner_rehydrated (snapshotToEvent_stamped iso payload last call.event)

/-- What an acquired call does once the winner is known. -/
theorem track_of_choice {iso : IsoReader} {now : Tracked} {call : IngestCall} {pick : Pick}
    {record : Option ConflictRecord} (acquired : call.acquired = true)
    (chosen :
      chooseWinner iso (getDeviceSnapshot now.state call.event.userId call.event.deviceId) call =
        .ok (pick, record)) :
    (track iso now call).source = (if pick = .b then some call else now.source) ∧
      getDeviceSnapshot (track iso now call).state call.event.userId call.event.deviceId =
        some (stampSnapshot
          (winnerPayload (getDeviceSnapshot now.state call.event.userId call.event.deviceId) pick
            call)
          call) := by
  obtain ⟨sent, next, served, written⟩ := ingestEvent_of_choice acquired chosen
  simp only [track, serveIngest, served, sourceAfter, acquired, if_true, chosen]
  cases pick with
  | a => exact ⟨rfl, written⟩
  | b => exact ⟨rfl, written⟩

/-! ### Runs of one device -/

/-- How the calls are timed: by the device's clock, and by the stamp the server puts on. -/
def timing : Timing IngestCall UtcTime where
  time call := call.event.timestamp
  stamp call := call.syncedAt
  forced call := call.event.forced

/-- What a register's content looks like in the store. -/
def heldSnapshot (held : Held IngestCall) : Dict Json :=
  stampSnapshot held.source.event.payload held.last

/-- The calls are for one device, and each acquires the lock. -/
structure ForDevice (userId : UserId) (deviceId : DeviceId) (call : IngestCall) : Prop where
  user : call.event.userId = userId
  device : call.event.deviceId = deviceId
  acquired : call.acquired = true

/-- The tracked state shows a register. -/
structure Shows (userId : UserId) (deviceId : DeviceId) (now : Tracked)
    (register : Option (Held IngestCall)) : Prop where
  source : now.source = register.map Held.source
  snapshot : getDeviceSnapshot now.state userId deviceId = register.map heldSnapshot

theorem track_shows (iso : IsoReader) {userId : UserId} {deviceId : DeviceId} {now : Tracked}
    {register : Option (Held IngestCall)} (before : Shows userId deviceId now register)
    {call : IngestCall} (own : ForDevice userId deviceId call) :
    Shows userId deviceId (track iso now call) (timing.offer register call) := by
  obtain ⟨rfl, rfl, acquired⟩ := own
  obtain ⟨source, snapshot⟩ := before
  cases register with
  | none =>
    have chosen : chooseWinner iso
        (getDeviceSnapshot now.state call.event.userId call.event.deviceId) call =
          .ok (.b, none) := by
      rw [snapshot]
      rfl
    obtain ⟨kept, written⟩ := track_of_choice acquired chosen
    refine ⟨kept, ?_⟩
    rw [written, snapshot]
    rfl
  | some held =>
    obtain ⟨record, chosen⟩ :=
      chooseWinner_stamped iso held.source.event.payload held.last call
    rw [show some (stampSnapshot held.source.event.payload held.last) = _ from snapshot.symm]
      at chosen
    by_cases accepted : call.event.forced = true ∨ held.last.syncedAt ≤ call.event.timestamp
    · have taken : timing.offer (some held) call = some ⟨call, call⟩ := Timing.offer_source accepted
      rw [if_pos accepted] at chosen
      obtain ⟨kept, written⟩ := track_of_choice acquired chosen
      rw [taken]
      refine ⟨kept, ?_⟩
      rw [written, snapshot]
      rfl
    · have refused : timing.offer (some held) call = some ⟨held.source, call⟩ :=
        Timing.offer_source_of_not accepted
      rw [if_neg accepted] at chosen
      obtain ⟨kept, written⟩ := track_of_choice acquired chosen
      rw [refused]
      refine ⟨kept.trans source, ?_⟩
      rw [written, snapshot]
      exact congrArg some (stampSnapshot_stampSnapshot ..)

/-- **Provenance.** After any calls for a device that had no snapshot, what is stored is the payload
of the register's value, under the stamps of the last call. -/
theorem tracked_shows (iso : IsoReader) {userId : UserId} {deviceId : DeviceId} {state : SyncState}
    (fresh : getDeviceSnapshot state userId deviceId = none) (calls : List IngestCall)
    (own : ∀ call ∈ calls, ForDevice userId deviceId call) :
    Shows userId deviceId (tracked iso state calls) (timing.after calls) := by
  have start : Shows userId deviceId ⟨state, none⟩ none := ⟨rfl, fresh⟩
  refine run_simulates (Shows userId deviceId) (ForDevice userId deviceId)
    (fun now register call before mine => ?_) start own
  exact track_shows iso before mine

end ScreenSync.Sync
