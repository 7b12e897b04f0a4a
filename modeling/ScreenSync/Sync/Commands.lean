/-
**`ingest_event`, one Redis command at a time.**

A call takes its user's lock with `SET NX PX`. If the lock is held, it publishes the event for a
retry. Otherwise it reads the snapshot of the device, records the conflict if there is one, writes
the snapshot and broadcasts the family's state, and gives the lock back: `GET`, and `DELETE` if the
key still holds its token. `Phase` is the command a call sends next, `callStep` what it does.

* `callStep_effect` — everything a command can do.
* `CallEffect.stamped` — every snapshot in the store has been stamped by a call, so that no
  comparison raises (`chooseWinner_of_stamped`).
* `alone_ingests` — a call that runs alone leaves the snapshots and the audit stream as
  `ingestEvent` does.
-/

import Mathlib.Logic.Relation
import ScreenSync.Foundation.Run
import ScreenSync.Sync.Ingest

namespace ScreenSync.Sync

open ScreenSync.Foundation ScreenSync.Shared

/-! ### The store and the phases of a call -/

/-- How the Redis client hands over a reply: as bytes, or as text it has decoded already. -/
inductive Replies
  | bytes
  | text
  deriving DecidableEq

/-- The lock keys `screensync:lock:{user_id}`, the snapshots and the audit stream. -/
structure Redis where
  locks : UserId → Option String
  state : SyncState

/-- What a call draws and reads of its clocks. `token` is the text of its user and of its reading of
the clock; `eventId` is the id an event is given when it is rebuilt from a message. -/
structure Reads where
  token : String
  eventId : String
  conflictId : String
  resolvedAt : UtcTime
  syncedAt : UtcTime
  broadcastAt : UtcTime

/-- The call as `ingestEvent` takes it, once it has the lock. -/
def ingestCall (reads : Reads) (event : DeviceEvent) : IngestCall where
  event := event
  acquired := true
  conflictId := reads.conflictId
  resolvedAt := reads.resolvedAt
  syncedAt := reads.syncedAt
  broadcastAt := reads.broadcastAt

/-- What a call does next. -/
inductive Phase
  /-- `SET NX PX` of the lock key -/
  | ready
  /-- `PUBLISH`, since the lock was held -/
  | refused
  /-- `GET` of the snapshot -/
  | acquired
  /-- `XADD` to the audit stream -/
  | recording (payload : Dict Json) (record : ConflictRecord)
  /-- `SET` of the snapshot -/
  | writing (payload : Dict Json)
  /-- `KEYS` of the family -/
  | written
  /-- `GET` of the next of these keys, and the broadcast after the last one -/
  | listing (keys : List String) (family : Dict Json)
  /-- `GET` of the lock key -/
  | releasing
  /-- `DELETE` of the lock key -/
  | owning
  /-- nothing: the event was published for a retry -/
  | passedOn
  /-- nothing: the call has returned or raised -/
  | finished

/-- The call is between its `SET NX` and its write of the snapshot. -/
def Phase.IsInside : Phase → Prop
  | .acquired | .recording _ _ | .writing _ => True
  | _ => False

/-- The call has not yet compared its event with a snapshot, nor passed it on. -/
def Phase.IsPending : Phase → Prop
  | .ready | .refused | .acquired => True
  | _ => False

/-! ### One command -/

/-- `SET key token PX LOCK_TIMEOUT_MS NX`. -/
def Redis.setLock (redis : Redis) (userId : UserId) (token : Option String) : Redis :=
  { redis with locks := Function.update redis.locks userId token }

theorem setLock_locks (redis : Redis) (userId other : UserId) (token : Option String) :
    (redis.setLock userId token).locks other =
      if other = userId then token else redis.locks other :=
  Function.update_apply ..

/-- The keys that match the pattern of a user's snapshots. -/
def familyKeys (state : SyncState) (userId : UserId) : List String :=
  (state.snapshots.filter fun entry =>
    (stateKey userId "").toList.isPrefixOf entry.1.toList).map Prod.fst

/-- The message with a family's state, if there is anything in it. -/
def familyMessage (userId : UserId) (family : Dict Json) (now : UtcTime) : List Sent :=
  if family.isEmpty then []
  else
    [.broadcast
      { topic := familyTopic userId
        payload := [("user_id", .str userId), ("snapshot", .obj family),
          ("broadcast_at", .str now.isoformat)]
        qos := 1 }]

/-- The next command of a call. An exception goes to the `finally` that gives the lock back. -/
def callStep (iso : IsoReader) (form : Replies) (reads : Reads) (event : DeviceEvent)
    (redis : Redis) : Phase → Phase × Redis × List Sent
  | .ready =>
    match redis.locks event.userId with
    | none => (.acquired, redis.setLock event.userId (some reads.token), [])
    | some _ => (.refused, redis, [])
  | .refused => (.passedOn, redis, [.retry pubsubChannel (retryMessage event)])
  | .acquired =>
    let existingState := getDeviceSnapshot redis.state event.userId event.deviceId
    match chooseWinner iso existingState (ingestCall reads event) with
    | .error _ => (.releasing, redis, [])
    | .ok (pick, conflictRecord) =>
      let payload := winnerPayload existingState pick (ingestCall reads event)
      match conflictRecord with
      | some record => (.recording payload record, redis, [])
      | none => (.writing payload, redis, [])
  | .recording payload record =>
    (.writing payload,
      { redis with state := { redis.state with audit := redis.state.audit ++ [record] } }, [])
  | .writing payload =>
    let snapshot := stampSnapshot payload (ingestCall reads event)
    (.written,
      { redis with state := writeSnapshot redis.state event.userId event.deviceId snapshot }, [])
  | .written => (.listing (familyKeys redis.state event.userId) [], redis, [])
  | .listing [] family =>
    (.releasing, redis, familyMessage event.userId family reads.broadcastAt)
  | .listing (key :: keys) family =>
    match redis.state.snapshots.get key, form with
    | none, _ => (.listing keys family, redis, [])
    -- the key of a text reply has no `decode`
    | some _, .text => (.releasing, redis, [])
    | some snapshot, .bytes =>
      (.listing keys (family.set (lastPart key) (.obj snapshot)), redis, [])
  | .releasing =>
    match redis.locks event.userId, form with
    | none, _ => (.finished, redis, [])
    | some _, .text => (.finished, redis, [])
    | some current, .bytes =>
      -- only delete if we still own it
      if current = reads.token then (.owning, redis, []) else (.finished, redis, [])
  | .owning => (.finished, redis.setLock event.userId none, [])
  | .passedOn => (.passedOn, redis, [])
  | .finished => (.finished, redis, [])

/-! ### Everything a command can do -/

section Effect

variable (iso : IsoReader) (reads : Reads) (event : DeviceEvent) (redis : Redis)

/-- The phase, the store and the messages that one command of a call leads to. -/
inductive CallEffect : Phase → Phase → Redis → List Sent → Prop
  | lock (free : redis.locks event.userId = none) :
    CallEffect .ready .acquired (redis.setLock event.userId (some reads.token)) []
  | refuse (held : redis.locks event.userId ≠ none) : CallEffect .ready .refused redis []
  | passOn : CallEffect .refused .passedOn redis [.retry pubsubChannel (retryMessage event)]
  | raise {raised : PyError}
    (chosen : chooseWinner iso (getDeviceSnapshot redis.state event.userId event.deviceId)
      (ingestCall reads event) = .error raised) : CallEffect .acquired .releasing redis []
  | compare {pick : Pick} {record : Option ConflictRecord} {later : Phase}
    (chosen : chooseWinner iso (getDeviceSnapshot redis.state event.userId event.deviceId)
      (ingestCall reads event) = .ok (pick, record))
    (goesOn : later.IsInside ∧ ¬ later.IsPending) : CallEffect .acquired later redis []
  | record (payload : Dict Json) (entry : ConflictRecord) :
    CallEffect (.recording payload entry) (.writing payload)
      { redis with state := { redis.state with audit := redis.state.audit ++ [entry] } } []
  | write (payload : Dict Json) :
    CallEffect (.writing payload) .written
      { redis with state := writeSnapshot redis.state event.userId event.deviceId
                    (stampSnapshot payload (ingestCall reads event)) } []
  | unlock : CallEffect .owning .finished (redis.setLock event.userId none) []
  | rest {phase later : Phase} {sent : List Sent} (before : ¬ phase.IsInside ∧ ¬ phase.IsPending)
    (after : ¬ later.IsInside ∧ ¬ later.IsPending)
    (noRetry : ∀ channel message, .retry channel message ∉ sent) :
    CallEffect phase later redis sent

end Effect

variable {iso : IsoReader} {form : Replies} {reads : Reads} {event : DeviceEvent} {redis : Redis}
  {phase : Phase}

theorem familyMessage_noRetry (userId : UserId) (family : Dict Json) (now : UtcTime)
    (channel : String) (message : Dict Json) :
    .retry channel message ∉ familyMessage userId family now := by
  unfold familyMessage
  split <;> simp

theorem callStep_related : CallEffect iso reads event redis phase
    (callStep iso form reads event redis phase).1 (callStep iso form reads event redis phase).2.1
    (callStep iso form reads event redis phase).2.2 := by
  cases phase with
  | ready =>
    simp only [callStep]
    cases found : redis.locks event.userId with
    | none => exact .lock found
    | some current => exact .refuse (by simp [found])
  | refused => exact .passOn
  | acquired =>
    simp only [callStep]
    cases chosen : chooseWinner iso (getDeviceSnapshot redis.state event.userId event.deviceId)
        (ingestCall reads event) with
    | error raised => exact .raise chosen
    | ok choice =>
      obtain ⟨pick, _ | record⟩ := choice
      · exact .compare chosen ⟨trivial, id⟩
      · exact .compare chosen ⟨trivial, id⟩
  | recording payload entry => exact .record payload entry
  | writing payload => exact .write payload
  | written => exact .rest ⟨id, id⟩ ⟨id, id⟩ (by simp [callStep])
  | listing keys family =>
    cases keys with
    | nil => exact .rest ⟨id, id⟩ ⟨id, id⟩ (familyMessage_noRetry event.userId family _)
    | cons key keys =>
      simp only [callStep]
      cases redis.state.snapshots.get key with
      | none => exact .rest ⟨id, id⟩ ⟨id, id⟩ (by simp)
      | some snapshot => cases form <;> exact .rest ⟨id, id⟩ ⟨id, id⟩ (by simp)
  | releasing =>
    simp only [callStep]
    cases redis.locks event.userId with
    | none => exact .rest ⟨id, id⟩ ⟨id, id⟩ (by simp)
    | some current =>
      cases form with
      | text => exact .rest ⟨id, id⟩ ⟨id, id⟩ (by simp)
      | bytes =>
        simp only
        split
        · exact .rest ⟨id, id⟩ ⟨id, id⟩ (by simp)
        · exact .rest ⟨id, id⟩ ⟨id, id⟩ (by simp)
  | owning => exact .unlock
  | passedOn => exact .rest ⟨id, id⟩ ⟨id, id⟩ (by simp [callStep])
  | finished => exact .rest ⟨id, id⟩ ⟨id, id⟩ (by simp [callStep])

/-- **Everything a command can do.** -/
theorem callStep_effect {later : Phase} {next : Redis} {sent : List Sent}
    (stepped : callStep iso form reads event redis phase = (later, next, sent)) :
    CallEffect iso reads event redis phase later next sent := by
  have related : CallEffect iso reads event redis phase
      (callStep iso form reads event redis phase).1 (callStep iso form reads event redis phase).2.1
      (callStep iso form reads event redis phase).2.2 := callStep_related
  rw [stepped] at related
  exact related

/-- A call that was not refused publishes nothing for a retry. -/
theorem CallEffect.noRetry {later : Phase} {next : Redis} {sent : List Sent}
    (effect : CallEffect iso reads event redis phase later next sent) (other : phase ≠ .refused)
    (channel : String) (message : Dict Json) : .retry channel message ∉ sent := by
  cases effect with
  | lock | refuse | raise | compare | record | write | unlock => exact List.not_mem_nil
  | passOn => exact absurd rfl other
  | rest before after noRetry => exact noRetry channel message

/-! ### Snapshots are stamped -/

/-- Every snapshot in the store has been stamped by a call. -/
def Stamped (state : SyncState) : Prop :=
  ∀ userId deviceId snapshot, getDeviceSnapshot state userId deviceId = some snapshot →
    ∃ payload call, snapshot = stampSnapshot payload call

theorem stamped_writeSnapshot {state : SyncState} (stamped : Stamped state) (userId : UserId)
    (deviceId : DeviceId) (payload : Dict Json) (call : IngestCall) :
    Stamped (writeSnapshot state userId deviceId (stampSnapshot payload call)) := by
  intro someone device snapshot found
  rw [getDeviceSnapshot, writeSnapshot, Dict.get_set] at found
  split at found
  · cases found
    exact ⟨payload, call, rfl⟩
  · exact stamped someone device snapshot found

/-- Over stamped snapshots a comparison never raises. -/
theorem chooseWinner_of_stamped (iso : IsoReader) {state : SyncState} (stamped : Stamped state)
    (userId : UserId) (deviceId : DeviceId) (call : IngestCall) :
    ∃ choice, chooseWinner iso (getDeviceSnapshot state userId deviceId) call = .ok choice := by
  cases found : getDeviceSnapshot state userId deviceId with
  | none => exact ⟨_, rfl⟩
  | some snapshot =>
    obtain ⟨payload, last, rfl⟩ := stamped userId deviceId snapshot found
    obtain ⟨record, chosen⟩ := chooseWinner_stamped iso payload last call
    exact ⟨_, chosen⟩

/-- **A command keeps the snapshots stamped.** -/
theorem CallEffect.stamped {later : Phase} {next : Redis} {sent : List Sent}
    (effect : CallEffect iso reads event redis phase later next sent)
    (stamped : Stamped redis.state) : Stamped next.state := by
  cases effect with
  | lock | refuse | passOn | raise | compare | record | unlock | rest => exact stamped
  | write payload => exact stamped_writeSnapshot stamped _ _ _ _

/-! ### A call that runs alone -/

/-- One command leads from the first phase and store to the second. -/
def Leads (iso : IsoReader) (form : Replies) (reads : Reads) (event : DeviceEvent)
    (before after : Phase × Redis) : Prop :=
  ∃ sent, callStep iso form reads event before.2 before.1 = (after.1, after.2, sent)

/-- Reading the family changes nothing. -/
theorem listing_leads (keys : List String) (family : Dict Json) :
    Relation.ReflTransGen (Leads iso .bytes reads event) (.listing keys family, redis)
      (.releasing, redis) := by
  induction keys generalizing family with
  | nil => exact .single ⟨_, rfl⟩
  | cons key keys ih =>
    cases found : redis.state.snapshots.get key with
    | none =>
      refine .head ⟨[], ?_⟩ (ih family)
      simp only [callStep, found]
    | some snapshot =>
      refine .head ⟨[], ?_⟩ (ih (family.set (lastPart key) (.obj snapshot)))
      simp only [callStep, found]

/-- The lock is given back by the call that still owns it. -/
theorem releasing_leads (held : redis.locks event.userId = some reads.token) :
    Relation.ReflTransGen (Leads iso .bytes reads event) (.releasing, redis)
      (.finished, redis.setLock event.userId none) := by
  refine .head (b := (.owning, redis)) ⟨[], ?_⟩ (.single ⟨[], rfl⟩)
  simp only [callStep, held, if_true]

/-- **A call that runs alone** takes the free lock, does to the state what `ingestEvent` does, and
gives the lock back. -/
theorem alone_ingests (iso : IsoReader) (reads : Reads) (event : DeviceEvent) (redis : Redis)
    (free : redis.locks event.userId = none) :
    Relation.ReflTransGen (Leads iso .bytes reads event) (.ready, redis)
      (.finished,
        { redis with state := serveIngest iso redis.state (ingestCall reads event) }) := by
  have lock : Leads iso .bytes reads event (.ready, redis)
      (.acquired, redis.setLock event.userId (some reads.token)) := by
    refine ⟨[], ?_⟩
    simp only [callStep, free]
  -- with the lock in hand, whatever the state has become, the call ends without it
  have unlock : ∀ state : SyncState, Relation.ReflTransGen (Leads iso .bytes reads event)
      (.releasing, ⟨Function.update redis.locks event.userId (some reads.token), state⟩)
        (.finished, ⟨redis.locks, state⟩) := by
    intro state
    have released : Relation.ReflTransGen (Leads iso .bytes reads event)
        (.releasing, ⟨Function.update redis.locks event.userId (some reads.token), state⟩)
        (.finished,
          Redis.setLock ⟨Function.update redis.locks event.userId (some reads.token), state⟩
            event.userId none) := releasing_leads (Function.update_self ..)
    rw [Redis.setLock, Function.update_idem, ← free, Function.update_eq_self] at released
    exact released
  have write : ∀ (state : SyncState) (payload : Dict Json),
      Relation.ReflTransGen (Leads iso .bytes reads event)
        (.writing payload, ⟨Function.update redis.locks event.userId (some reads.token), state⟩)
          (.finished, ⟨redis.locks, writeSnapshot state event.userId event.deviceId
            (stampSnapshot payload (ingestCall reads event))⟩) := by
    intro state payload
    refine .head (b := (.written, ⟨_, writeSnapshot state event.userId event.deviceId
      (stampSnapshot payload (ingestCall reads event))⟩)) ⟨[], rfl⟩ ?_
    exact .head ⟨[], rfl⟩ ((listing_leads _ _).trans (unlock _))
  refine .head lock ?_
  cases chosen : chooseWinner iso (getDeviceSnapshot redis.state event.userId event.deviceId)
      (ingestCall reads event) with
  | error raised =>
    have same : serveIngest iso redis.state (ingestCall reads event) = redis.state := by
      simp only [serveIngest, ingestEvent, ingestCall, if_true, bind, Except.bind]
      rw [show chooseWinner iso (getDeviceSnapshot redis.state event.userId event.deviceId)
        ⟨event, true, _, _, _, _⟩ = _ from chosen]
    rw [same]
    refine .head (b := (.releasing, redis.setLock event.userId (some reads.token))) ⟨[], ?_⟩
      (unlock redis.state)
    simp only [callStep, Redis.setLock, chosen]
  | ok choice =>
    obtain ⟨pick, record⟩ := choice
    have served : serveIngest iso redis.state (ingestCall reads event) =
        writeSnapshot { redis.state with audit := redis.state.audit ++ record.toList }
          event.userId event.deviceId
          (stampSnapshot (winnerPayload (getDeviceSnapshot redis.state event.userId event.deviceId)
            pick (ingestCall reads event)) (ingestCall reads event)) := by
      simp only [serveIngest, ingestEvent, ingestCall, if_true, bind, Except.bind]
      rw [show chooseWinner iso (getDeviceSnapshot redis.state event.userId event.deviceId)
        ⟨event, true, _, _, _, _⟩ = _ from chosen]
      rfl
    rw [served]
    cases record with
    | none =>
      rw [Option.toList_none, List.append_nil]
      refine .head ⟨[], ?_⟩ (write redis.state _)
      simp only [callStep, Redis.setLock, chosen]
    | some record =>
      refine .head (b := (.recording _ record, redis.setLock event.userId (some reads.token)))
        ⟨[], ?_⟩ (.head ⟨[], rfl⟩ (write _ _))
      simp only [callStep, Redis.setLock, chosen]

end ScreenSync.Sync
