/-
**Calls and consumers, interleaved.**

Any number of calls of `ingest_event` run at once, command by command, and any number of processes
run `start_sync_consumer`. What a refused call publishes reaches every consumer that is subscribed
at that moment and nobody else; a consumer takes its messages in order, and each one through
`ingest_event` before the next. A `Copy` names an event and the consumers it went through.

* `Node.step` — one step of the schedule: an event is handed in, a call sends its next command, a
  consumer subscribes or takes a message, a lock key expires.
* `Node.step_moves` — everything a step can do to the store, the tasks and the accesses.
* `moves_satisfies` — what holds of every event that is handed in holds of every copy of it.
-/

import Mathlib.Data.Finset.Image
import ScreenSync.Sync.Commands

namespace ScreenSync.Sync

open ScreenSync.Foundation ScreenSync.Shared

/-! ### Copies and their tasks -/

/-- A copy of an event: the event that was handed in, and the consumers that passed it on since. -/
structure Copy (E κ : Type) where
  event : E
  route : List κ
  deriving DecidableEq

/-- The copy that a consumer is given when this one is published. -/
def Copy.via {E κ : Type} (copy : Copy E κ) (consumer : κ) : Copy E κ :=
  { copy with route := copy.route ++ [consumer] }

/-- A copy waits in the inbox of a consumer, or is being ingested. -/
inductive Task
  | queued (message : Dict Json)
  | running (event : DeviceEvent) (phase : Phase)

/-- A snapshot was read and compared with the event of a copy, or written for it. -/
inductive Access (C : Type)
  | read (copy : C)
  | wrote (copy : C)
  deriving DecidableEq

/-- The copy of a read. -/
def Access.readBy {C : Type} : Access C → Option C
  | .read copy => some copy
  | .wrote _ => none

/-- The store, the calls, the consumers, and what has been sent and done so far. -/
structure Node (E κ : Type) where
  redis : Redis
  task : Copy E κ → Option Task
  subscribed : Finset κ
  inbox : κ → List (Copy E κ)
  working : κ → Option (Copy E κ)
  sent : List Sent
  accesses : List (Access (Copy E κ))

inductive Step (E κ : Type)
  | hand (event : E)
  | next (copy : Copy E κ)
  | subscribe (consumer : κ)
  | consume (consumer : κ)
  | expire (userId : UserId)

/-- The event that a consumer rebuilds from a message, under a new id. -/
def decodeRetry (iso : IsoReader) (data : Dict Json) (eventId : String) : Option DeviceEvent :=
  match data.get "device_id", data.get "user_id", data.get "payload", data.get "timestamp",
    (data.get "priority").getD (.int 1), (data.get "forced").getD (.bool false) with
  | some (.str deviceId), some (.str userId), some (.obj payload), some (.str text),
    .int priority, .bool forced =>
    match iso.fromisoformat text with
    | .aware timestamp =>
      some { deviceId, userId, priority, timestamp, payload, forced, eventId := .str eventId }
    | _ => none
  | _, _, _, _, _, _ => none

/-- **A message that was published for a retry can be read.** -/
theorem decodeRetry_retryMessage (iso : IsoReader) (event : DeviceEvent) (eventId : String) :
    decodeRetry iso (retryMessage event) eventId =
      some { event with eventId := .str eventId } := by
  unfold decodeRetry
  simp only [retryMessage, Dict.get_cons]
  simp [iso.fromisoformat_isoformat]

variable {E κ : Type} [DecidableEq E] [DecidableEq κ]

/-! ### One step -/

namespace Node

/-- Before anything was handed in. -/
def start (redis : Redis) : Node E κ where
  redis := redis
  task _ := none
  subscribed := ∅
  inbox _ := []
  working _ := none
  sent := []
  accesses := []

def setTask (node : Node E κ) (copy : Copy E κ) (task : Option Task) : Node E κ :=
  { node with task := Function.update node.task copy task }

/-- A published message goes to the inbox of every consumer that is subscribed. -/
def deliver (copy : Copy E κ) (node : Node E κ) : Sent → Node E κ
  | .broadcast _ => node
  | .retry _ message =>
    { node with
      task := fun other =>
        if other ∈ node.subscribed.image copy.via then some (.queued message) else node.task other
      inbox := fun consumer =>
        if consumer ∈ node.subscribed then node.inbox consumer ++ [copy.via consumer]
        else node.inbox consumer }

/-- What a command tells about the snapshots. -/
def accessOf (copy : Copy E κ) : Phase → Phase → List (Access (Copy E κ))
  | .acquired, .releasing => []
  | .acquired, _ => [.read copy]
  | .writing _, _ => [.wrote copy]
  | _, _ => []

/-- Whether a consumer is still ingesting the last event it took. -/
def Busy (node : Node E κ) (consumer : κ) : Prop :=
  match (node.working consumer).bind node.task with
  | some (.running _ .passedOn) | some (.running _ .finished) | some (.queued _) | none => False
  | some (.running _ _) => True

instance (node : Node E κ) (consumer : κ) : Decidable (node.Busy consumer) := by
  unfold Busy
  split <;> infer_instance

variable (iso : IsoReader) (form : Replies) (reads : Copy E κ → Reads) (events : E → DeviceEvent)

/-- The next command of a call. -/
def sendNext (node : Node E κ) (copy : Copy E κ) (event : DeviceEvent) (phase : Phase) : Node E κ :=
  let (later, redis, sent) := callStep iso form (reads copy) event node.redis phase
  let moved : Node E κ :=
    { node with
      redis
      task := Function.update node.task copy (some (.running event later))
      sent := node.sent ++ sent
      accesses := node.accesses ++ accessOf copy phase later }
  sent.foldl (deliver copy) moved

/-- A consumer takes the next message of its inbox. A message it cannot read is logged and dropped.
-/
def take (node : Node E κ) (consumer : κ) : Node E κ :=
  match node.inbox consumer with
  | [] => node
  | copy :: later =>
    let rest : Node E κ := { node with inbox := Function.update node.inbox consumer later }
    match node.task copy with
    | some (.queued message) =>
      match decodeRetry iso message (reads copy).eventId with
      | none => rest.setTask copy none
      | some event =>
        { rest.setTask copy (some (.running event .ready)) with
          working := Function.update node.working consumer (some copy) }
    | _ => rest

/-- One step of the schedule; what cannot happen in a state leaves it as it is. -/
def step (node : Node E κ) : Step E κ → Node E κ
  | .hand event =>
    match node.task ⟨event, []⟩ with
    | none => node.setTask ⟨event, []⟩ (some (.running (events event) .ready))
    | some _ => node
  | .next copy =>
    match node.task copy with
    | some (.running event phase) => node.sendNext iso form reads copy event phase
    | _ => node
  | .subscribe consumer => { node with subscribed := insert consumer node.subscribed }
  | .consume consumer => if node.Busy consumer then node else node.take iso reads consumer
  | .expire userId => { node with redis := node.redis.setLock userId none }

/-! ### Everything a step can do -/

/-- What a step does to the store, the tasks and the list of accesses. -/
inductive Moves (node next : Node E κ) : Step E κ → Prop
  | idle {op : Step E κ} (redis : next.redis = node.redis) (task : next.task = node.task)
    (accesses : next.accesses = node.accesses)
    (quiet : ∀ copy event, op = .next copy → node.task copy ≠ some (.running event .refused)) :
    Moves node next op
  | handed (event : E) (absent : node.task ⟨event, []⟩ = none) (redis : next.redis = node.redis)
    (task : next.task =
      Function.update node.task ⟨event, []⟩ (some (.running (events event) .ready)))
    (accesses : next.accesses = node.accesses) : Moves node next (.hand event)
  | called (copy : Copy E κ) {event : DeviceEvent} {phase later : Phase} {sent : List Sent}
    (here : node.task copy = some (.running event phase)) (other : phase ≠ .refused)
    (effect : CallEffect iso (reads copy) event node.redis phase later next.redis sent)
    (task : next.task = Function.update node.task copy (some (.running event later)))
    (accesses : next.accesses = node.accesses ++ accessOf copy phase later) :
    Moves node next (.next copy)
  | published (copy : Copy E κ) {event : DeviceEvent}
    (here : node.task copy = some (.running event .refused)) (redis : next.redis = node.redis)
    (task : ∀ other, next.task other =
      if other ∈ node.subscribed.image copy.via then some (.queued (retryMessage event))
      else if other = copy then some (.running event .passedOn) else node.task other)
    (accesses : next.accesses = node.accesses) : Moves node next (.next copy)
  | took (consumer : κ) (copy : Copy E κ) {message : Dict Json} {event : DeviceEvent}
    (here : node.task copy = some (.queued message))
    (read : decodeRetry iso message (reads copy).eventId = some event)
    (redis : next.redis = node.redis)
    (task : next.task = Function.update node.task copy (some (.running event .ready)))
    (accesses : next.accesses = node.accesses) : Moves node next (.consume consumer)
  | dropped (consumer : κ) (copy : Copy E κ) {message : Dict Json}
    (here : node.task copy = some (.queued message))
    (unread : decodeRetry iso message (reads copy).eventId = none)
    (redis : next.redis = node.redis) (task : next.task = Function.update node.task copy none)
    (accesses : next.accesses = node.accesses) : Moves node next (.consume consumer)
  | expired (userId : UserId) (redis : next.redis = node.redis.setLock userId none)
    (task : next.task = node.task) (accesses : next.accesses = node.accesses) :
    Moves node next (.expire userId)

variable {iso form reads events} {node : Node E κ}

/-- A publication starts no call. -/
theorem running_of_published {next : Node E κ} {copy other : Copy E κ} {event event' : DeviceEvent}
    {phase : Phase} (task : ∀ other, next.task other =
      if other ∈ node.subscribed.image copy.via then some (.queued (retryMessage event))
      else if other = copy then some (.running event .passedOn) else node.task other)
    (running : next.task other = some (.running event' phase)) (apart : phase ≠ .passedOn) :
    node.task other = some (.running event' phase) := by
  rw [task] at running
  split at running
  · cases running
  · split at running
    · cases running
      exact absurd rfl apart
    · exact running

/-- Messages that are not retries go to no inbox. -/
theorem foldl_deliver (copy : Copy E κ) {sent : List Sent}
    (noRetry : ∀ channel message, .retry channel message ∉ sent) (node : Node E κ) :
    sent.foldl (deliver copy) node = node := by
  induction sent with
  | nil => rfl
  | cons first rest ih =>
    cases first with
    | retry channel message => exact absurd List.mem_cons_self (noRetry channel message)
    | broadcast message =>
      exact ih fun channel other member => noRetry channel other (List.mem_cons_of_mem _ member)

theorem sendNext_moves {copy : Copy E κ} {event : DeviceEvent} {phase : Phase}
    (here : node.task copy = some (.running event phase)) :
    Moves iso reads events node (node.sendNext iso form reads copy event phase) (.next copy) := by
  rcases stepped : callStep iso form (reads copy) event node.redis phase with ⟨later, redis, sent⟩
  have effect := callStep_effect stepped
  simp only [sendNext, stepped]
  by_cases refused : phase = .refused
  · subst refused
    cases effect with
    | passOn =>
      refine .published copy here rfl (fun other => ?_) (List.append_nil _)
      simp only [List.foldl_cons, List.foldl_nil, deliver, Function.update_apply]
    | rest before => exact absurd trivial before.2
  · have noRetry := effect.noRetry refused
    rw [foldl_deliver copy noRetry]
    exact .called copy here refused effect rfl rfl

theorem take_moves (consumer : κ) :
    Moves iso reads events node (node.take iso reads consumer) (.consume consumer) := by
  unfold take
  split
  · exact .idle rfl rfl rfl nofun
  · rename_i copy later inbox
    dsimp only
    split
    · rename_i message here
      split
      · rename_i unread
        exact .dropped consumer copy here unread rfl rfl rfl
      · rename_i event read
        exact .took consumer copy here read rfl rfl rfl
    · exact .idle rfl rfl rfl nofun

/-- **Everything a step can do.** -/
theorem step_moves (op : Step E κ) :
    Moves iso reads events node (node.step iso form reads events op) op := by
  cases op with
  | hand event =>
    simp only [step]
    cases absent : node.task ⟨event, []⟩ with
    | none => exact .handed event absent rfl rfl rfl
    | some task => exact .idle rfl rfl rfl nofun
  | next copy =>
    simp only [step]
    cases here : node.task copy with
    | none =>
      refine .idle rfl rfl rfl fun other event same refused => ?_
      cases same
      cases here.symm.trans refused
    | some task =>
      cases task with
      | queued message =>
        refine .idle rfl rfl rfl fun other event same refused => ?_
        cases same
        cases here.symm.trans refused
      | running event phase => exact sendNext_moves here
  | subscribe consumer => exact .idle rfl rfl rfl nofun
  | consume consumer =>
    simp only [step]
    split
    · exact .idle rfl rfl rfl nofun
    · exact take_moves consumer
  | expire userId => exact .expired userId rfl rfl rfl

end Node

/-! ### What the events have in common -/

/-- A task is about an event with this property. -/
def Task.Satisfies (holds : DeviceEvent → Prop) : Task → Prop
  | .queued message => ∃ event, message = retryMessage event ∧ holds event
  | .running event _ => holds event

/-- **What holds of every event that is handed in holds of every task**, unless it is about the
event's id, which a retry does not keep. -/
theorem moves_satisfies {iso : IsoReader} {reads : Copy E κ → Reads} {events : E → DeviceEvent}
    {node next : Node E κ} {op : Step E κ} {holds : DeviceEvent → Prop}
    (renamed : ∀ event eventId, holds event → holds { event with eventId })
    (all : ∀ e, holds (events e))
    (before : ∀ copy task, node.task copy = some task → task.Satisfies holds)
    (moves : Node.Moves iso reads events node next op) :
    ∀ copy task, next.task copy = some task → task.Satisfies holds := by
  -- one task is changed, to one that has the property
  have update : ∀ {copy : Copy E κ} {changed : Option Task},
      next.task = Function.update node.task copy changed →
        (∀ task, changed = some task → task.Satisfies holds) →
          ∀ other task, next.task other = some task → task.Satisfies holds := by
    intro copy changed same kept other task found
    rw [same, Function.update_apply] at found
    split at found
    · exact kept task found
    · exact before other task found
  cases moves with
  | idle redis same =>
    rw [same]
    exact before
  | handed event absent redis same =>
    refine update same fun task changed => ?_
    cases changed
    exact all event
  | called copy here other effect same =>
    have own := before copy _ here
    refine update same fun task changed => ?_
    cases changed
    exact own
  | published copy here redis same =>
    have own := before copy _ here
    intro other task found
    rw [same] at found
    split at found
    · cases found
      exact ⟨_, rfl, own⟩
    · split at found
      · cases found
        exact own
      · exact before other task found
  | took consumer copy here read redis same =>
    obtain ⟨event, rfl, own⟩ := before copy _ here
    rw [decodeRetry_retryMessage] at read
    refine update same fun task changed => ?_
    cases changed
    cases read
    exact renamed event _ own
  | dropped consumer copy here unread redis same =>
    refine update same fun task changed => ?_
    cases changed
  | expired user redis same =>
    rw [same]
    exact before

end ScreenSync.Sync
