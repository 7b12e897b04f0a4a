/-
**What the devices of a family are shown.**

After it has written a snapshot, a call reads the family's snapshots one by one and broadcasts what
it has read, all of it in the section of the user's lock. The devices show the last broadcast.

* `callStep_family` — what a command does to the snapshots, and what it tells a family.
* `collect_familyKeys` — reading the keys of a family one by one gives `get_family_snapshot`.
* `Faithful` — the invariant: whoever reads a family reads it undisturbed, and while no call is
  between its write and its broadcast, the last broadcast shows the family's snapshot.
* `family_shown` — so it does after every run in which no lock key expires under a tenant.
* `stale_family_shown` — a key that does expire leaves the devices with an old family.
-/

import ScreenSync.Sync.Snapshots
import ScreenSync.Sync.Tenure

namespace ScreenSync.Sync

open ScreenSync.Foundation ScreenSync.Shared

/-! ### Broadcasts -/

/-- The family in a message to this topic. -/
def familyOf (userId : UserId) : Sent → Option (Dict Json)
  | .retry _ _ => none
  | .broadcast message =>
    if message.topic = familyTopic userId then
      match message.payload.get "snapshot" with
      | some (.obj family) => some family
      | _ => none
    else none

/-- What the devices of a family show: the last broadcast, or what they have shown before. -/
def lastShown (before : Dict Json) (userId : UserId) (sent : List Sent) : Dict Json :=
  (sent.filterMap (familyOf userId)).getLast?.getD before

theorem familyTopic_injective : Function.Injective familyTopic := by
  intro first second same
  have texts := congrArg String.toList same
  unfold familyTopic at texts
  simp only [String.toList_append] at texts
  rw [List.append_assoc, List.append_assoc, List.append_cancel_left_eq,
    List.append_cancel_right_eq] at texts
  exact String.toList_inj.mp texts

theorem lastShown_append_none {before : Dict Json} {userId : UserId} {sent more : List Sent}
    (silent : more.filterMap (familyOf userId) = []) :
    lastShown before userId (sent ++ more) = lastShown before userId sent := by
  rw [lastShown, List.filterMap_append, silent, List.append_nil, lastShown]

theorem lastShown_append_some {before family : Dict Json} {userId : UserId} {sent more : List Sent}
    (told : more.filterMap (familyOf userId) = [family]) :
    lastShown before userId (sent ++ more) = family := by
  rw [lastShown, List.filterMap_append, told, List.getLast?_concat, Option.getD_some]

/-- A broadcast tells its family. -/
theorem familyOf_familyMessage (userId : UserId) {family : Dict Json} (shows : family ≠ [])
    (now : UtcTime) :
    (familyMessage userId family now).filterMap (familyOf userId) = [family] := by
  have nonempty : family.isEmpty ≠ true := fun empty => shows (List.isEmpty_iff.mp empty)
  rw [familyMessage, if_neg nonempty]
  simp [familyOf, familyTopic, Dict.get_cons]

/-- It tells no other family. -/
theorem familyOf_familyMessage_other {userId other : UserId} (apart : userId ≠ other)
    (family : Dict Json) (now : UtcTime) :
    (familyMessage userId family now).filterMap (familyOf other) = [] := by
  have topics : familyTopic userId ≠ familyTopic other :=
    fun same => apart (familyTopic_injective same)
  unfold familyMessage
  split
  · rfl
  · rw [List.filterMap_cons_none, List.filterMap_nil]
    exact if_neg topics

/-! ### Reading a family -/

/-- One more key of the family. -/
def gather (state : SyncState) (family : Dict Json) (key : String) : Dict Json :=
  match state.snapshots.get key with
  | none => family
  | some snapshot => family.set (lastPart key) (.obj snapshot)

/-- What is left to read of a family. -/
def collect (state : SyncState) (keys : List String) (family : Dict Json) : Dict Json :=
  keys.foldl (gather state) family

/-- **Reading the keys one by one** gives the family's snapshot. -/
theorem collect_familyKeys {state : SyncState} (userId : UserId)
    (distinct : (state.snapshots.map Prod.fst).Nodup) :
    collect state (familyKeys state userId) [] = getFamilySnapshot state userId := by
  have all : ∀ entries : Dict (Dict Json), entries ⊆ state.snapshots → ∀ family : Dict Json,
      (entries.map Prod.fst).foldl (gather state) family =
        entries.foldl (fun family entry => Dict.set family (lastPart entry.1) (.obj entry.2))
          family := by
    intro entries listed family
    induction entries generalizing family with
    | nil => rfl
    | cons entry rest ih =>
      rw [List.cons_subset] at listed
      have found : state.snapshots.get entry.1 = some entry.2 := Dict.get_of_mem distinct listed.1
      rw [List.map_cons, List.foldl_cons, List.foldl_cons, ih listed.2, gather, found]
  exact all _ (List.filter_subset_self _) []

/-! ### What a command does for a family -/

/-- The call has written its snapshot, and the family has not been told yet. -/
def Phase.IsUntold : Phase → Prop
  | .written | .listing _ _ => True
  | _ => False

/-- What a command does to the snapshots, and what it tells the families. -/
inductive FamilyEffect (reads : Reads) (event : DeviceEvent) (redis : Redis) :
    Phase → Phase → Redis → List Sent → Prop
  | wrote (payload : Dict Json) :
    FamilyEffect reads event redis (.writing payload) .written
      { redis with state := writeSnapshot redis.state event.userId event.deviceId
                    (stampSnapshot payload (ingestCall reads event)) } []
  | listed : FamilyEffect reads event redis .written
      (.listing (familyKeys redis.state event.userId) []) redis []
  | gathered (key : String) (keys : List String) (family : Dict Json) :
    FamilyEffect reads event redis (.listing (key :: keys) family)
      (.listing keys (gather redis.state family key)) redis []
  | told (family : Dict Json) : FamilyEffect reads event redis (.listing [] family) .releasing redis
      (familyMessage event.userId family reads.broadcastAt)
  | silent {phase later : Phase} {next : Redis} {sent : List Sent} (before : ¬ phase.IsUntold)
    (after : ¬ later.IsUntold) (same : next.state.snapshots = redis.state.snapshots)
    (nothing : ∀ userId, sent.filterMap (familyOf userId) = []) :
    FamilyEffect reads event redis phase later next sent

/-- **Everything a command can do for a family.** -/
theorem callStep_family {iso : IsoReader} {reads : Reads} {event : DeviceEvent} {redis : Redis}
    {phase : Phase} :
    FamilyEffect reads event redis phase (callStep iso .bytes reads event redis phase).1
      (callStep iso .bytes reads event redis phase).2.1
      (callStep iso .bytes reads event redis phase).2.2 := by
  cases phase with
  | writing payload => exact .wrote payload
  | written => exact .listed
  | listing keys family =>
    cases keys with
    | nil => exact .told family
    | cons key keys =>
      have gathered := @FamilyEffect.gathered reads event redis key keys family
      simp only [callStep]
      unfold gather at gathered
      cases found : redis.state.snapshots.get key with
      | none =>
        rw [found] at gathered
        exact gathered
      | some snapshot =>
        rw [found] at gathered
        exact gathered
  | ready =>
    simp only [callStep]
    split <;> exact .silent id id rfl fun _ => rfl
  | refused => exact .silent id id rfl fun _ => rfl
  | acquired =>
    simp only [callStep]
    split
    · exact .silent id id rfl fun _ => rfl
    · split <;> exact .silent id id rfl fun _ => rfl
  | recording payload record => exact .silent id id rfl fun _ => rfl
  | releasing =>
    simp only [callStep]
    split
    · exact .silent id id rfl fun _ => rfl
    · contradiction
    · split <;> exact .silent id id rfl fun _ => rfl
  | owning | passedOn | finished => exact .silent id id rfl fun _ => rfl

/-- Only the snapshots enter. -/
theorem family_congr {state other : SyncState} (same : other.snapshots = state.snapshots)
    (userId : UserId) :
    getFamilySnapshot other userId = getFamilySnapshot state userId ∧
      ∀ keys family, collect other keys family = collect state keys family := by
  have gathered : gather other = gather state := by
    funext family key
    unfold gather
    rw [same]
  unfold getFamilySnapshot collect
  rw [same, gathered]
  exact ⟨rfl, fun _ _ => rfl⟩

/-- A write for another user leaves the family. -/
theorem getFamilySnapshot_writeSnapshot {userId other : UserId} {deviceId : DeviceId}
    (apart : ¬ (stateKey userId "").toList <+: (stateKey other deviceId).toList) (state : SyncState)
    (snapshot : Dict Json) :
    getFamilySnapshot (writeSnapshot state other deviceId snapshot) userId =
      getFamilySnapshot state userId := by
  have outside : (stateKey userId "").toList.isPrefixOf (stateKey other deviceId).toList = false :=
    Bool.eq_false_iff.mpr fun starts => apart (List.isPrefixOf_iff_prefix.mp starts)
  have filtered := @Dict.filter_set_of_not _ (fun key =>
    (stateKey userId "").toList.isPrefixOf key.toList) _ outside state.snapshots snapshot
  unfold getFamilySnapshot writeSnapshot
  rw [filtered]

/-- It leaves what is read of the family's keys. -/
theorem collect_writeSnapshot {userId other : UserId} {deviceId : DeviceId}
    (apart : ¬ (stateKey userId "").toList <+: (stateKey other deviceId).toList) (state : SyncState)
    (snapshot : Dict Json) {keys : List String}
    (own : ∀ key ∈ keys, (stateKey userId "").toList <+: key.toList) (family : Dict Json) :
    collect (writeSnapshot state other deviceId snapshot) keys family =
      collect state keys family := by
  induction keys generalizing family with
  | nil => rfl
  | cons key keys ih =>
    rw [List.forall_mem_cons] at own
    have differ : key ≠ stateKey other deviceId := by
      rintro rfl
      exact apart own.1
    have same : gather (writeSnapshot state other deviceId snapshot) family key =
        gather state family key := by
      unfold gather writeSnapshot
      rw [Dict.get_set_of_ne _ _ differ]
    unfold collect at ih ⊢
    rw [List.foldl_cons, List.foldl_cons, same, ih own.2]

/-- A family that was written for has something to show. -/
theorem getFamilySnapshot_writeSnapshot_ne (state : SyncState) (userId : UserId)
    (deviceId : DeviceId) (snapshot : Dict Json) :
    getFamilySnapshot (writeSnapshot state userId deviceId snapshot) userId ≠ [] := by
  have shows : ∀ (entries : Dict (Dict Json)) (family : Dict Json), family ≠ [] →
      entries.foldl (fun family entry => Dict.set family (lastPart entry.1) (.obj entry.2))
        family ≠ [] := by
    intro entries family shown
    induction entries generalizing family with
    | nil => exact shown
    | cons entry rest ih => exact ih _ (Dict.set_ne_nil family _ _)
  have listed : (stateKey userId deviceId, snapshot) ∈
      (writeSnapshot state userId deviceId snapshot).snapshots.filter fun entry =>
        (stateKey userId "").toList.isPrefixOf entry.1.toList := by
    refine List.mem_filter.mpr ⟨Dict.mem_of_get (Dict.get_set_self _ _ _), ?_⟩
    exact List.isPrefixOf_iff_prefix.mpr (stateKey_starts userId deviceId)
  unfold getFamilySnapshot
  cases entries : (writeSnapshot state userId deviceId snapshot).snapshots.filter fun entry =>
      (stateKey userId "").toList.isPrefixOf entry.1.toList with
  | nil =>
    rw [entries] at listed
    exact absurd listed List.not_mem_nil
  | cons entry rest => exact shows rest _ (Dict.set_ne_nil [] _ _)

/-! ### What a step sends -/

section Nodes

variable {E κ : Type} [DecidableEq E] [DecidableEq κ] {iso : IsoReader} {form : Replies}
  {reads : Copy E κ → Reads} {events : E → DeviceEvent} {node next : Node E κ} {op : Step E κ}
  {before : Dict Json} {userId : UserId}

theorem foldl_deliver_sent (copy : Copy E κ) (sent : List Sent) (node : Node E κ) :
    (sent.foldl (Node.deliver copy) node).sent = node.sent := by
  induction sent generalizing node with
  | nil => rfl
  | cons first rest ih =>
    rw [List.foldl_cons, ih]
    cases first <;> rfl

/-- A call sends what its command gives. -/
theorem next_sent {copy : Copy E κ} {event : DeviceEvent} {phase : Phase}
    (here : node.task copy = some (.running event phase)) :
    (node.step iso form reads events (.next copy)).sent =
      node.sent ++ (callStep iso form (reads copy) event node.redis phase).2.2 := by
  simp only [Node.step, here, Node.sendNext]
  exact foldl_deliver_sent ..

/-- A call that was not refused sends its next command. -/
def Node.Calls (node : Node E κ) (op : Step E κ) : Prop :=
  ∃ copy event phase, op = .next copy ∧ node.task copy = some (.running event phase) ∧
    phase ≠ .refused

/-- **Any other step** tells no family anything. -/
theorem uncalled_shown (uncalled : ¬ node.Calls op) :
    lastShown before userId (node.step iso form reads events op).sent =
      lastShown before userId node.sent := by
  have taken : ∀ consumer, (node.take iso reads consumer).sent = node.sent := by
    intro consumer
    unfold Node.take
    split
    · rfl
    · dsimp only
      split
      · split <;> rfl
      · rfl
  cases op with
  | hand event =>
    simp only [Node.step]
    split <;> rfl
  | subscribe consumer => rfl
  | expire user => rfl
  | consume consumer =>
    simp only [Node.step]
    split
    · rfl
    · rw [taken]
  | next copy =>
    cases here : node.task copy with
    | none => simp only [Node.step, here]
    | some task =>
      cases task with
      | queued message => simp only [Node.step, here]
      | running event phase =>
        have refused : phase = .refused := by
          by_contra other
          exact uncalled ⟨copy, event, phase, rfl, here, other⟩
        subst refused
        rw [next_sent here]
        exact lastShown_append_none rfl

/-! ### Copies of copies -/

/-- Only a copy that was passed on has copies of its own. -/
def Node.Routed (node : Node E κ) : Prop :=
  ∀ copy consumer task, node.task (Copy.via copy consumer) = some task →
    ∃ event, node.task copy = some (.running event .passedOn)

omit [DecidableEq E] [DecidableEq κ] in
/-- A copy that was not passed on has none. -/
theorem Node.Routed.none {copy : Copy E κ} (routed : node.Routed)
    (other : ∀ event, node.task copy ≠ some (.running event .passedOn)) (consumer : κ) :
    node.task (copy.via consumer) = none := by
  by_contra there
  obtain ⟨task, found⟩ := Option.ne_none_iff_exists'.mp there
  obtain ⟨event, passed⟩ := routed copy consumer task found
  exact other event passed

omit [DecidableEq E] [DecidableEq κ] in
theorem via_ne (copy : Copy E κ) (consumer : κ) : copy.via consumer ≠ copy := by
  intro same
  have lengths := congrArg (fun copy => copy.route.length) same
  simp [Copy.via] at lengths

omit [DecidableEq E] [DecidableEq κ] in
/-- A copy has one parent. -/
theorem via_parent {copy parent : Copy E κ} {consumer other : κ}
    (same : copy.via consumer = parent.via other) : copy = parent := by
  obtain ⟨event, route⟩ := copy
  obtain ⟨event', route'⟩ := parent
  have events : event = event' := congrArg Copy.event same
  have routes : route ++ [consumer] = route' ++ [other] := congrArg Copy.route same
  rw [events, List.append_inj_left' routes rfl]

/-- **Every step keeps that.** -/
theorem step_routed (routed : node.Routed) (op : Step E κ) :
    (node.step iso form reads events op).Routed := by
  have moves : Node.Moves iso reads events node (node.step iso form reads events op) op :=
    Node.step_moves op
  generalize stepped : node.step iso form reads events op = next at moves ⊢
  -- one task is changed, of a copy that has been there and was not passed on
  have update : ∀ {copy : Copy E κ} {old : Task} {task : Option Task},
      next.task = Function.update node.task copy task → node.task copy = some old →
        (∀ event, old ≠ .running event .passedOn) → next.Routed := by
    intro copy old task changed here other parent consumer now found
    have apart : parent ≠ copy := by
      rintro rfl
      have unpassed : ∀ event, node.task parent ≠ some (.running event .passedOn) := by
        intro event passed
        exact other event (Option.some.inj (here.symm.trans passed))
      have none := routed.none unpassed consumer
      rw [changed, Function.update_of_ne (via_ne _ _), none] at found
      cases found
    have passed : ∃ event, node.task parent = some (.running event .passedOn) := by
      by_cases same : parent.via consumer = copy
      · exact routed parent consumer old (same ▸ here)
      · rw [changed, Function.update_of_ne same] at found
        exact routed parent consumer now found
    rw [changed, Function.update_of_ne apart]
    exact passed
  cases moves with
  | idle redis task | expired user redis task =>
    unfold Node.Routed
    rw [task]
    exact routed
  | handed event absent redis task =>
    intro parent consumer now found
    have beyond : parent.via consumer ≠ ⟨event, []⟩ := by
      intro same
      exact List.concat_ne_nil consumer parent.route (congrArg Copy.route same)
    rw [task, Function.update_of_ne beyond] at found
    obtain ⟨own, passed⟩ := routed parent consumer now found
    have apart : parent ≠ ⟨event, []⟩ := by
      rintro rfl
      cases absent.symm.trans passed
    rw [task, Function.update_of_ne apart]
    exact ⟨own, passed⟩
  | @called copy event phase later sent here other effect task =>
    by_cases done : phase = .passedOn
    · subst done
      obtain ⟨_, _, _, called, -, changed⟩ := step_called iso form reads events here other
      cases called
      rw [stepped, ← here, Function.update_eq_self] at changed
      unfold Node.Routed
      rw [changed]
      exact routed
    · exact update task here fun _ same => done (by cases same; rfl)
  | took consumer copy here read redis task => exact update task here fun _ => nofun
  | dropped consumer copy here unread redis task => exact update task here fun _ => nofun
  | @published copy event here redis task =>
    intro parent consumer now found
    have refused : ∀ event, node.task copy ≠ some (.running event .passedOn) := by
      intro event passed
      cases here.symm.trans passed
    -- what was there before is not replaced by a new copy
    have kept : ∀ other, node.task other ≠ none → other ≠ copy →
        next.task other = node.task other := by
      intro other there apart
      rw [task, if_neg, if_neg apart]
      rintro member
      obtain ⟨consumer, -, rfl⟩ := Finset.mem_image.mp member
      exact there (routed.none refused consumer)
    rw [task] at found
    by_cases new : parent.via consumer ∈ node.subscribed.image copy.via
    · obtain ⟨_, -, same⟩ := Finset.mem_image.mp new
      obtain rfl := via_parent same
      rw [task, if_neg, if_pos rfl]
      · exact ⟨event, rfl⟩
      · intro member
        obtain ⟨consumer, -, same⟩ := Finset.mem_image.mp member
        exact via_ne _ _ same
    · have there : ∃ now, node.task (parent.via consumer) = some now := by
        rw [if_neg new] at found
        split at found
        · rename_i same
          exact ⟨_, same ▸ here⟩
        · exact ⟨now, found⟩
      obtain ⟨old, there⟩ := there
      obtain ⟨own, passed⟩ := routed parent consumer old there
      have apart : parent ≠ copy := by
        rintro rfl
        exact refused own passed
      rw [kept parent (by rw [passed]; nofun) apart]
      exact ⟨own, passed⟩

/-! ### Steps that are no command of a call -/

/-- **Such a step** leaves the calls that were not refused where they are. -/
theorem uncalled_kept (routed : node.Routed) (uncalled : ¬ node.Calls op) {copy : Copy E κ}
    {event : DeviceEvent} {phase : Phase} (here : node.task copy = some (.running event phase))
    (other : phase ≠ .refused) :
    (node.step iso form reads events op).task copy = some (.running event phase) := by
  have moves : Node.Moves iso reads events node (node.step iso form reads events op) op :=
    Node.step_moves op
  generalize node.step iso form reads events op = next at moves ⊢
  cases moves with
  | idle redis task | expired user redis task => rw [task, here]
  | handed event absent redis task =>
    rw [task, Function.update_of_ne, here]
    rintro rfl
    cases absent.symm.trans here
  | called copy here other => exact absurd ⟨copy, _, _, rfl, here, other⟩ uncalled
  | took consumer queued found read redis task | dropped consumer queued found unread redis task =>
    rw [task, Function.update_of_ne, here]
    rintro rfl
    cases found.symm.trans here
  | @published refused event found redis task =>
    have unpassed : ∀ event, node.task refused ≠ some (.running event .passedOn) := by
      intro event passed
      cases found.symm.trans passed
    rw [task, if_neg, if_neg, here]
    · rintro rfl
      cases found.symm.trans here
      exact other rfl
    · intro member
      obtain ⟨consumer, -, rfl⟩ := Finset.mem_image.mp member
      cases (routed.none unpassed consumer).symm.trans here

/-- It leads no call into or out of phases in which no call begins or ends. -/
theorem uncalled_callsIn {within : Phase → Prop} (routed : node.Routed)
    (uncalled : ¬ node.Calls op) (unready : ¬ within .ready) (unpassed : ¬ within .passedOn)
    (unrefused : ¬ within .refused) :
    (node.step iso form reads events op).callsIn within userId = node.callsIn within userId := by
  refine Set.Subset.antisymm ?_ ?_
  · exact (moves_uncalled (Node.step_moves op) unready unpassed userId).elim
      (fun called => absurd called uncalled) And.left
  · rintro copy ⟨event, phase, here, own, inside⟩
    have other : phase ≠ .refused := by
      rintro rfl
      exact unrefused inside
    exact ⟨event, phase, uncalled_kept routed uncalled here other, own, inside⟩

/-- It leaves the snapshots. -/
theorem uncalled_state (uncalled : ¬ node.Calls op) :
    (node.step iso form reads events op).redis.state = node.redis.state := by
  have moves : Node.Moves iso reads events node (node.step iso form reads events op) op :=
    Node.step_moves op
  have unready : ¬ Phase.IsUntold .ready := id
  have unpassed : ¬ Phase.IsUntold .passedOn := id
  rcases moves_uncalled moves unready unpassed "" with called | ⟨-, redis | ⟨user, -, redis, -⟩⟩
  · exact absurd called uncalled
  · rw [redis]
  · rw [redis]
    rfl

/-! ### The invariant -/

/-- Every call is about a user with a plain id, every key is stored once, and every tenant of the
user's lock holds its key. -/
structure Placed (reads : Copy E κ → Reads) (userId : UserId) (node : Node E κ) : Prop where
  plain : ∀ copy task, node.task copy = some task →
    task.Satisfies fun event => PlainId event.userId
  distinct : (node.redis.state.snapshots.map Prod.fst).Nodup
  routed : node.Routed
  held : (node.tenure userId).Held (tokenOf reads)

/-- **The family is read undisturbed and told in time**: a family that is still to be told has
something to show, what is left to read of it completes its snapshot, and while nobody is about to
tell it, the last broadcast shows its snapshot. -/
structure Faithful (before : Dict Json) (userId : UserId) (node : Node E κ) : Prop where
  stored : ∀ copy ∈ node.callsIn Phase.IsUntold userId,
    getFamilySnapshot node.redis.state userId ≠ []
  reading : ∀ copy keys family, copy ∈ node.callsIn (· = .listing keys family) userId →
    (∀ key ∈ keys, (stateKey userId "").toList <+: key.toList) ∧
      collect node.redis.state keys family = getFamilySnapshot node.redis.state userId
  told : (∀ copy, copy ∉ node.callsIn Phase.IsUntold userId) →
    lastShown before userId node.sent = getFamilySnapshot node.redis.state userId

omit [DecidableEq E] [DecidableEq κ] in
/-- **The frame rule**: a step that leaves the family's snapshots, its readers, and what it was
shown. -/
theorem Faithful.frame (faithful : Faithful before userId node)
    (snapshot : getFamilySnapshot next.redis.state userId =
      getFamilySnapshot node.redis.state userId)
    (collected : ∀ keys family, (∀ key ∈ keys, (stateKey userId "").toList <+: key.toList) →
      collect next.redis.state keys family = collect node.redis.state keys family)
    (untold : next.callsIn Phase.IsUntold userId = node.callsIn Phase.IsUntold userId)
    (readers : ∀ keys family, next.callsIn (· = .listing keys family) userId ⊆
      node.callsIn (· = .listing keys family) userId)
    (shown : lastShown before userId next.sent = lastShown before userId node.sent) :
    Faithful before userId next where
  stored copy inside := by
    rw [snapshot]
    exact faithful.stored copy (untold ▸ inside)
  reading copy keys family inside := by
    obtain ⟨own, whole⟩ := faithful.reading copy keys family (readers keys family inside)
    rw [collected keys family own, snapshot]
    exact ⟨own, whole⟩
  told nobody := by
    rw [shown, snapshot]
    exact faithful.told (untold ▸ nobody)

/-- **A step that is no command of a call** keeps the invariant. -/
theorem uncalled_faithful (routed : node.Routed) (faithful : Faithful before userId node)
    (uncalled : ¬ node.Calls op) :
    Faithful before userId (node.step iso form reads events op) := by
  have state : (node.step iso form reads events op).redis.state = node.redis.state :=
    uncalled_state uncalled
  refine faithful.frame (by rw [state]) (fun _ _ _ => by rw [state]) ?_ (fun keys family => ?_)
    (uncalled_shown uncalled)
  · exact uncalled_callsIn routed uncalled id id id
  · exact (uncalled_callsIn routed uncalled nofun nofun nofun).le

/-- **A command of a call about another user** keeps the invariant. -/
theorem called_faithful_other (plain : PlainId userId) (placed : Placed reads userId node)
    (faithful : Faithful before userId node) {copy : Copy E κ} {event : DeviceEvent} {phase : Phase}
    (here : node.task copy = some (.running event phase)) (other : phase ≠ .refused)
    (apart : event.userId ≠ userId) :
    Faithful before userId (node.step iso .bytes reads events (.next copy)) := by
  obtain ⟨later, redis, sent, stepped, stored, changed⟩ :=
    step_called iso .bytes reads events here other
  have shown := @next_sent _ _ _ _ iso .bytes reads events node copy event phase here
  have effect := @callStep_family iso (reads copy) event node.redis phase
  rw [stepped] at effect shown
  dsimp only at effect shown
  generalize node.step iso .bytes reads events (.next copy) = next at stored changed shown ⊢
  subst stored
  have plain' : PlainId event.userId := placed.plain copy _ here
  have outside : ¬ (stateKey userId "").toList <+: (stateKey event.userId event.deviceId).toList :=
    fun starts => apart ((stateKey_prefix_iff plain plain' _).mp starts)
  have snapshots : getFamilySnapshot next.redis.state userId =
        getFamilySnapshot node.redis.state userId ∧
      ∀ keys family, (∀ key ∈ keys, (stateKey userId "").toList <+: key.toList) →
        collect next.redis.state keys family = collect node.redis.state keys family := by
    generalize next.redis = store at effect ⊢
    cases effect with
    | wrote payload =>
      exact ⟨getFamilySnapshot_writeSnapshot outside _ _,
        fun keys family own => collect_writeSnapshot outside _ _ own family⟩
    | listed | gathered | told => exact ⟨rfl, fun _ _ _ => rfl⟩
    | silent before after same =>
      obtain ⟨snapshot, collected⟩ := family_congr same userId
      exact ⟨snapshot, fun keys family _ => collected keys family⟩
  have silent : sent.filterMap (familyOf userId) = [] := by
    generalize next.redis = store at effect
    cases effect with
    | wrote | listed | gathered => rfl
    | told family => exact familyOf_familyMessage_other apart family _
    | silent before after same nothing => exact nothing userId
  -- the call is none of the user's
  have calls : ∀ within : Phase → Prop,
      next.callsIn within userId = node.callsIn within userId \ {copy} :=
    fun within => (callsIn_called changed).2 fun both => apart both.1
  have absent : copy ∉ node.callsIn Phase.IsUntold userId :=
    fun inside => apart ((mem_callsIn here).mp inside).1
  refine faithful.frame snapshots.1 snapshots.2 ?_ (fun keys family => ?_) ?_
  · rw [calls, Set.sdiff_singleton_eq_self absent]
  · exact (calls _).le.trans Set.sdiff_subset
  · rw [shown, lastShown_append_none silent]

/-- **A command of a call of the user** keeps the invariant. -/
theorem called_faithful_own (distinct : Function.Injective (tokenOf reads))
    (placed : Placed reads userId node) (faithful : Faithful before userId node) {copy : Copy E κ}
    {event : DeviceEvent} {phase : Phase} (here : node.task copy = some (.running event phase))
    (other : phase ≠ .refused) (own : event.userId = userId) :
    Faithful before userId (node.step iso .bytes reads events (.next copy)) := by
  obtain ⟨later, redis, sent, stepped, stored, changed⟩ :=
    step_called iso .bytes reads events here other
  have shown := @next_sent _ _ _ _ iso .bytes reads events node copy event phase here
  have effect := @callStep_family iso (reads copy) event node.redis phase
  rw [stepped] at effect shown
  dsimp only at effect shown
  generalize node.step iso .bytes reads events (.next copy) = next at stored changed shown ⊢
  subst stored own
  -- the readers after the command are this call, if it reads, and readers from before
  have readers : ∀ keys family reader,
      reader ∈ next.callsIn (· = .listing keys family) event.userId →
      reader = copy ∧ later = .listing keys family ∨
        reader ≠ copy ∧ reader ∈ node.callsIn (· = .listing keys family) event.userId := by
    intro keys family reader inside
    rw [callsIn_update changed] at inside
    split at inside
    · rename_i same
      obtain ⟨_, _, running, -, reads⟩ := inside
      cases running
      exact .inl ⟨same, reads⟩
    · rename_i different
      exact .inr ⟨different, inside⟩
  have entered : later.IsUntold → next.callsIn Phase.IsUntold event.userId =
      insert copy (node.callsIn Phase.IsUntold event.userId) :=
    fun untold => (callsIn_called changed).1 ⟨rfl, untold⟩
  have left : ¬ later.IsUntold → next.callsIn Phase.IsUntold event.userId =
      node.callsIn Phase.IsUntold event.userId \ {copy} :=
    fun told => (callsIn_called changed).2 fun both => told both.2
  -- a command of a call that is still to tell, and leaves the store
  have goesOn : next.redis = node.redis → phase.IsUntold → later.IsUntold →
      (∀ keys family, later = .listing keys family →
        (∀ key ∈ keys, (stateKey event.userId "").toList <+: key.toList) ∧
          collect node.redis.state keys family =
            getFamilySnapshot node.redis.state event.userId) →
        Faithful before event.userId next := by
    intro redis untold still whole
    have teller : copy ∈ node.callsIn Phase.IsUntold event.userId :=
      (mem_callsIn here).mpr ⟨rfl, untold⟩
    refine ⟨fun _ _ => ?_, fun reader keys family inside => ?_, fun nobody => ?_⟩
    · rw [redis]
      exact faithful.stored copy teller
    · rw [redis]
      rcases readers keys family reader inside with ⟨-, same⟩ | ⟨-, old⟩
      · exact whole keys family same
      · exact faithful.reading reader keys family old
    · exact absurd (entered still ▸ Set.mem_insert copy _) (nobody copy)
  generalize redis : next.redis = store at effect
  cases effect with
  | silent before after same nothing =>
    obtain ⟨snapshot, collected⟩ := family_congr same event.userId
    rw [← redis] at snapshot collected
    refine faithful.frame snapshot (fun keys family _ => collected keys family) ?_
      (fun keys family reader inside => ?_) ?_
    · rw [left after, Set.sdiff_singleton_eq_self]
      exact fun inside => before ((mem_callsIn here).mp inside).2
    · rcases readers keys family reader inside with ⟨-, rfl⟩ | ⟨-, old⟩
      · exact absurd trivial after
      · exact old
    · rw [shown, lastShown_append_none (nothing _)]
  | wrote payload =>
    have tenant : copy ∈ node.callsIn Phase.IsTenant event.userId :=
      (mem_callsIn here).mpr ⟨rfl, trivial⟩
    refine ⟨fun untold inside => ?_, fun reader keys family inside => ?_, fun nobody => ?_⟩
    · rw [redis]
      exact getFamilySnapshot_writeSnapshot_ne _ _ _ _
    · -- nobody reads the family while this call holds the lock
      rcases readers keys family reader inside with ⟨-, same⟩ | ⟨different, old⟩
      · cases same
      · obtain ⟨_, _, running, user, rfl⟩ := old
        have reading : reader ∈ node.callsIn Phase.IsTenant event.userId :=
          ⟨_, _, running, user, trivial⟩
        exact absurd (placed.held.single distinct reading tenant) different
    · exact absurd (entered trivial ▸ Set.mem_insert copy _) (nobody copy)
  | listed =>
    refine goesOn redis trivial trivial fun keys family same => ?_
    cases same
    refine ⟨fun key listed => ?_, collect_familyKeys event.userId placed.distinct⟩
    obtain ⟨entry, member, rfl⟩ := List.mem_map.mp listed
    exact List.isPrefixOf_iff_prefix.mp (List.mem_filter.mp member).2
  | gathered key keys family =>
    refine goesOn redis trivial trivial fun keys' family' same => ?_
    cases same
    have reading : copy ∈ node.callsIn (· = .listing (key :: keys) family) event.userId :=
      (mem_callsIn here).mpr ⟨rfl, rfl⟩
    obtain ⟨listed, whole⟩ := faithful.reading copy _ _ reading
    exact ⟨(List.forall_mem_cons.mp listed).2, whole⟩
  | told family =>
    have reading : copy ∈ node.callsIn (· = .listing [] family) event.userId :=
      (mem_callsIn here).mpr ⟨rfl, rfl⟩
    have whole : family = getFamilySnapshot node.redis.state event.userId :=
      (faithful.reading copy _ _ reading).2
    have shows : family ≠ [] := by
      rw [whole]
      exact faithful.stored copy ((mem_callsIn here).mpr ⟨rfl, trivial⟩)
    refine ⟨fun untold inside => ?_, fun reader keys family inside => ?_, fun nobody => ?_⟩
    · rw [left id] at inside
      rw [redis]
      exact faithful.stored untold inside.1
    · rcases readers keys family reader inside with ⟨-, same⟩ | ⟨-, old⟩
      · cases same
      · rw [redis]
        exact faithful.reading reader keys family old
    · rw [shown, lastShown_append_some (familyOf_familyMessage _ shows _), redis]
      exact whole

/-- **One step** keeps the calls in their places. -/
theorem placed_step (distinct : Function.Injective (tokenOf reads))
    (plains : ∀ e, PlainId (events e).userId) {op : Step E κ} (placed : Placed reads userId node)
    (lasts : LeaseSuffices userId node op) :
    Placed reads userId (node.step iso .bytes reads events op) where
  plain := moves_satisfies (fun _ _ plain => plain) plains placed.plain (Node.step_moves op)
  distinct := by
    by_cases called : node.Calls op
    · obtain ⟨copy, event, phase, rfl, here, other⟩ := called
      obtain ⟨later, redis, sent, stepped, stored, -⟩ :=
        step_called iso .bytes reads events here other
      have effect := @callStep_family iso (reads copy) event node.redis phase
      rw [stepped] at effect
      dsimp only at effect
      rw [stored]
      cases effect with
      | wrote payload => exact Dict.nodup_set placed.distinct _ _
      | listed | gathered | told => exact placed.distinct
      | silent before after same =>
        rw [same]
        exact placed.distinct
    · rw [uncalled_state called]
      exact placed.distinct
  routed := step_routed placed.routed op
  held := held_step distinct placed.held lasts

/-- **One step** keeps the family read undisturbed and told in time. -/
theorem faithful_step (plain : PlainId userId) (distinct : Function.Injective (tokenOf reads))
    (placed : Placed reads userId node) (faithful : Faithful before userId node) (op : Step E κ) :
    Faithful before userId (node.step iso .bytes reads events op) := by
  by_cases called : node.Calls op
  · obtain ⟨copy, event, phase, rfl, here, other⟩ := called
    by_cases own : event.userId = userId
    · exact called_faithful_own distinct placed faithful here other own
    · exact called_faithful_other plain placed faithful here other own
  · exact uncalled_faithful placed.routed faithful called

/-! ### Whole runs -/

/-- **The devices of a family show its snapshot**: in every run in which no lock key of the user
expires under a tenant, whenever no call has written a snapshot of the family without having told it
yet, the last broadcast shows what is stored. -/
theorem family_shown (iso : IsoReader) (reads : Copy E κ → Reads) (events : E → DeviceEvent)
    (userId : UserId) (plain : PlainId userId) (plains : ∀ e, PlainId (events e).userId)
    (distinct : Function.Injective (tokenOf reads)) (redis : Redis)
    (stored : (redis.state.snapshots.map Prod.fst).Nodup) (ops : List (Step E κ))
    (lasts : Meets (Node.step iso .bytes reads events) (LeaseSuffices userId) (.start redis) ops)
    (settled : ∀ copy, copy ∉
      (run (Node.step iso .bytes reads events) (.start redis) ops).callsIn Phase.IsUntold userId) :
    lastShown (getFamilySnapshot redis.state userId) userId
        (run (Node.step iso .bytes reads events) (.start redis) ops).sent =
      getFamilySnapshot (run (Node.step iso .bytes reads events) (.start redis) ops).redis.state
        userId := by
  have kept := @run_invariant_of_meets _ _ _ (LeaseSuffices userId)
    (fun node => Placed reads userId node ∧
      Faithful (getFamilySnapshot redis.state userId) userId node)
    (fun node op both lasting => ⟨placed_step distinct plains both.1 lasting,
      faithful_step plain distinct both.1 both.2 op⟩) (.start redis) ops ?_ lasts
  · exact kept.2.told settled
  · have nobody : ∀ within copy, copy ∉ (Node.start redis : Node E κ).callsIn within userId := by
      rintro within copy ⟨_, _, none, -⟩
      cases none
    exact ⟨⟨nofun, stored, nofun, fun copy inside => absurd inside (nobody _ copy)⟩,
      fun copy inside => absurd inside (nobody _ copy),
      fun copy _ _ inside => absurd inside (nobody _ copy), fun _ => rfl⟩

end Nodes

/-- Reports of two devices of a family. -/
def twoDevices : Bool → DeviceEvent
  | true => twoReports true
  | false => { twoReports false with deviceId := "phone" }

/-- Both calls, one after the other. -/
def bothTold : List (Step Bool Empty) :=
  .hand true :: .hand false :: List.replicate 9 (command true) ++ List.replicate 9 (command false)

/-- The first call has read the family when its key expires; the second one writes and tells the
family, and then the first one does. -/
def toldLate : List (Step Bool Empty) :=
  .hand true :: .hand false :: List.replicate 5 (command true) ++ .expire "family" ::
    List.replicate 9 (command false) ++ [command true]

theorem family_shown_devices :
    lastShown (getFamilySnapshot emptyRedis.state "family") "family"
        (run (Node.step .strict .bytes ownReads twoDevices) (.start emptyRedis) bothTold).sent =
      getFamilySnapshot (run (Node.step .strict .bytes ownReads twoDevices) (.start emptyRedis)
        bothTold).redis.state "family" := by
  have plain : PlainId "family" := by simp [PlainId, globSpecials]
  refine family_shown .strict ownReads twoDevices "family" plain ?_ ownReads_distinct emptyRedis
    List.nodup_nil bothTold ?_ ?_
  · intro event
    cases event <;> exact plain
  · -- no key expires
    have lasting : ∀ op ∈ bothTold, op ≠ .expire "family" := by
      simp [bothTold, command]
    intro before op after split expired
    exact absurd expired (lasting op (by rw [split]; simp))
  · rintro ⟨event, _ | ⟨consumer, _⟩⟩ ⟨_, _, here, -, untold⟩
    · cases event
      · cases here
        exact untold
      · cases here
        exact untold
    · exact consumer.elim

/-- A call whose key has expired tells the family what was stored before another call wrote. -/
theorem stale_family_shown :
    (∀ copy, copy ∉ (run (Node.step .strict .bytes ownReads twoDevices) (.start emptyRedis)
      toldLate).callsIn Phase.IsUntold "family") ∧
      lastShown [] "family" (run (Node.step .strict .bytes ownReads twoDevices) (.start emptyRedis)
        toldLate).sent ≠
        getFamilySnapshot (run (Node.step .strict .bytes ownReads twoDevices) (.start emptyRedis)
          toldLate).redis.state "family" := by
  constructor
  · rintro ⟨event, _ | ⟨consumer, _⟩⟩ ⟨_, _, here, -, untold⟩
    · cases event
      · cases here
        exact untold
      · cases here
        exact untold
    · exact consumer.elim
  · intro same
    exact absurd (congrArg List.length same) (by decide +kernel)

end ScreenSync.Sync
