/-
**The per-user lock, over every interleaving.**

A call that holds the lock reads the snapshot, and writes it back some commands later, without
looking at the lock again. The key may expire in between.

* `moves_lease` — every step of the schedule is a step of the user's `Lease`.
* `Serial` — the invariant: whoever is between its `SET NX` and its write holds the key and is the
  only one, and what was read last was read by it.
* `exclusive_writes` — as long as no key goes away under such a call, every snapshot is written by
  the call that holds the key, right after it has read it.
* `snapshot_written_without_key` — a call whose key has expired writes over the snapshot of another.
-/

import ScreenSync.Foundation.Lease
import ScreenSync.Sync.Consumer
import ScreenSync.Sync.LastWrite

namespace ScreenSync.Sync

open ScreenSync.Foundation ScreenSync.Shared

variable {E κ : Type} [DecidableEq E] [DecidableEq κ]

/-! ### The lock of a user -/

namespace Node

/-- The call is between its `SET NX` and its write of the snapshot. -/
def Inside (node : Node E κ) (userId : UserId) (copy : Copy E κ) : Prop :=
  ∃ event phase, node.task copy = some (.running event phase) ∧ event.userId = userId ∧
    phase.IsInside

/-- The lock key of a user, and the calls that are inside. -/
def lease (node : Node E κ) (userId : UserId) : Lease (Copy E κ) String where
  key := node.redis.locks userId
  inside := {copy | node.Inside userId copy}

end Node

/-- The token a call locks with. -/
def tokenOf (reads : Copy E κ → Reads) (copy : Copy E κ) : String := (reads copy).token

variable {iso : IsoReader} {form : Replies} {reads : Copy E κ → Reads} {events : E → DeviceEvent}
  {node next : Node E κ} {op : Step E κ} {userId : UserId}

omit [DecidableEq E] [DecidableEq κ] in
theorem lease_eq {key : Option String} {inside : Set (Copy E κ)}
    (found : next.redis.locks userId = key) (same : (next.lease userId).inside = inside) :
    next.lease userId = ⟨key, inside⟩ := by
  subst found same
  rfl

omit [DecidableEq E] [DecidableEq κ] in
/-- A step that leaves the key alone and lets nobody in. -/
theorem lease_leave (key : next.redis.locks userId = node.redis.locks userId)
    (fewer : ∀ copy, next.Inside userId copy → node.Inside userId copy) :
    Lease.Step (tokenOf reads) (node.lease userId) (next.lease userId) := by
  rw [lease_eq key rfl]
  exact .leave _ fewer

/-- Who is inside after one task was changed. -/
theorem inside_update {copy : Copy E κ} {task : Option Task}
    (changed : next.task = Function.update node.task copy task) (other : Copy E κ) :
    next.Inside userId other ↔
      if other = copy then ∃ event phase, task = some (.running event phase) ∧
        event.userId = userId ∧ phase.IsInside
      else node.Inside userId other := by
  unfold Node.Inside
  rw [changed, Function.update_apply]
  split <;> rfl

/-- Who is inside after a command of a call. -/
theorem inside_called {copy : Copy E κ} {event : DeviceEvent} {later : Phase}
    (changed : next.task = Function.update node.task copy (some (.running event later)))
    (other : Copy E κ) : next.Inside userId other ↔
      if other = copy then event.userId = userId ∧ later.IsInside
      else node.Inside userId other := by
  rw [inside_update changed]
  split
  · constructor
    · rintro ⟨event, phase, same, inside⟩
      cases same
      exact inside
    · intro inside
      exact ⟨event, later, rfl, inside⟩
  · rfl

omit [DecidableEq E] [DecidableEq κ] in
theorem inside_of_running {copy : Copy E κ} {event : DeviceEvent} {phase : Phase}
    (here : node.task copy = some (.running event phase)) :
    node.Inside userId copy ↔ event.userId = userId ∧ phase.IsInside := by
  constructor
  · rintro ⟨other, current, running, inside⟩
    cases here.symm.trans running
    exact inside
  · intro inside
    exact ⟨event, phase, here, inside⟩

/-- A call that comes inside. -/
theorem inside_entered {copy : Copy E κ} {event : DeviceEvent} {later : Phase}
    (changed : next.task = Function.update node.task copy (some (.running event later)))
    (entered : later.IsInside) :
    (next.lease event.userId).inside = insert copy (node.lease event.userId).inside := by
  ext other
  rw [Node.lease, Set.mem_ofPred_eq, inside_called changed, Set.mem_insert_iff]
  split
  · rename_i same
    exact ⟨fun _ => .inl same, fun _ => ⟨rfl, entered⟩⟩
  · rename_i different
    exact (or_iff_right different).symm

/-- A call that was outside and stays there. -/
theorem inside_outside {copy : Copy E κ} {event : DeviceEvent} {later : Phase}
    (changed : next.task = Function.update node.task copy (some (.running event later)))
    (before : ¬ node.Inside userId copy) (after : ¬ later.IsInside) :
    (next.lease userId).inside = (node.lease userId).inside := by
  ext other
  rw [Node.lease, Set.mem_ofPred_eq, inside_called changed]
  split
  · rename_i same
    subst same
    exact iff_of_false (fun inside => after inside.2) before
  · rfl

/-- **A command is a step of the lease.** -/
theorem called_lease {copy : Copy E κ} {event : DeviceEvent} {phase later : Phase}
    {sent : List Sent} (here : node.task copy = some (.running event phase))
    (effect : CallEffect iso (reads copy) event node.redis phase later next.redis sent)
    (task : next.task = Function.update node.task copy (some (.running event later))) :
    Lease.Step (tokenOf reads) (node.lease userId) (next.lease userId) := by
  -- a command that leaves the key alone, and does not lead from outside to inside
  have quiet : next.redis.locks userId = node.redis.locks userId →
      (event.userId = userId → later.IsInside → phase.IsInside) →
        Lease.Step (tokenOf reads) (node.lease userId) (next.lease userId) := by
    intro key outside
    refine lease_leave key fun other inside => ?_
    rw [inside_called task] at inside
    split at inside
    · rename_i same
      subst same
      exact (inside_of_running here).mpr ⟨inside.1, outside inside.1 inside.2⟩
    · exact inside
  generalize redis : next.redis = store at effect
  cases effect with
  | lock free =>
    by_cases own : event.userId = userId
    · subst own
      have taken : next.redis.locks event.userId = some (tokenOf reads copy) := by
        rw [redis, setLock_locks, if_pos rfl]
        rfl
      rw [lease_eq taken (inside_entered task trivial)]
      exact .enter copy free
    · refine quiet ?_ fun same => absurd same own
      rw [redis, setLock_locks, if_neg (Ne.symm own)]
  | refuse => exact quiet (by rw [redis]) fun _ inside => inside.elim
  | passOn => exact quiet (by rw [redis]) fun _ inside => inside.elim
  | raise => exact quiet (by rw [redis]) fun _ inside => inside.elim
  | compare => exact quiet (by rw [redis]) fun _ _ => trivial
  | record => exact quiet (by rw [redis]) fun _ _ => trivial
  | write => exact quiet (by rw [redis]) fun _ inside => inside.elim
  | rest before after => exact quiet (by rw [redis]) fun _ inside => absurd inside after.1
  | unlock =>
    by_cases own : event.userId = userId
    · subst own
      have gone : next.redis.locks event.userId = none := by
        rw [redis, setLock_locks, if_pos rfl]
      have outside : ¬ node.Inside event.userId copy := fun inside =>
        ((inside_of_running here).mp inside).2
      rw [lease_eq gone (inside_outside task outside id)]
      exact .drop
    · refine quiet ?_ fun _ inside => inside.elim
      rw [redis, setLock_locks, if_neg (Ne.symm own)]

/-- **Every step of the schedule is a step of the lease.** -/
theorem moves_lease (moves : Node.Moves iso reads events node next op) (userId : UserId) :
    Lease.Step (tokenOf reads) (node.lease userId) (next.lease userId) := by
  cases moves with
  | idle redis task =>
    refine lease_leave (by rw [redis]) fun copy inside => ?_
    unfold Node.Inside at inside ⊢
    rw [task] at inside
    exact inside
  | handed event absent redis task =>
    refine lease_leave (by rw [redis]) fun copy inside => ?_
    rw [inside_called task] at inside
    split at inside
    · exact inside.2.elim
    · exact inside
  | called copy here other effect task => exact called_lease here effect task
  | published copy here redis task =>
    refine lease_leave (by rw [redis]) fun other inside => ?_
    obtain ⟨event, phase, running, inside⟩ := inside
    have apart : phase ≠ .passedOn := by
      rintro rfl
      exact inside.2
    exact ⟨event, phase, Node.running_of_published task running apart, inside⟩
  | took consumer copy here read redis task =>
    refine lease_leave (by rw [redis]) fun other inside => ?_
    rw [inside_called task] at inside
    split at inside
    · exact inside.2.elim
    · exact inside
  | dropped consumer copy here unread redis task =>
    refine lease_leave (by rw [redis]) fun other inside => ?_
    rw [inside_update task] at inside
    split at inside
    · obtain ⟨event, phase, same, -⟩ := inside
      cases same
    · exact inside
  | expired user redis task =>
    have still : ∀ copy, next.Inside userId copy ↔ node.Inside userId copy := by
      intro copy
      unfold Node.Inside
      rw [task]
    by_cases own : user = userId
    · subst own
      have dropped : next.lease user = ⟨none, (node.lease user).inside⟩ := by
        unfold Node.lease
        congr 1
        · rw [redis, setLock_locks, if_pos rfl]
        · ext copy
          exact still copy
      rw [dropped]
      exact .drop
    · refine lease_leave ?_ fun copy inside => (still copy).mp inside
      rw [redis, setLock_locks, if_neg (Ne.symm own)]

/-! ### When the lease lasts -/

/-- While the lock key holds the token of a call that is inside, it does not expire, and no call of
the user sends the `DELETE` of its release. -/
def LeaseLasts (reads : Copy E κ → Reads) (userId : UserId) (node : Node E κ) (op : Step E κ) :
    Prop :=
  ∀ copy, node.Inside userId copy → node.redis.locks userId = some (tokenOf reads copy) →
    op ≠ .expire userId ∧
      ∀ other event, op = .next other → node.task other = some (.running event .owning) →
        event.userId ≠ userId

theorem not_taken (moves : Node.Moves iso reads events node next op)
    (lasts : LeaseLasts reads userId node op) :
    ¬ Lease.Taken (tokenOf reads) (node.lease userId) (next.lease userId) := by
  rintro ⟨gone, copy, inside, held⟩
  obtain ⟨noExpiry, noDelete⟩ := lasts copy inside held
  have present : node.redis.locks userId ≠ none := by
    intro free
    cases held.symm.trans free
  have kept : next.redis.locks userId ≠ node.redis.locks userId := by
    intro same
    exact present (same.symm.trans gone)
  cases moves with
  | idle redis => exact kept (by rw [redis])
  | handed event absent redis => exact kept (by rw [redis])
  | published other here redis => exact kept (by rw [redis])
  | took consumer other here read redis => exact kept (by rw [redis])
  | dropped consumer other here unread redis => exact kept (by rw [redis])
  | expired user redis =>
    rw [redis, setLock_locks] at kept
    split at kept
    · rename_i same
      exact noExpiry (by rw [same])
    · exact kept rfl
  | called other here unrefused effect =>
    generalize redis : next.redis = store at effect
    cases effect with
    | lock free =>
      rw [redis, setLock_locks] at kept
      split at kept
      · rename_i same
        exact present (same ▸ free)
      · exact kept rfl
    | unlock =>
      rw [redis, setLock_locks] at kept
      split at kept
      · rename_i same
        exact noDelete other _ rfl here same.symm
      · exact kept rfl
    | refuse | passOn | raise | compare | record | write | rest => exact kept (by rw [redis])

/-! ### Reads and writes -/

/-- What comes before a write is the read of the same call. -/
def Unbroken {C : Type} (accesses : List (Access C)) : Prop :=
  ∀ before copy after, accesses = before ++ .wrote copy :: after →
    ∃ earlier, before = earlier ++ [.read copy]

theorem Unbroken.append_read {C : Type} {accesses : List (Access C)} (unbroken : Unbroken accesses)
    (copy : C) : Unbroken (accesses ++ [.read copy]) := by
  intro before other after split
  rcases List.eq_nil_or_concat after with rfl | ⟨rest, last, rfl⟩
  · have lasts := List.append_inj_right' split rfl
    cases lasts
  · rw [List.concat_eq_append, ← List.cons_append, ← List.append_assoc] at split
    exact unbroken before other rest (List.append_inj_left' split rfl)

theorem Unbroken.append_wrote {C : Type} {earlier : List (Access C)} {copy : C}
    (unbroken : Unbroken (earlier ++ [.read copy])) :
    Unbroken (earlier ++ [.read copy] ++ [.wrote copy]) := by
  intro before other after split
  rcases List.eq_nil_or_concat after with rfl | ⟨rest, last, rfl⟩
  · have lasts := List.append_inj_right' split rfl
    cases lasts
    exact ⟨earlier, (List.append_inj_left' split rfl).symm⟩
  · rw [List.concat_eq_append, ← List.cons_append, ← List.append_assoc] at split
    exact unbroken before other rest (List.append_inj_left' split rfl)

/-! ### The invariant -/

/-- The last read is that of a call that is about to write. -/
def ReadLast (node : Node E κ) : Prop :=
  ∀ copy event phase, node.task copy = some (.running event phase) → phase.IsInside →
    ¬ phase.IsPending → ∃ earlier, node.accesses = earlier ++ [.read copy]

/-- Whoever is inside holds the key and is the only one; the last read is its own; and every write
came right after the read of the same call. -/
structure Serial (reads : Copy E κ → Reads) (userId : UserId) (node : Node E κ) : Prop where
  exclusive : Lease.Exclusive (tokenOf reads) (node.lease userId)
  ofUser : ∀ copy task, node.task copy = some task →
    task.Satisfies fun event => event.userId = userId
  lastRead : ReadLast node
  unbroken : Unbroken node.accesses

omit [DecidableEq E] [DecidableEq κ] in
theorem serial_start (redis : Redis) : Serial reads userId (Node.start redis : Node E κ) where
  exclusive :=
    { holds := by
        rintro copy ⟨event, phase, none, -⟩
        cases none
      single := by
        rintro copy ⟨event, phase, none, -⟩
        cases none }
  ofUser := by
    intro copy task none
    cases none
  lastRead := by
    intro copy event phase none
    cases none
  unbroken := by
    intro before copy after split
    cases before <;> cases split

omit [DecidableEq E] [DecidableEq κ] in
theorem accessOf_inside (copy : Copy E κ) {later : Phase} (inside : later.IsInside) :
    Node.accessOf copy .acquired later = [.read copy] := by
  cases later with
  | acquired | recording | writing => rfl
  | ready | refused | written | listing | releasing | owning | passedOn | finished =>
    exact inside.elim

omit [DecidableEq E] [DecidableEq κ] in
theorem accessOf_outside (copy : Copy E κ) {phase later : Phase} (outside : ¬ phase.IsInside) :
    Node.accessOf copy phase later = [] := by
  cases phase with
  | acquired | recording | writing => exact absurd trivial outside
  | ready | refused | written | listing | releasing | owning | passedOn | finished => rfl

/-- **A command keeps reads and writes together.** -/
theorem called_accesses {copy : Copy E κ} {event : DeviceEvent} {phase later : Phase}
    {sent : List Sent} (serial : Serial reads userId node)
    (here : node.task copy = some (.running event phase))
    (effect : CallEffect iso (reads copy) event node.redis phase later next.redis sent)
    (task : next.task = Function.update node.task copy (some (.running event later)))
    (accesses : next.accesses = node.accesses ++ Node.accessOf copy phase later) :
    ReadLast next ∧ Unbroken next.accesses := by
  have own : event.userId = userId := serial.ofUser copy _ here
  -- while this call is inside, no other one is
  have alone : phase.IsInside → ∀ other event current,
      next.task other = some (.running event current) → current.IsInside → other = copy := by
    intro inside other event current running within
    by_contra different
    rw [task, Function.update_of_ne different] at running
    have user : event.userId = userId := serial.ofUser other _ running
    exact different (serial.exclusive.single ⟨event, current, running, user, within⟩
      ⟨_, phase, here, own, inside⟩)
  -- a command that reads and writes nothing, and leaves behind no read that is still to be written
  have quiet : Node.accessOf copy phase later = [] →
      (later.IsInside → ¬ later.IsPending → phase.IsInside ∧ ¬ phase.IsPending) →
        ReadLast next ∧ Unbroken next.accesses := by
    intro nothing before
    rw [nothing, List.append_nil] at accesses
    rw [ReadLast, accesses]
    refine ⟨fun other event current running inside settled => ?_, serial.unbroken⟩
    rw [task, Function.update_apply] at running
    split at running
    · rename_i same
      cases running
      subst same
      obtain ⟨within, done⟩ := before inside settled
      exact serial.lastRead other _ phase here within done
    · exact serial.lastRead other event current running inside settled
  generalize next.redis = store at effect
  cases effect with
  | lock => exact quiet rfl fun _ settled => absurd trivial settled
  | refuse => exact quiet rfl fun _ settled => absurd trivial settled
  | passOn => exact quiet rfl fun inside => inside.elim
  | raise => exact quiet rfl fun inside => inside.elim
  | record => exact quiet rfl fun _ _ => ⟨trivial, id⟩
  | unlock => exact quiet rfl fun inside => inside.elim
  | rest before after =>
    exact quiet (accessOf_outside copy before.1) fun inside => absurd inside after.1
  | compare chosen goesOn =>
    rw [accessOf_inside copy goesOn.1] at accesses
    rw [ReadLast, accesses]
    refine ⟨fun other event current running inside _ => ?_, serial.unbroken.append_read copy⟩
    rw [alone trivial other event current running inside]
    exact ⟨node.accesses, rfl⟩
  | write payload =>
    obtain ⟨earlier, read⟩ := serial.lastRead copy _ _ here trivial id
    have wrote : next.accesses = earlier ++ [.read copy] ++ [.wrote copy] := by
      rw [accesses, read]
      rfl
    have unbroken := serial.unbroken
    rw [read] at unbroken
    rw [ReadLast, wrote]
    refine ⟨fun other event current running inside _ => ?_, unbroken.append_wrote⟩
    have same := alone trivial other event current running inside
    rw [same, task, Function.update_self] at running
    cases running
    exact inside.elim

/-- **One step keeps the invariant**, if the lease lasts. -/
theorem serial_step (sameUser : ∀ e, (events e).userId = userId)
    (serial : Serial reads userId node) (moves : Node.Moves iso reads events node next op)
    (lasts : LeaseLasts reads userId node op) : Serial reads userId next := by
  have together : ReadLast next ∧ Unbroken next.accesses := by
    -- one task is changed, to one that is not inside
    have update : ∀ {copy : Copy E κ} {changed : Option Task},
        next.accesses = node.accesses → next.task = Function.update node.task copy changed →
          (∀ event phase, changed = some (.running event phase) → ¬ phase.IsInside) →
            ReadLast next ∧ Unbroken next.accesses := by
      intro copy changed accesses task outside
      rw [ReadLast, accesses]
      refine ⟨fun other event phase running inside settled => ?_, serial.unbroken⟩
      rw [task, Function.update_apply] at running
      split at running
      · exact absurd inside (outside event phase running)
      · exact serial.lastRead other event phase running inside settled
    cases moves with
    | idle redis task accesses =>
      rw [ReadLast, task, accesses]
      exact ⟨serial.lastRead, serial.unbroken⟩
    | expired user redis task accesses =>
      rw [ReadLast, task, accesses]
      exact ⟨serial.lastRead, serial.unbroken⟩
    | handed event absent redis task accesses =>
      refine update accesses task fun other phase same => ?_
      cases same
      exact id
    | took consumer copy here read redis task accesses =>
      refine update accesses task fun other phase same => ?_
      cases same
      exact id
    | dropped consumer copy here unread redis task accesses =>
      refine update accesses task fun other phase same => ?_
      cases same
    | called copy here other effect task accesses =>
      exact called_accesses serial here effect task accesses
    | published copy here redis task accesses =>
      rw [ReadLast, accesses]
      refine ⟨fun other event phase running inside settled => ?_, serial.unbroken⟩
      have apart : phase ≠ .passedOn := by
        rintro rfl
        exact inside
      exact serial.lastRead other event phase (Node.running_of_published task running apart) inside
        settled
  exact
    { exclusive := serial.exclusive.step (moves_lease moves userId) (not_taken moves lasts)
      ofUser := moves_satisfies (fun event eventId own => own) sameUser serial.ofUser moves
      lastRead := together.1
      unbroken := together.2 }

/-! ### Whole runs -/

/-- A snapshot is only written by a call whose token is the value of its user's lock key. -/
def HoldsKey (reads : Copy E κ → Reads) (node : Node E κ) (op : Step E κ) : Prop :=
  ∀ copy event payload, op = .next copy →
    node.task copy = some (.running event (.writing payload)) →
      node.redis.locks event.userId = some (tokenOf reads copy)

/-- **Mutual exclusion per user**, in every run in which the lease lasts: every snapshot is written
by the call that holds the user's key, and nothing is read or written between its read and its
write. -/
theorem exclusive_writes (iso : IsoReader) (form : Replies) (reads : Copy E κ → Reads)
    (events : E → DeviceEvent) (userId : UserId) (redis : Redis) (schedule : List (Step E κ))
    (sameUser : ∀ e, (events e).userId = userId)
    (lasts : Meets (Node.step iso form reads events) (LeaseLasts reads userId) (.start redis)
      schedule) :
    Meets (Node.step iso form reads events) (HoldsKey reads) (.start redis) schedule ∧
      Unbroken (run (Node.step iso form reads events) (.start redis) schedule).accesses := by
  have kept : ∀ before after, schedule = before ++ after →
      Serial reads userId (run (Node.step iso form reads events) (.start redis) before) := by
    rintro before after rfl
    exact run_invariant_of_meets (fun node op serial lasting =>
      serial_step sameUser serial (Node.step_moves op) lasting) (serial_start redis)
      lasts.append_left
  constructor
  · rintro before op after split copy event payload rfl here
    have serial := kept before _ split
    have own : event.userId = userId := serial.ofUser copy _ here
    rw [own]
    exact serial.exclusive.holds copy ⟨event, _, here, own, trivial⟩
  · exact (kept schedule [] (by simp)).unbroken

/-! ### Two events of one tablet -/

/-- The tablet's events. -/
def twoReports : Bool → DeviceEvent
  | true => (report "chess" 0 10 false).event
  | false => (report "chat" 5 11 false).event

/-- What the call of a copy reads. -/
def ownReads {κ : Type} (copy : Copy Bool κ) : Reads where
  token := if copy.event then "first" else "second"
  eventId := "retry"
  conflictId := "conflict"
  resolvedAt := someTime 9 10
  syncedAt := someTime 9 10
  broadcastAt := someTime 9 10

/-- The copy of an event that was handed in. -/
def original {κ : Type} (event : Bool) : Copy Bool κ := ⟨event, []⟩

def emptyRedis : Redis := ⟨fun _ => none, ⟨[], []⟩⟩

/-- The next command of an event that was handed in. -/
def command {κ : Type} (event : Bool) : Step Bool κ := .next (original event)

/-- The second call is refused while the first one has the lock, and passes its event on. -/
def secondRefused : List (Step Bool Empty) :=
  [.hand true, .hand false, command true, command false, command true, command false, command true]

theorem exclusive_writes_tablet :
    Meets (Node.step .strict .bytes ownReads twoReports) (HoldsKey ownReads) (.start emptyRedis)
        secondRefused ∧
      Unbroken (run (Node.step .strict .bytes ownReads twoReports) (.start emptyRedis)
        secondRefused).accesses :=
  exclusive_writes .strict .bytes ownReads twoReports "family" emptyRedis secondRefused
    (by decide) <| by
    -- nobody has come to the `DELETE` of its release
    have quiet : ∀ {node : Node Bool Empty} {called : Bool} {event : DeviceEvent} {phase : Phase},
        node.task (original called) = some (.running event phase) → phase ≠ .owning →
          LeaseLasts ownReads "family" node (command called) := by
      intro node called event phase here other copy inside held
      refine ⟨fun same => (by cases same), fun late running same owning => ?_⟩
      cases same
      cases here.symm.trans owning
      exact absurd rfl other
    have handed : ∀ {node : Node Bool Empty} {event : Bool},
        LeaseLasts ownReads "family" node (.hand event) := by
      intro node event copy inside held
      exact ⟨fun same => (by cases same), fun late running same => by cases same⟩
    refine meets_cons.mpr ⟨handed, meets_cons.mpr ⟨handed, meets_cons.mpr ⟨quiet rfl ?_,
      meets_cons.mpr ⟨quiet rfl ?_, meets_cons.mpr ⟨quiet rfl ?_,
        meets_cons.mpr ⟨quiet rfl ?_, meets_cons.mpr ⟨quiet rfl ?_, .nil _ _⟩⟩⟩⟩⟩⟩⟩
    all_goals
      intro same
      cases same

/-- The first call has read the snapshot when its key expires, the second one takes the lock, reads
and writes, and then the first one writes. -/
def expiredKey : List (Step Bool Empty) :=
  [.hand true, .hand false, command true, command true, .expire "family", command false,
    command false, command false, command true]

/-- A call whose key has expired writes a snapshot, over one that was written after it has read. -/
theorem snapshot_written_without_key :
    ¬ Meets (Node.step .strict .bytes ownReads twoReports) (HoldsKey ownReads) (.start emptyRedis)
        expiredKey ∧
      (run (Node.step .strict .bytes ownReads twoReports) (.start emptyRedis) expiredKey).accesses =
        [.read (original true), .read (original false), .wrote (original false),
          .wrote (original true)] := by
  constructor
  · intro holds
    have held := holds (expiredKey.take 8) (command true) [] rfl (original true) (twoReports true)
      _ rfl rfl
    revert held
    decide +kernel
  · rfl

end ScreenSync.Sync
