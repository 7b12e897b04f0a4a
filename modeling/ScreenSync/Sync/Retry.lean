/-
**Retries of contended events.**

An event whose user's lock is held is published for a retry. Every consumer that is subscribed at
that moment is given a copy of its own; with no consumer the event is gone.

* `moves_custody` — every step of the schedule is a step of the events' `Custody`.
* `retried_once_iff` — every event that was handed in is merged once or there as one pending copy,
  throughout a run, exactly if each event that is published finds one consumer.
* `contended_event_lost_or_doubled` — without a consumer the event of a refused call is lost, with
  two there are two copies of it.
-/

import Mathlib.Data.Finset.Card
import ScreenSync.Foundation.Custody
import ScreenSync.Sync.Exclusion

namespace ScreenSync.Sync

open ScreenSync.Foundation ScreenSync.Shared

variable {E κ : Type} [DecidableEq E] [DecidableEq κ]

/-! ### Copies that are still to be merged -/

/-- The task's event has not been compared with a snapshot yet, nor passed on. -/
def Task.IsPending : Task → Prop
  | .queued _ => True
  | .running _ phase => phase.IsPending

/-- The copy waits for a consumer, or its call has not read the snapshot yet. -/
def Node.Pending (node : Node E κ) (copy : Copy E κ) : Prop :=
  ∃ task, node.task copy = some task ∧ task.IsPending

/-- The events that were handed in, the copies that are still to be compared with a snapshot, and
those that were. -/
def Node.custody (node : Node E κ) : Custody (Copy E κ) E where
  known := {event | node.task ⟨event, []⟩ ≠ none}
  live := {copy | node.Pending copy}
  done := node.accesses.filterMap Access.readBy

variable {iso : IsoReader} {form : Replies} {reads : Copy E κ → Reads} {events : E → DeviceEvent}
  {node next : Node E κ} {op : Step E κ}

theorem pending_update {copy : Copy E κ} {task : Option Task}
    (changed : next.task = Function.update node.task copy task) (other : Copy E κ) :
    other ∈ next.custody.live ↔
      if other = copy then ∃ now, task = some now ∧ now.IsPending
      else other ∈ node.custody.live := by
  show next.Pending other ↔ if other = copy then _ else node.Pending other
  unfold Node.Pending
  rw [changed, Function.update_apply]
  split <;> rfl

omit [DecidableEq E] [DecidableEq κ] in
theorem pending_of_task {copy : Copy E κ} {task : Task} (here : node.task copy = some task) :
    copy ∈ node.custody.live ↔ task.IsPending := by
  constructor
  · rintro ⟨other, found, pending⟩
    cases here.symm.trans found
    exact pending
  · intro pending
    exact ⟨task, here, pending⟩

/-- The pending copies after a task was replaced by another one. -/
theorem pending_replace {copy : Copy E κ} {after : Task}
    (changed : next.task = Function.update node.task copy (some after)) (other : Copy E κ) :
    other ∈ next.custody.live ↔
      if other = copy then after.IsPending else other ∈ node.custody.live := by
  rw [pending_update changed]
  split
  · constructor
    · rintro ⟨now, found, pending⟩
      cases found
      exact pending
    · intro pending
      exact ⟨after, rfl, pending⟩
  · rfl

/-- A task that is replaced by one that is pending exactly if the old one was. -/
theorem pending_keep {copy : Copy E κ} {before after : Task} (here : node.task copy = some before)
    (changed : next.task = Function.update node.task copy (some after))
    (same : after.IsPending ↔ before.IsPending) (other : Copy E κ) :
    other ∈ next.custody.live ↔ other ∈ node.custody.live := by
  rw [pending_replace changed]
  split
  · rename_i equal
    subst equal
    rw [pending_of_task here, same]
  · rfl

/-- Replacing a task hands nothing in. -/
theorem known_replace {copy : Copy E κ} {before after : Task} (here : node.task copy = some before)
    (changed : next.task = Function.update node.task copy (some after)) :
    next.custody.known = node.custody.known := by
  ext event
  show next.task ⟨event, []⟩ ≠ none ↔ node.task ⟨event, []⟩ ≠ none
  rw [changed, Function.update_apply]
  split
  · rename_i same
    rw [same, here]
    simp
  · rfl

/-! ### One step -/

omit [DecidableEq E] [DecidableEq κ] in
theorem done_of_accesses {accesses : List (Access (Copy E κ))}
    (appended : next.accesses = node.accesses ++ accesses) :
    next.custody.done = node.custody.done ++ accesses.filterMap Access.readBy := by
  show next.accesses.filterMap _ = _
  rw [appended, List.filterMap_append]
  rfl

/-- **A command is a step of the custody**: it changes nothing, or merges its copy. -/
theorem called_custody (stamped : Stamped node.redis.state) {copy : Copy E κ} {event : DeviceEvent}
    {phase later : Phase} {sent : List Sent} (here : node.task copy = some (.running event phase))
    (other : phase ≠ .refused)
    (effect : CallEffect iso (reads copy) event node.redis phase later next.redis sent)
    (task : next.task = Function.update node.task copy (some (.running event later)))
    (accesses : next.accesses = node.accesses ++ Node.accessOf copy phase later) :
    Custody.Step Copy.event node.custody next.custody none := by
  have done := done_of_accesses accesses
  have known := known_replace here task
  -- a command that reads no snapshot
  have quiet : (later.IsPending ↔ phase.IsPending) →
      (Node.accessOf copy phase later).filterMap Access.readBy = [] →
        Custody.Step Copy.event node.custody next.custody none := by
    intro same nothing
    rw [nothing, List.append_nil] at done
    exact .keep known (pending_keep here task same) done
  generalize next.redis = store at effect
  cases effect with
  | lock => exact quiet ⟨fun _ => trivial, fun _ => trivial⟩ rfl
  | refuse => exact quiet ⟨fun _ => trivial, fun _ => trivial⟩ rfl
  | passOn => exact absurd rfl other
  | raise failed =>
    obtain ⟨choice, chosen⟩ := chooseWinner_of_stamped iso stamped event.userId event.deviceId
      (ingestCall (reads copy) event)
    cases failed.symm.trans chosen
  | record => exact quiet Iff.rfl rfl
  | write => exact quiet Iff.rfl rfl
  | unlock => exact quiet Iff.rfl rfl
  | rest before after =>
    refine quiet ⟨fun pending => absurd pending after.2, fun pending => absurd pending before.2⟩ ?_
    rw [accessOf_outside copy before.1]
    rfl
  | compare chosen goesOn =>
    rw [accessOf_inside copy goesOn.1] at done
    refine .finish copy ((pending_of_task here).mpr trivial) known (fun d => ?_) done
    rw [pending_replace task]
    split
    · rename_i same
      exact ⟨fun pending => absurd pending goesOn.2, fun both => absurd same both.2⟩
    · rename_i different
      exact (and_iff_left different).symm

/-- The copies that are handed on when the event of a refused call is published. -/
def handedOn (node : Node E κ) (op : Step E κ) : Option (Set (Copy E κ)) :=
  match op with
  | .next copy =>
    match node.task copy with
    | some (.running _ .refused) => some {other | other ∈ node.subscribed.image copy.via}
    | _ => none
  | _ => none

theorem handedOn_refused {copy : Copy E κ} {event : DeviceEvent}
    (here : node.task copy = some (.running event .refused)) :
    handedOn node (.next copy) = some {other | other ∈ node.subscribed.image copy.via} := by
  simp only [handedOn, here]

theorem handedOn_none
    (quiet : ∀ copy event, op = .next copy → node.task copy ≠ some (.running event .refused)) :
    handedOn node op = none := by
  unfold handedOn
  split
  · split
    · rename_i copy _ event here
      exact absurd here (quiet copy event rfl)
    · rfl
  · rfl

/-- **What is published is passed on** to the consumers that are subscribed. -/
theorem published_custody {copy : Copy E κ} {event : DeviceEvent}
    (here : node.task copy = some (.running event .refused))
    (task : ∀ other, next.task other =
      if other ∈ node.subscribed.image copy.via then some (.queued (retryMessage event))
      else if other = copy then some (.running event .passedOn) else node.task other)
    (accesses : next.accesses = node.accesses) :
    Custody.Step Copy.event node.custody next.custody
      (some {other | other ∈ node.subscribed.image copy.via}) := by
  have given : ∀ d ∈ node.subscribed.image copy.via, d.event = copy.event ∧ d.route ≠ [] := by
    intro d member
    obtain ⟨consumer, -, rfl⟩ := Finset.mem_image.mp member
    exact ⟨rfl, List.concat_ne_nil consumer copy.route⟩
  have known : next.custody.known = node.custody.known := by
    ext e
    show next.task ⟨e, []⟩ ≠ none ↔ node.task ⟨e, []⟩ ≠ none
    rw [task, if_neg fun member => (given _ member).2 rfl]
    split
    · rename_i same
      rw [same, here]
      simp
    · rfl
  have done : next.custody.done = node.custody.done := by
    unfold Node.custody
    rw [accesses]
  refine .pass copy ((pending_of_task here).mpr trivial) _ (fun d member => (given d member).1)
    known (fun d => ?_) done
  show next.Pending d ↔ node.Pending d ∧ d ≠ copy ∨ d ∈ node.subscribed.image copy.via
  by_cases member : d ∈ node.subscribed.image copy.via
  · have found := task d
    rw [if_pos member] at found
    exact ⟨fun _ => .inr member, fun _ => ⟨_, found, trivial⟩⟩
  · rw [or_iff_left member]
    have found := task d
    rw [if_neg member] at found
    by_cases same : d = copy
    · rw [if_pos same] at found
      constructor
      · rintro ⟨now, running, pending⟩
        cases found.symm.trans running
        exact pending.elim
      · exact fun both => absurd same both.2
    · rw [if_neg same] at found
      unfold Node.Pending
      rw [found]
      exact (and_iff_left same).symm

/-- **Every step of the schedule is a step of the custody.** -/
theorem moves_custody (stamped : Stamped node.redis.state)
    (readable : ∀ copy task, node.task copy = some task → task.Satisfies fun _ => True)
    (moves : Node.Moves iso reads events node next op) :
    Custody.Step Copy.event node.custody next.custody (handedOn node op) := by
  cases moves with
  | idle redis task accesses quiet =>
    rw [handedOn_none quiet]
    have same : next.custody = node.custody := by
      unfold Node.custody Node.Pending
      rw [task, accesses]
    rw [same]
    exact .keep rfl (fun _ => Iff.rfl) rfl
  | expired user redis task accesses =>
    have same : next.custody = node.custody := by
      unfold Node.custody Node.Pending
      rw [task, accesses]
    rw [same]
    exact .keep rfl (fun _ => Iff.rfl) rfl
  | handed event absent redis task accesses =>
    have done : next.custody.done = node.custody.done := by
      unfold Node.custody
      rw [accesses]
    refine .start ⟨event, []⟩ (fun known => known absent) ?_ (fun d => ?_) done
    · ext other
      show next.task ⟨other, []⟩ ≠ none ↔ other = event ∨ node.task ⟨other, []⟩ ≠ none
      rw [task, Function.update_apply]
      split
      · rename_i same
        cases same
        simp
      · rename_i different
        exact (or_iff_right fun same => different (by rw [same])).symm
    · rw [pending_replace task]
      split
      · rename_i same
        exact ⟨fun _ => .inr same, fun _ => trivial⟩
      · rename_i different
        exact (or_iff_left different).symm
  | called copy here other effect task accesses =>
    rw [handedOn_none]
    · exact called_custody stamped here other effect task accesses
    · intro _ event same refused
      cases same
      cases here.symm.trans refused
      exact other rfl
  | published copy here redis task accesses =>
    rw [handedOn_refused here]
    exact published_custody here task accesses
  | took consumer copy here read redis task accesses =>
    have done : next.custody.done = node.custody.done := by
      unfold Node.custody
      rw [accesses]
    exact .keep (known_replace here task)
      (pending_keep here task ⟨fun _ => trivial, fun _ => trivial⟩) done
  | dropped consumer copy here unread redis task accesses =>
    obtain ⟨event, rfl, -⟩ := readable copy _ here
    rw [decodeRetry_retryMessage] at unread
    cases unread

theorem moves_stamped (stamped : Stamped node.redis.state)
    (moves : Node.Moves iso reads events node next op) : Stamped next.redis.state := by
  cases moves with
  | idle redis | handed _ _ redis | published _ _ redis | took _ _ _ _ redis
  | dropped _ _ _ _ redis =>
    rw [redis]
    exact stamped
  | expired user redis =>
    rw [redis]
    exact stamped
  | called copy here other effect => exact effect.stamped stamped

/-! ### Whole runs -/

/-- What is published for a retry reaches one consumer. -/
def OneConsumer (node : Node E κ) (op : Step E κ) : Prop :=
  ∀ copy event, op = .next copy → node.task copy = some (.running event .refused) →
    node.subscribed.card = 1

omit [DecidableEq E] [DecidableEq κ] in
theorem via_injective (copy : Copy E κ) : Function.Injective copy.via := by
  intro first second same
  have routes : copy.route ++ [first] = copy.route ++ [second] := congrArg Copy.route same
  exact List.singleton_injective (List.append_cancel_left routes)

/-- One copy is handed on exactly if there is one consumer. -/
theorem oneConsumer_iff (node : Node E κ) (op : Step E κ) :
    OneConsumer node op ↔ ∀ others, handedOn node op = some others → ∃! d, d ∈ others := by
  have single : ∀ copy : Copy E κ, (∃! d, d ∈ node.subscribed.image copy.via) ↔
      node.subscribed.card = 1 := by
    intro copy
    rw [← Finset.card_eq_one_iff_existsUnique,
      Finset.card_image_of_injective _ (via_injective copy)]
  constructor
  · intro one others handed
    unfold handedOn at handed
    split at handed
    · split at handed
      · rename_i copy _ event here
        cases handed
        exact (single copy).mpr (one copy event rfl here)
      · cases handed
    · cases handed
  · rintro unique copy event rfl here
    exact (single copy).mp (unique _ (handedOn_refused here))

/-- What every state of a run satisfies: snapshots are stamped, messages can be read, and there are
copies only of events that were handed in. -/
structure Orderly (node : Node E κ) : Prop where
  stamped : Stamped node.redis.state
  readable : ∀ copy task, node.task copy = some task → task.Satisfies fun _ => True
  known : node.custody.Known Copy.event

omit [DecidableEq E] [DecidableEq κ] in
theorem orderly_start {redis : Redis} (stamped : Stamped redis.state) :
    Orderly (Node.start redis : Node E κ) where
  stamped := stamped
  readable := by
    intro copy task none
    cases none
  known := by
    rintro copy (⟨task, none, -⟩ | none)
    · cases none
    · cases none

theorem orderly_step (orderly : Orderly node) (op : Step E κ) :
    Orderly (node.step iso form reads events op) := by
  have moves : Node.Moves iso reads events node (node.step iso form reads events op) op :=
    Node.step_moves op
  exact
    { stamped := moves_stamped orderly.stamped moves
      readable := moves_satisfies (fun _ _ => id) (fun _ => trivial) orderly.readable moves
      known := (moves_custody orderly.stamped orderly.readable moves).known orderly.known }

/-- **Exactly when retries neither lose nor multiply events.** Every event that was handed in has,
throughout a run, been merged once or is there as one pending copy, exactly if whenever the event of
a refused call is published one consumer is subscribed. -/
theorem retried_once_iff (iso : IsoReader) (form : Replies) (reads : Copy E κ → Reads)
    (events : E → DeviceEvent) (redis : Redis) (stamped : Stamped redis.state)
    (schedule : List (Step E κ)) :
    Throughout (Node.step iso form reads events)
        (fun node => ∀ event, node.task ⟨event, []⟩ ≠ none → node.custody.Single Copy.event event)
        (.start redis) schedule ↔
      Meets (Node.step iso form reads events) OneConsumer (.start redis) schedule := by
  refine throughout_iff_meets Orderly (fun node op orderly => orderly_step orderly op) ?_
    (orderly_start stamped) (fun event handed => absurd rfl handed) schedule
  intro node op orderly settled
  have moves : Node.Moves iso reads events node (node.step iso form reads events op) op :=
    Node.step_moves op
  have step := moves_custody orderly.stamped orderly.readable moves
  rw [oneConsumer_iff]
  exact step.settled_iff orderly.known settled

/-! ### Two events of one tablet, again -/

/-- The second call finds the lock held, and publishes its event. -/
def contended {κ : Type} : List (Step Bool κ) :=
  [.hand true, .hand false, command true, command false, command false]

theorem retried_once_iff_tablet :
    Throughout (Node.step .strict .bytes ownReads twoReports)
        (fun node => ∀ event, node.task ⟨event, []⟩ ≠ none → node.custody.Single Copy.event event)
        (.start emptyRedis) (.subscribe () :: contended) ↔
      Meets (Node.step .strict .bytes ownReads twoReports) OneConsumer (.start emptyRedis)
        (.subscribe () :: contended) :=
  retried_once_iff .strict .bytes ownReads twoReports emptyRedis (fun _ _ _ => nofun) _

/-- Published to nobody, the event is lost; published to two consumers, there are two copies. -/
theorem contended_event_lost_or_doubled :
    ¬ Throughout (Node.step .strict .bytes ownReads twoReports)
        (fun node => ∀ event, node.task ⟨event, []⟩ ≠ none → node.custody.Single Copy.event event)
        (.start emptyRedis) (contended : List (Step Bool Empty)) ∧
      ¬ Throughout (Node.step .strict .bytes ownReads twoReports)
        (fun node => ∀ event, node.task ⟨event, []⟩ ≠ none → node.custody.Single Copy.event event)
        (.start emptyRedis) (.subscribe true :: .subscribe false :: contended) := by
  constructor
  · intro always
    rcases always contended [] rfl false nofun with ⟨merged, -⟩ | ⟨-, copy, here, -⟩
    · exact absurd merged (by decide)
    · obtain ⟨⟨task, found, pending⟩, same⟩ := here
      obtain ⟨event, _ | ⟨consumer, -⟩⟩ := copy
      · cases same
        cases found
        exact pending
      · exact consumer.elim
  · intro always
    rcases always (.subscribe true :: .subscribe false :: contended) [] rfl false nofun with
      ⟨merged, -⟩ | ⟨-, unique⟩
    · exact absurd merged (by decide)
    · have both : (⟨false, [true]⟩ : Copy Bool Bool) = ⟨false, [false]⟩ :=
        unique.unique ⟨⟨_, rfl, trivial⟩, rfl⟩ ⟨⟨_, rfl, trivial⟩, rfl⟩
      exact absurd both (by decide)

end ScreenSync.Sync
