/-
**The sections of `_user_lock`.**

A call that has set the lock key runs the body of its section, which returns or raises at any
command, and gives the lock back in the `finally`: `GET`, a comparison, `DELETE`. The comparison
calls `decode` on the reply, which bytes have and texts have not.

* `serve_release` — every step of the schedule is a step of the user's `Release`, or the lease is
  over.
* `run_delete` — as long as nobody takes the lock while a `DELETE` is due, each one finds the key
  free or with its own token.
* `releasesOwn_iff` — with replies in bytes, no call deletes the lock of another exactly as long as
  nobody takes the lock while a `DELETE` is due.
* `text_ends` — with replies in text, every section that runs alone still ends.
* `kept_after_section` — and none gives the lock back.
* `another_call_unlocked`, `lock_kept` — two calls of a family, for each.
-/

import ScreenSync.Foundation.Release
import ScreenSync.Sync.Exclusion

namespace ScreenSync.Sync

open ScreenSync.Foundation ScreenSync.Shared

variable {E κ : Type} [DecidableEq E] [DecidableEq κ]

/-! ### Sections that raise -/

/-- The call is between its `SET NX` and its `finally`. -/
def Phase.InSection : Phase → Bool
  | .acquired | .recording _ _ | .writing _ | .written | .listing _ _ => true
  | _ => false

/-- A step of the schedule, or a command of a section that raises. -/
inductive SectionStep (E κ : Type)
  | step (op : Step E κ)
  | raise (copy : Copy E κ)

namespace Node

variable (iso : IsoReader) (form : Replies) (reads : Copy E κ → Reads) (events : E → DeviceEvent)

/-- One step. An exception goes to the `finally`. -/
def serve (node : Node E κ) : SectionStep E κ → Node E κ
  | .step op => node.step iso form reads events op
  | .raise copy =>
    match node.task copy with
    | some (.running event phase) =>
      if phase.InSection then node.setTask copy (some (.running event .releasing)) else node
    | _ => node

/-- The `DELETE` of the call is due. -/
def Deleting (node : Node E κ) (userId : UserId) (copy : Copy E κ) : Prop :=
  ∃ event, node.task copy = some (.running event .owning) ∧ event.userId = userId

/-- The lock key of a user, and the calls whose `DELETE` is due. -/
def release (node : Node E κ) (userId : UserId) : Release (Copy E κ) String where
  key := node.redis.locks userId
  deleting := {copy | node.Deleting userId copy}

end Node

variable {iso : IsoReader} {form : Replies} {reads : Copy E κ → Reads} {events : E → DeviceEvent}
  {node next : Node E κ} {userId : UserId}

/-! ### What a step does to the lock -/

/-- **How a call comes to its `DELETE`**: it has found its token, in a reply that can be decoded. -/
theorem callStep_owning {own : Reads} {event : DeviceEvent} {redis : Redis} {phase : Phase}
    (due : (callStep iso form own event redis phase).1 = .owning) :
    phase = .releasing ∧ form = .bytes ∧ redis.locks event.userId = some own.token := by
  cases phase with
  | releasing =>
    simp only [callStep] at due
    split at due
    · cases due
    · cases due
    · rename_i current found
      split at due
      · rename_i same
        exact ⟨rfl, rfl, same ▸ found⟩
      · cases due
  | ready =>
    simp only [callStep] at due
    split at due <;> cases due
  | acquired =>
    simp only [callStep] at due
    split at due
    · cases due
    · split at due <;> cases due
  | listing keys family =>
    cases keys with
    | nil => cases due
    | cons key keys =>
      simp only [callStep] at due
      split at due <;> cases due
  | refused | recording | writing | written | owning | passedOn | finished => cases due

/-- Whose `DELETE` is due after one task was changed. -/
theorem deleting_update {copy : Copy E κ} {task : Option Task}
    (changed : next.task = Function.update node.task copy task) (other : Copy E κ) :
    next.Deleting userId other ↔
      if other = copy then ∃ event, task = some (.running event .owning) ∧ event.userId = userId
      else node.Deleting userId other := by
  unfold Node.Deleting
  rw [changed, Function.update_apply]
  split <;> rfl

/-- A task that does not become a `DELETE` for the user makes none due. -/
theorem deleting_fewer {copy : Copy E κ} {task : Option Task}
    (changed : next.task = Function.update node.task copy task)
    (other : ∀ event, task = some (.running event .owning) → event.userId ≠ userId) :
    (next.release userId).deleting ⊆ (node.release userId).deleting := by
  intro call due
  rw [Node.release, Set.mem_ofPred_eq, deleting_update changed] at due
  split at due
  · obtain ⟨event, same, own⟩ := due
    exact absurd own (other event same)
  · exact due

/-- A task that neither was a `DELETE` nor becomes one leaves those that are due. -/
theorem deleting_same {copy : Copy E κ} {task : Option Task}
    (changed : next.task = Function.update node.task copy task)
    (before : ∀ event, node.task copy ≠ some (.running event .owning))
    (after : ∀ event, task ≠ some (.running event .owning)) :
    (next.release userId).deleting = (node.release userId).deleting := by
  refine Set.Subset.antisymm (deleting_fewer changed fun event same => (after event same).elim) ?_
  rintro other ⟨event, here, own⟩
  have apart : other ≠ copy := by
    rintro rfl
    exact before event here
  exact ((deleting_update changed other).trans (iff_of_eq (if_neg apart))).mpr ⟨event, here, own⟩

/-- The `DELETE` of a call becomes due. -/
theorem deleting_due {copy : Copy E κ} {event : DeviceEvent}
    (changed : next.task = Function.update node.task copy (some (.running event .owning))) :
    (next.release event.userId).deleting = insert copy (node.release event.userId).deleting := by
  ext call
  rw [Node.release, Set.mem_ofPred_eq, Set.mem_insert_iff, deleting_update changed]
  split
  · rename_i same
    exact ⟨fun _ => .inl same, fun _ => ⟨event, rfl, rfl⟩⟩
  · rename_i different
    exact (or_iff_right different).symm

omit [DecidableEq E] [DecidableEq κ] in
theorem release_eq {key : Option String} {deleting : Set (Copy E κ)}
    (found : next.redis.locks userId = key) (due : (next.release userId).deleting = deleting) :
    next.release userId = ⟨key, deleting⟩ := by
  subst found due
  rfl

omit [DecidableEq E] [DecidableEq κ] in
/-- A step that leaves the key alone, after which no more deletes are due. -/
theorem release_leave (key : next.redis.locks userId = node.redis.locks userId)
    (fewer : (next.release userId).deleting ⊆ (node.release userId).deleting) :
    Release.Step (tokenOf reads) (node.release userId) (next.release userId) := by
  rw [release_eq key rfl]
  exact .leave _ fewer

/-- What a command of a call that was not refused does. -/
theorem step_called (iso : IsoReader) (form : Replies) (reads : Copy E κ → Reads)
    (events : E → DeviceEvent) {copy : Copy E κ} {event : DeviceEvent} {phase : Phase}
    (here : node.task copy = some (.running event phase)) (other : phase ≠ .refused) :
    ∃ later redis sent,
      callStep iso form (reads copy) event node.redis phase = (later, redis, sent) ∧
        (node.step iso form reads events (.next copy)).redis = redis ∧
        (node.step iso form reads events (.next copy)).task =
          Function.update node.task copy (some (.running event later)) := by
  rcases stepped : callStep iso form (reads copy) event node.redis phase with ⟨later, redis, sent⟩
  refine ⟨later, redis, sent, rfl, ?_⟩
  have noRetry := (callStep_effect stepped).noRetry other
  simp only [Node.step, here, Node.sendNext, stepped]
  rw [Node.foldl_deliver copy noRetry]
  exact ⟨rfl, rfl⟩

/-- **A command of a call** is a step of the release. -/
theorem called_release (iso : IsoReader) (form : Replies) (reads : Copy E κ → Reads)
    (events : E → DeviceEvent) {copy : Copy E κ} {event : DeviceEvent} {phase : Phase}
    (here : node.task copy = some (.running event phase)) (other : phase ≠ .refused) :
    Release.Step (tokenOf reads) (node.release userId)
      ((node.step iso form reads events (.next copy)).release userId) := by
  obtain ⟨later, redis, sent, stepped, stored, changed⟩ :=
    step_called iso form reads events here other
  generalize node.step iso form reads events (.next copy) = next at stored changed ⊢
  have effect := callStep_effect stepped
  -- a command that leaves the key alone, and after which no `DELETE` is due
  have quiet : redis.locks userId = node.redis.locks userId → later ≠ .owning →
      Release.Step (tokenOf reads) (node.release userId) (next.release userId) := by
    intro key apart
    refine release_leave (by rw [stored, key]) (deleting_fewer changed fun event same => ?_)
    cases same
    exact absurd rfl apart
  cases effect with
  | lock free =>
    by_cases own : event.userId = userId
    · subst own
      have unready : ∀ event, node.task copy ≠ some (.running event .owning) := by
        intro _ same
        cases here.symm.trans same
      have taken : next.redis.locks event.userId = some (tokenOf reads copy) := by
        rw [stored, setLock_locks, if_pos rfl]
        rfl
      rw [release_eq taken (deleting_same changed unready fun _ same => by cases same)]
      refine .enter copy free ?_
      rintro ⟨_, same, -⟩
      exact unready _ same
    · exact quiet (by rw [setLock_locks, if_neg (Ne.symm own)]) nofun
  | refuse => exact quiet rfl nofun
  | passOn => exact absurd rfl other
  | raise => exact quiet rfl nofun
  | compare chosen goesOn =>
    refine quiet rfl ?_
    rintro rfl
    exact goesOn.1
  | record => exact quiet rfl nofun
  | write => exact quiet rfl nofun
  | unlock =>
    by_cases own : event.userId = userId
    · subst own
      have gone : next.redis.locks event.userId = none := by
        rw [stored, setLock_locks, if_pos rfl]
      have due : copy ∈ (node.release event.userId).deleting := ⟨event, here, rfl⟩
      rw [release_eq gone rfl]
      exact .delete copy due _ (deleting_fewer changed fun _ same => by cases same)
    · exact quiet (by rw [setLock_locks, if_neg (Ne.symm own)]) nofun
  | rest before after noRetry =>
    by_cases due : later = .owning ∧ event.userId = userId
    · obtain ⟨rfl, rfl⟩ := due
      obtain ⟨-, -, found⟩ := callStep_owning (congrArg Prod.fst stepped)
      rw [release_eq (by rw [stored]) (deleting_due changed)]
      exact .check copy found
    · refine release_leave (by rw [stored]) (deleting_fewer changed fun _ same own => ?_)
      cases same
      exact due ⟨rfl, own⟩

/-- **Every step of the schedule** is a step of the release, or the lease is over. -/
theorem step_release (iso : IsoReader) (form : Replies) (reads : Copy E κ → Reads)
    (events : E → DeviceEvent) (op : Step E κ) (userId : UserId) :
    op = .expire userId ∧
        (node.step iso form reads events op).release userId = (node.release userId).lapse ∨
      Release.Step (tokenOf reads) (node.release userId)
        ((node.step iso form reads events op).release userId) := by
  cases (Node.step_moves op :
      Node.Moves iso reads events node (node.step iso form reads events op) op) with
  | idle redis task =>
    refine .inr (release_leave (by rw [redis]) fun copy due => ?_)
    obtain ⟨event, here, own⟩ := due
    exact ⟨event, task ▸ here, own⟩
  | handed event absent redis task =>
    exact .inr (release_leave (by rw [redis]) (deleting_fewer task fun _ same => by cases same))
  | called copy here other => exact .inr (called_release iso form reads events here other)
  | published copy here redis task =>
    refine .inr (release_leave (by rw [redis]) fun other due => ?_)
    obtain ⟨event, found, own⟩ := due
    exact ⟨event, Node.running_of_published task found nofun, own⟩
  | took consumer copy here read redis task =>
    exact .inr (release_leave (by rw [redis]) (deleting_fewer task fun _ same => by cases same))
  | dropped consumer copy here unread redis task =>
    exact .inr (release_leave (by rw [redis]) (deleting_fewer task fun _ same => by cases same))
  | expired user redis task =>
    have due : {copy | (node.step iso form reads events (.expire user)).Deleting userId copy} =
        {copy | node.Deleting userId copy} := by
      unfold Node.Deleting
      rw [task]
    by_cases own : user = userId
    · subst own
      refine .inl ⟨rfl, ?_⟩
      unfold Node.release Release.lapse
      rw [due, redis, setLock_locks, if_pos rfl]
    · refine .inr (release_leave ?_ due.le)
      rw [redis, setLock_locks, if_neg (Ne.symm own)]

/-- **So is an exception**: it makes no `DELETE` due. -/
theorem serve_release (iso : IsoReader) (form : Replies) (reads : Copy E κ → Reads)
    (events : E → DeviceEvent) (op : SectionStep E κ) (userId : UserId) :
    op = .step (.expire userId) ∧
        (node.serve iso form reads events op).release userId = (node.release userId).lapse ∨
      Release.Step (tokenOf reads) (node.release userId)
        ((node.serve iso form reads events op).release userId) := by
  cases op with
  | step op =>
    refine (step_release iso form reads events op userId).imp_left fun lapsed => ⟨?_, lapsed.2⟩
    rw [lapsed.1]
  | raise copy =>
    refine .inr ?_
    simp only [Node.serve]
    split
    · split
      · exact release_leave rfl (deleting_fewer rfl fun _ same => by cases same)
      · exact release_leave rfl subset_rfl
    · exact release_leave rfl subset_rfl

/-- **Who sets a free key**: a call that has not begun. -/
theorem serve_sets {op : SectionStep E κ} (free : node.redis.locks userId = none)
    (set : (node.serve iso form reads events op).redis.locks userId ≠ none) :
    ∃ copy event, op = .step (.next copy) ∧ node.task copy = some (.running event .ready) ∧
      event.userId = userId := by
  cases op with
  | raise copy =>
    refine absurd ?_ set
    simp only [Node.serve]
    split
    · split <;> exact free
    · exact free
  | step op =>
    -- a step that leaves the store alone sets no key
    have same : (node.step iso form reads events op).redis = node.redis → False := fun same =>
      set (by rw [← free, ← same]; rfl)
    cases (Node.step_moves op :
        Node.Moves iso reads events node (node.step iso form reads events op) op) with
    | idle redis => exact (same redis).elim
    | handed event absent redis => exact (same redis).elim
    | published copy here redis => exact (same redis).elim
    | took consumer copy here read redis => exact (same redis).elim
    | dropped consumer copy here unread redis => exact (same redis).elim
    | expired user redis =>
      refine absurd ?_ set
      show (node.step iso form reads events (.expire user)).redis.locks userId = none
      rw [redis, setLock_locks, free, ite_self]
    | @called copy event _ _ _ here other effect =>
      have key : (node.step iso form reads events (.next copy)).redis.locks userId ≠ none := set
      generalize (node.step iso form reads events (.next copy)).redis = redis at effect key
      cases effect with
      | lock =>
        refine ⟨copy, event, rfl, here, ?_⟩
        by_contra other
        rw [setLock_locks, if_neg (Ne.symm other)] at key
        exact key free
      | unlock =>
        rw [setLock_locks, free, ite_self] at key
        exact absurd rfl key
      | refuse | passOn | raise | compare | record | write | rest => exact absurd free key

/-! ### Replies in bytes -/

/-- No `DELETE` that is due would take away the token of another call. -/
def ReleasesOwn (reads : Copy E κ → Reads) (node : Node E κ) : Prop :=
  ∀ copy event held, node.task copy = some (.running event .owning) →
    node.redis.locks event.userId = some held → held = (reads copy).token

/-- Nobody takes the free lock of a user while a `DELETE` is due. -/
def NobodyIntrudes (node : Node E κ) (op : SectionStep E κ) : Prop :=
  ∀ copy event, op = .step (.next copy) → node.task copy = some (.running event .ready) →
    node.redis.locks event.userId = none → ∀ other, ¬ node.Deleting event.userId other

omit [DecidableEq E] [DecidableEq κ] in
theorem releasesOwn_safe :
    ReleasesOwn reads node ↔
      ∀ userId, Release.Safe (tokenOf reads) (node.release userId) := by
  constructor
  · rintro own userId copy ⟨event, here, rfl⟩ held found
    exact own copy event held here found
  · intro safe copy event held here found
    exact safe event.userId copy ⟨event, here, rfl⟩ held found

theorem nobodyIntrudes_iff (iso : IsoReader) (form : Replies) (reads : Copy E κ → Reads)
    (events : E → DeviceEvent) (op : SectionStep E κ) :
    NobodyIntrudes node op ↔ ∀ userId, ¬ Release.Intrudes (node.release userId)
      ((node.serve iso form reads events op).release userId) := by
  constructor
  · rintro nobody userId ⟨free, set, other, due⟩
    obtain ⟨copy, event, same, here, rfl⟩ := serve_sets free set
    exact nobody copy event same here free other due
  · rintro alone copy event rfl here free other due
    refine alone event.userId ⟨free, ?_, other, due⟩
    obtain ⟨later, redis, sent, stepped, stored, -⟩ :=
      step_called iso form reads events here nofun
    simp only [callStep, free, Prod.mk.injEq] at stepped
    show (node.step iso form reads events (.next copy)).redis.locks event.userId ≠ none
    rw [stored, ← stepped.2.1, setLock_locks, if_pos rfl]
    exact Option.some_ne_none _

/-- **One step** leaves every `DELETE` with its own token exactly if nobody intrudes. -/
theorem serve_releasesOwn (distinct : Function.Injective (tokenOf reads))
    (own : ReleasesOwn reads node) (op : SectionStep E κ) :
    ReleasesOwn reads (node.serve iso form reads events op) ↔ NobodyIntrudes node op := by
  rw [releasesOwn_safe] at own ⊢
  rw [nobodyIntrudes_iff iso form reads events]
  refine forall_congr' fun user => ?_
  rcases serve_release iso form reads events op user with ⟨-, lapsed⟩ | step
  · rw [lapsed]
    exact iff_of_true (Release.safe_of_free rfl) fun intrudes => intrudes.2.1 rfl
  · exact (own user).step_iff distinct step

/-- **The `DELETE` itself.** Where those that are due would take away no token of another call, one
that is carried out finds the key free or with its own token, and removes that key alone. -/
theorem serve_delete (iso : IsoReader) (form : Replies) (events : E → DeviceEvent)
    (own : ReleasesOwn reads node) {copy : Copy E κ} {event : DeviceEvent}
    (due : node.task copy = some (.running event .owning)) :
    (node.redis.locks event.userId = none ∨
        node.redis.locks event.userId = some (reads copy).token) ∧
      (node.serve iso form reads events (.step (.next copy))).redis =
        node.redis.setLock event.userId none := by
  constructor
  · cases held : node.redis.locks event.userId with
    | none => exact .inl rfl
    | some token => exact .inr (congrArg some (own copy event token due held))
  · obtain ⟨later, redis, sent, stepped, stored, -⟩ :=
      step_called iso form reads events due fun same => by cases same
    have removed : redis = node.redis.setLock event.userId none :=
      (congrArg (fun result => result.2.1) stepped).symm
    exact stored.trans removed

/-- **Every `DELETE` of a run** in which nobody takes the lock while one is due. -/
theorem run_delete (iso : IsoReader) (events : E → DeviceEvent)
    (distinct : Function.Injective (tokenOf reads)) (redis : Redis) {ops : List (SectionStep E κ)}
    (alone : Meets (Node.serve iso .bytes reads events) NobodyIntrudes (.start redis) ops)
    {before after : List (SectionStep E κ)} {copy : Copy E κ} {event : DeviceEvent}
    (split : ops = before ++ .step (.next copy) :: after)
    (due : (run (Node.serve iso .bytes reads events) (.start redis) before).task copy =
      some (.running event .owning)) :
    ((run (Node.serve iso .bytes reads events) (.start redis) before).redis.locks event.userId =
        none ∨
      (run (Node.serve iso .bytes reads events) (.start redis) before).redis.locks event.userId =
        some (reads copy).token) ∧
    (run (Node.serve iso .bytes reads events) (.start redis)
        (before ++ [.step (.next copy)])).redis =
      (run (Node.serve iso .bytes reads events) (.start redis) before).redis.setLock event.userId
        none := by
  have always : Throughout (Node.serve iso .bytes reads events) (ReleasesOwn reads) (.start redis)
      ops :=
    (throughout_iff_meets (fun _ => True) (fun _ _ _ => trivial)
      (fun _ op _ own => serve_releasesOwn distinct own op) trivial
      (fun _ _ _ here => by cases here) ops).mpr alone
  rw [run_concat]
  exact serve_delete iso .bytes events (always before _ split) due

/-- **A holder releases only its own lock**, throughout a run, exactly if nobody takes the lock in
it while the `DELETE` of another section is due. The equivalence is about the states: the token of
another call is there to be taken away once the `DELETE` is due, whether or not the run goes on to
carry it out. What is carried out is what `run_delete` says. -/
theorem releasesOwn_iff (iso : IsoReader) (reads : Copy E κ → Reads) (events : E → DeviceEvent)
    (distinct : Function.Injective (tokenOf reads)) (redis : Redis)
    (ops : List (SectionStep E κ)) :
    Throughout (Node.serve iso .bytes reads events) (ReleasesOwn reads) (.start redis) ops ↔
      Meets (Node.serve iso .bytes reads events) NobodyIntrudes (.start redis) ops :=
  throughout_iff_meets (fun _ => True) (fun _ _ _ => trivial)
    (fun _ op _ own => serve_releasesOwn distinct own op) trivial
    (fun _ _ _ here => by cases here) ops

/-- The tokens of the two calls differ. -/
theorem ownReads_distinct : Function.Injective (tokenOf (ownReads : Copy Bool Empty → Reads)) := by
  rintro ⟨first, route⟩ ⟨second, route'⟩ same
  have events : first = second := by
    cases first <;> cases second
    · rfl
    · exact absurd (show "second" = "first" from same) (by decide)
    · exact absurd (show "first" = "second" from same) (by decide)
    · rfl
  have routes : route = route' := by
    cases route with
    | nil =>
      cases route' with
      | nil => rfl
      | cons consumer _ => exact consumer.elim
    | cons consumer _ => exact consumer.elim
  rw [events, routes]

/-- The first call has found its token when its key expires; the second one takes the lock. -/
def lateDelete : List (SectionStep Bool Empty) :=
  [.hand true, .hand false, command true, command true, command true, command true, command true,
    command true, command true, .expire "family", command false].map .step

theorem releasesOwn_iff_late :
    Throughout (Node.serve .strict .bytes ownReads twoReports) (ReleasesOwn ownReads)
        (.start emptyRedis) lateDelete ↔
      Meets (Node.serve .strict .bytes ownReads twoReports) NobodyIntrudes (.start emptyRedis)
        lateDelete :=
  releasesOwn_iff .strict ownReads twoReports ownReads_distinct emptyRedis lateDelete

/-- **A call deletes the lock of another**: the key holds the second token when the `DELETE` of the
first call is due, and is gone after it. -/
theorem another_call_unlocked :
    ¬ Throughout (Node.serve .strict .bytes ownReads twoReports) (ReleasesOwn ownReads)
        (.start emptyRedis) lateDelete ∧
      (run (Node.serve .strict .bytes ownReads twoReports) (.start emptyRedis)
        (lateDelete ++ [.step (command true)])).redis.locks "family" = none := by
  refine ⟨fun always => ?_, rfl⟩
  have own := always lateDelete [] (List.append_nil _).symm (original true) (twoReports true)
    "second" rfl rfl
  exact absurd own (by decide)

/-! ### Replies in text -/

/-- No `DELETE` is due. -/
def Node.Quiet (node : Node E κ) : Prop := ∀ userId copy, ¬ node.Deleting userId copy

/-- **No `DELETE` becomes due** where the replies are texts. -/
theorem serve_quiet (node : Node E κ) (op : SectionStep E κ) (quiet : node.Quiet) :
    (node.serve iso .text reads events op).Quiet := by
  -- a change to one task that does not lead to the `DELETE`
  have update : ∀ {changed : Copy E κ} {task : Option Task} {next : Node E κ},
      next.task = Function.update node.task changed task →
        (∀ event, task ≠ some (.running event .owning)) → next.Quiet :=
    fun same other userId copy due => quiet userId copy
      (deleting_fewer same (fun event becomes => (other event becomes).elim) due)
  -- a step that leaves the tasks as they are
  have stays : ∀ {next : Node E κ}, next.task = node.task → next.Quiet := by
    rintro next same userId copy ⟨event, here, own⟩
    exact quiet userId copy ⟨event, same ▸ here, own⟩
  cases op with
  | raise copy =>
    simp only [Node.serve]
    split
    · split
      · exact update rfl fun _ same => by cases same
      · exact quiet
    · exact quiet
  | step op =>
    show (node.step iso .text reads events op).Quiet
    cases (Node.step_moves op :
        Node.Moves iso reads events node (node.step iso .text reads events op) op) with
    | idle redis task => exact stays task
    | handed event absent redis task => exact update task fun _ same => by cases same
    | @called copy event phase _ _ running apart =>
      obtain ⟨later, redis, sent, stepped, -, task⟩ :=
        step_called iso .text reads events running apart
      refine update task ?_
      rintro _ same
      cases same
      cases (callStep_owning (congrArg Prod.fst stepped)).2.1
    | published copy running redis task =>
      rintro userId other ⟨event, found, own⟩
      exact quiet userId other ⟨event, Node.running_of_published task found nofun, own⟩
    | took consumer copy running read redis task => exact update task fun _ same => by cases same
    | dropped consumer copy running unread redis task =>
      exact update task fun _ same => by cases same
    | expired user redis task => exact stays task

/-- Before anything was handed in, and after any run, no `DELETE` is due. -/
theorem run_quiet (iso : IsoReader) (reads : Copy E κ → Reads) (events : E → DeviceEvent)
    (redis : Redis) (ops : List (SectionStep E κ)) :
    (run (Node.serve iso .text reads events) (.start redis) ops).Quiet := by
  refine run_invariant _ serve_quiet ?_ ops
  rintro userId copy ⟨event, here, -⟩
  cases here

/-- **A lock that is held stays** until its lease is over. -/
theorem run_held (iso : IsoReader) (reads : Copy E κ → Reads) (events : E → DeviceEvent)
    {ops : List (SectionStep E κ)} {held : String} (quiet : node.Quiet)
    (found : node.redis.locks userId = some held)
    (leased : .step (.expire userId) ∉ ops) :
    (run (Node.serve iso .text reads events) node ops).redis.locks userId = some held := by
  induction ops generalizing node with
  | nil => exact found
  | cons op ops ih =>
    rw [List.mem_cons, not_or] at leased
    rw [run_cons]
    refine ih (serve_quiet node op quiet) ?_ leased.2
    rcases serve_release iso .text reads events op userId with ⟨lapsed, -⟩ | step
    · exact absurd lapsed.symm leased.1
    · exact step.held (Set.eq_empty_of_forall_notMem (quiet userId)) found

section Ends

variable {own : Reads} {event : DeviceEvent}

/-- The release ends with its `GET`, whatever the key holds. -/
theorem releasing_ends (redis : Redis) :
    Leads iso .text own event (.releasing, redis) (.finished, redis) := by
  refine ⟨[], ?_⟩
  simp only [callStep]
  split
  · rfl
  · rfl
  · contradiction

/-- The first key of the family that is found raises. -/
theorem listing_ends (redis : Redis) (keys : List String) (family : Dict Json) :
    Relation.ReflTransGen (Leads iso .text own event) (.listing keys family, redis)
      (.finished, redis) := by
  induction keys generalizing family with
  | nil => exact .head ⟨_, rfl⟩ (.single (releasing_ends redis))
  | cons key keys ih =>
    cases found : redis.state.snapshots.get key with
    | none =>
      refine .head ⟨[], ?_⟩ (ih family)
      simp only [callStep, found]
    | some snapshot =>
      refine .head (b := (.releasing, redis)) ⟨[], ?_⟩ (.single (releasing_ends redis))
      simp only [callStep, found]

theorem written_ends (redis : Redis) : Relation.ReflTransGen (Leads iso .text own event)
    (.written, redis) (.finished, redis) :=
  .head ⟨[], rfl⟩ (listing_ends redis _ _)

theorem writing_ends (redis : Redis) (payload : Dict Json) :
    ∃ state, Relation.ReflTransGen (Leads iso .text own event) (.writing payload, redis)
      (.finished, { redis with state }) :=
  ⟨_, .head ⟨[], rfl⟩ (written_ends _)⟩

theorem recording_ends (redis : Redis) (payload : Dict Json) (record : ConflictRecord) :
    ∃ state, Relation.ReflTransGen (Leads iso .text own event) (.recording payload record, redis)
      (.finished, { redis with state }) := by
  obtain ⟨state, ends⟩ := writing_ends
    { redis with state := { redis.state with audit := redis.state.audit ++ [record] } } payload
  exact ⟨state, .head ⟨[], rfl⟩ ends⟩

/-- **A call that runs alone ends**, wherever its section is, and the locks are as they were. -/
theorem text_ends (redis : Redis) {phase : Phase}
    (inside : phase.InSection ∨ phase = .releasing) :
    ∃ state, Relation.ReflTransGen (Leads iso .text own event) (phase, redis)
      (.finished, { redis with state }) := by
  cases phase with
  | acquired =>
    let existing := getDeviceSnapshot redis.state event.userId event.deviceId
    cases chosen : chooseWinner iso existing (ingestCall own event) with
    | error raised =>
      refine ⟨redis.state, .head (b := (.releasing, redis)) ⟨[], ?_⟩
        (.single (releasing_ends redis))⟩
      simp only [callStep, existing, chosen]
    | ok choice =>
      obtain ⟨pick, conflict⟩ := choice
      let payload := winnerPayload existing pick (ingestCall own event)
      cases conflict with
      | none =>
        obtain ⟨state, ends⟩ := writing_ends redis payload
        refine ⟨state, .head ⟨[], ?_⟩ ends⟩
        simp only [callStep, existing, payload, chosen]
      | some record =>
        obtain ⟨state, ends⟩ := recording_ends redis payload record
        refine ⟨state, .head ⟨[], ?_⟩ ends⟩
        simp only [callStep, existing, payload, chosen]
  | recording payload record => exact recording_ends redis payload record
  | writing payload => exact writing_ends redis payload
  | written => exact ⟨_, written_ends redis⟩
  | listing keys family => exact ⟨_, listing_ends redis keys family⟩
  | releasing => exact ⟨_, .single (releasing_ends redis)⟩
  | ready | refused | owning | passedOn | finished =>
    rcases inside with inside | same
    · cases inside
    · cases same

end Ends

/-- **While the key is there**, an event of the user counts as contention. -/
theorem next_refused {copy : Copy E κ} {event : DeviceEvent} {held : String}
    (ready : node.task copy = some (.running event .ready))
    (found : node.redis.locks event.userId = some held) :
    (node.serve iso form reads events (.step (.next copy))).task copy =
      some (.running event .refused) := by
  obtain ⟨later, redis, sent, stepped, -, task⟩ :=
    step_called iso form reads events ready nofun
  simp only [callStep, found, Prod.mk.injEq] at stepped
  show (node.step iso form reads events (.next copy)).task copy = _
  rw [task, Function.update_self, ← stepped.1]

/-- A section of a run: the call finds the lock free and takes it, other steps follow, and the call
ends with its next command, by returning or by raising, before its lease is over. -/
structure EndsInTime (iso : IsoReader) (form : Replies) (reads : Copy E κ → Reads)
    (events : E → DeviceEvent) (redis : Redis) (copy : Copy E κ) (event : DeviceEvent)
    (before during : List (SectionStep E κ)) : Prop where
  ready : (run (Node.serve iso form reads events) (.start redis) before).task copy =
    some (.running event .ready)
  free : (run (Node.serve iso form reads events) (.start redis) before).redis.locks event.userId =
    none
  leased : .step (.expire event.userId) ∉ during
  running : (run (Node.serve iso form reads events) (.start redis)
    (before ++ .step (.next copy) :: during)).task copy ≠ some (.running event .finished)
  ended : (run (Node.serve iso form reads events) (.start redis)
    (before ++ .step (.next copy) :: (during ++ [.step (.next copy)]))).task copy =
      some (.running event .finished)

/-- The lock key is absent when the call ends. -/
def GivenBack (iso : IsoReader) (form : Replies) (reads : Copy E κ → Reads)
    (events : E → DeviceEvent) (redis : Redis) (copy : Copy E κ) (event : DeviceEvent)
    (before during : List (SectionStep E κ)) : Prop :=
  (run (Node.serve iso form reads events) (.start redis)
    (before ++ .step (.next copy) :: (during ++ [.step (.next copy)]))).redis.locks event.userId =
      none

/-- **No lock is ever given back**: when a section has ended in time, the key holds its token. -/
theorem kept_after_section (iso : IsoReader) (reads : Copy E κ → Reads)
    (events : E → DeviceEvent) (redis : Redis) (copy : Copy E κ) (event : DeviceEvent)
    (before during : List (SectionStep E κ))
    (section_ends : EndsInTime iso .text reads events redis copy event before during) :
    ¬ GivenBack iso .text reads events redis copy event before during := by
  have quiet := run_quiet iso reads events redis before
  have taken : ((run (Node.serve iso .text reads events) (.start redis) before).serve iso .text
      reads events (.step (.next copy))).redis.locks event.userId = some (reads copy).token := by
    obtain ⟨later, store, sent, stepped, stored, -⟩ :=
      step_called iso .text reads events section_ends.ready nofun
    simp only [callStep, section_ends.free, Prod.mk.injEq] at stepped
    show ((run (Node.serve iso .text reads events) (.start redis) before).step iso .text reads
      events (.next copy)).redis.locks event.userId = _
    rw [stored, ← stepped.2.1, setLock_locks, if_pos rfl]
  have leased : .step (.expire event.userId) ∉ during ++ [.step (.next copy)] := by
    rw [List.mem_append, not_or]
    refine ⟨section_ends.leased, fun last => ?_⟩
    cases List.mem_singleton.mp last
  have held := run_held iso reads events (serve_quiet _ (.step (.next copy)) quiet) taken leased
  unfold GivenBack
  rw [run_append, run_cons, held]
  exact Option.some_ne_none _

/-- The first call between its `SET NX` and its last command. -/
def wholeSection : List (SectionStep Bool Empty) :=
  [command true, command true, command true, command true].map .step

theorem wholeSection_ends :
    EndsInTime .strict .text ownReads twoReports emptyRedis (original true) (twoReports true)
      [.step (.hand true)] wholeSection where
  ready := rfl
  free := rfl
  leased := nofun
  running := nofun
  ended := rfl

theorem kept_after_section_first :
    ¬ GivenBack .strict .text ownReads twoReports emptyRedis (original true) (twoReports true)
      [.step (.hand true)] wholeSection :=
  kept_after_section .strict ownReads twoReports emptyRedis (original true) (twoReports true)
    [.step (.hand true)] wholeSection wholeSection_ends

/-- **A lock is not given back**, and the next event of the family counts as contention. -/
theorem lock_kept :
    ¬ (EndsInTime .strict .text ownReads twoReports emptyRedis (original true) (twoReports true)
        [.step (.hand true)] wholeSection →
      GivenBack .strict .text ownReads twoReports emptyRedis (original true) (twoReports true)
        [.step (.hand true)] wholeSection) ∧
      (run (Node.serve .strict .text ownReads twoReports) (.start emptyRedis)
        (.step (.hand true) :: .step (command true) :: (wholeSection ++
          [.step (command true), .step (.hand false), .step (command false)]))).task
        (original false) = some (.running (twoReports false) .refused) := by
  refine ⟨fun always => ?_, rfl⟩
  have gone : some "first" = none := always wholeSection_ends
  cases gone

end ScreenSync.Sync
