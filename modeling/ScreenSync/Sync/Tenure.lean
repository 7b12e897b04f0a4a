/-
**The tenants of a user's lock.**

From its `SET NX` to its `GET` of the lock key a call is inside its section, and once the key has
shown its token its `DELETE` is due. Replies are in bytes, so that a call whose section has ended
comes to its `DELETE`.

* `callsIn_called`, `moves_uncalled` — which calls of a user are in given phases after a step.
* `step_tenure` — every step of the schedule is a step of the user's `Tenure`, or the lease is over.
* `held_run` — as long as no key expires under a tenant, every tenant holds the key of its user.
-/

import ScreenSync.Foundation.Tenure
import ScreenSync.Sync.Sections

namespace ScreenSync.Sync

open ScreenSync.Foundation ScreenSync.Shared

variable {E κ : Type} [DecidableEq E] [DecidableEq κ]

/-- The call is inside its section, or its `DELETE` is due. -/
def Phase.IsTenant : Phase → Prop
  | .acquired | .recording _ _ | .writing _ | .written | .listing _ _ | .owning => True
  | _ => False

namespace Node

/-- The calls of a user that are in these phases. -/
def callsIn (within : Phase → Prop) (node : Node E κ) (userId : UserId) : Set (Copy E κ) :=
  {copy | ∃ event phase, node.task copy = some (.running event phase) ∧ event.userId = userId ∧
    within phase}

/-- The lock key of a user, and its tenants. -/
def tenure (node : Node E κ) (userId : UserId) : Tenure (Copy E κ) String where
  key := node.redis.locks userId
  tenants := node.callsIn Phase.IsTenant userId

end Node

variable {iso : IsoReader} {reads : Copy E κ → Reads} {events : E → DeviceEvent}
  {node next : Node E κ} {userId : UserId} {within : Phase → Prop}

/-! ### Calls in given phases -/

omit [DecidableEq E] [DecidableEq κ] in
theorem mem_callsIn {copy : Copy E κ} {event : DeviceEvent} {phase : Phase}
    (here : node.task copy = some (.running event phase)) :
    copy ∈ node.callsIn within userId ↔ event.userId = userId ∧ within phase := by
  constructor
  · rintro ⟨_, _, same, own⟩
    cases here.symm.trans same
    exact own
  · exact fun own => ⟨event, phase, here, own⟩

theorem callsIn_update {copy : Copy E κ} {task : Option Task}
    (changed : next.task = Function.update node.task copy task) (other : Copy E κ) :
    other ∈ next.callsIn within userId ↔
      if other = copy then ∃ event phase, task = some (.running event phase) ∧
        event.userId = userId ∧ within phase
      else other ∈ node.callsIn within userId := by
  unfold Node.callsIn
  rw [Set.mem_ofPred_eq, Set.mem_ofPred_eq, changed, Function.update_apply]
  split <;> rfl

/-- **The calls in given phases after a command** of a call. -/
theorem callsIn_called {copy : Copy E κ} {event : DeviceEvent} {later : Phase}
    (changed : next.task = Function.update node.task copy (some (.running event later))) :
    (event.userId = userId ∧ within later →
        next.callsIn within userId = insert copy (node.callsIn within userId)) ∧
      (¬ (event.userId = userId ∧ within later) →
        next.callsIn within userId = node.callsIn within userId \ {copy}) := by
  constructor
  · intro inside
    ext other
    rw [callsIn_update changed, Set.mem_insert_iff]
    split
    · rename_i same
      exact iff_of_true ⟨event, later, rfl, inside⟩ (.inl same)
    · rename_i different
      exact (or_iff_right different).symm
  · intro outside
    ext other
    rw [callsIn_update changed, Set.mem_sdiff, Set.mem_singleton_iff]
    split
    · rename_i same
      refine iff_of_false ?_ fun both => both.2 same
      rintro ⟨_, _, running, inside⟩
      cases running
      exact outside inside
    · rename_i different
      exact (and_iff_left different).symm

/-- A change to one task that does not lead into these phases. -/
theorem callsIn_fewer {copy : Copy E κ} {task : Option Task}
    (changed : next.task = Function.update node.task copy task)
    (outside : ∀ event phase, task = some (.running event phase) → ¬ within phase) :
    next.callsIn within userId ⊆ node.callsIn within userId := by
  intro other inside
  rw [callsIn_update changed] at inside
  split at inside
  · obtain ⟨event, phase, same, -, within⟩ := inside
    exact absurd within (outside event phase same)
  · exact inside

/-- **A step that is no command of a call**, other than a publication: it brings no call into phases
in which no call begins, and leaves the store alone, except for a key that expires. -/
theorem moves_uncalled {op : Step E κ} (moves : Node.Moves iso reads events node next op)
    (unready : ¬ within .ready) (unpassed : ¬ within .passedOn) (userId : UserId) :
    (∃ copy event phase, op = .next copy ∧ node.task copy = some (.running event phase) ∧
        phase ≠ .refused) ∨
      next.callsIn within userId ⊆ node.callsIn within userId ∧
        (next.redis = node.redis ∨
          ∃ user, op = .expire user ∧ next.redis = node.redis.setLock user none ∧
            next.task = node.task) := by
  have begun : ∀ {event e : DeviceEvent} {phase : Phase},
      some (Task.running event .ready) = some (Task.running e phase) → ¬ within phase := by
    rintro event e phase same
    cases same
    exact unready
  have stays : next.task = node.task →
      next.callsIn within userId ⊆ node.callsIn within userId := by
    rintro same copy ⟨event, phase, here, own⟩
    exact ⟨event, phase, same ▸ here, own⟩
  cases moves with
  | called copy here other => exact .inl ⟨copy, _, _, rfl, here, other⟩
  | idle redis task => exact .inr ⟨stays task, .inl redis⟩
  | handed event absent redis task =>
    exact .inr ⟨callsIn_fewer task fun _ _ => begun, .inl redis⟩
  | took consumer copy here read redis task =>
    exact .inr ⟨callsIn_fewer task fun _ _ => begun, .inl redis⟩
  | dropped consumer copy here unread redis task =>
    exact .inr ⟨callsIn_fewer task fun _ _ same => (by cases same), .inl redis⟩
  | published copy here redis task =>
    refine .inr ⟨fun other inside => ?_, .inl redis⟩
    obtain ⟨event, phase, running, own, inside⟩ := inside
    have apart : phase ≠ .passedOn := by
      rintro rfl
      exact unpassed inside
    exact ⟨event, phase, Node.running_of_published task running apart, own, inside⟩
  | expired user redis task => exact .inr ⟨stays task, .inr ⟨user, rfl, redis, task⟩⟩

/-! ### The lock -/

/-- **How a call becomes a tenant**: by its `SET NX`, or by finding its token. -/
theorem callStep_tenant {form : Replies} {own : Reads} {event : DeviceEvent} {redis : Redis}
    {phase : Phase} (tenant : (callStep iso form own event redis phase).1.IsTenant) :
    phase.IsTenant ∨ phase = .ready ∧ redis.locks event.userId = none ∨
      (callStep iso form own event redis phase).1 = .owning := by
  cases phase with
  | acquired | recording | writing | written | listing | owning => exact .inl trivial
  | refused | passedOn | finished => exact absurd tenant id
  | ready =>
    cases free : redis.locks event.userId with
    | none => exact .inr (.inl ⟨rfl, rfl⟩)
    | some held =>
      simp only [callStep, free] at tenant
      exact absurd tenant id
  | releasing =>
    refine .inr (.inr ?_)
    simp only [callStep] at tenant ⊢
    split at tenant
    · exact absurd tenant id
    · exact absurd tenant id
    · split at tenant
      · rename_i same
        exact if_pos same ▸ rfl
      · exact absurd tenant id

/-- What a command does to the lock keys. -/
theorem callStep_locks {form : Replies} {own : Reads} {event : DeviceEvent} {redis : Redis}
    {phase : Phase} :
    (callStep iso form own event redis phase).2.1.locks = redis.locks ∨
      phase = .ready ∧ redis.locks event.userId = none ∧
        (callStep iso form own event redis phase).1 = .acquired ∧
        (callStep iso form own event redis phase).2.1 =
          redis.setLock event.userId (some own.token) ∨
      phase = .owning ∧ (callStep iso form own event redis phase).1 = .finished ∧
        (callStep iso form own event redis phase).2.1 = redis.setLock event.userId none := by
  rcases stepped : callStep iso form own event redis phase with ⟨later, store, sent⟩
  have effect := callStep_effect stepped
  cases effect with
  | lock free => exact .inr (.inl ⟨rfl, free, rfl, rfl⟩)
  | unlock => exact .inr (.inr ⟨rfl, rfl, rfl⟩)
  | refuse | passOn | raise | compare | record | write | rest => exact .inl rfl

omit [DecidableEq E] [DecidableEq κ] in
theorem tenure_eq {key : Option String} {tenants : Set (Copy E κ)}
    (found : next.redis.locks userId = key)
    (same : next.callsIn Phase.IsTenant userId = tenants) :
    next.tenure userId = ⟨key, tenants⟩ := by
  subst found same
  rfl

omit [DecidableEq E] [DecidableEq κ] in
theorem tenure_leave (key : next.redis.locks userId = node.redis.locks userId)
    (fewer : next.callsIn Phase.IsTenant userId ⊆ node.callsIn Phase.IsTenant userId) :
    Tenure.Step (tokenOf reads) (node.tenure userId) (next.tenure userId) := by
  rw [tenure_eq key rfl]
  exact .leave _ fewer

/-- **A command of a call** is a step of the tenure. -/
theorem called_tenure (iso : IsoReader) (reads : Copy E κ → Reads) (events : E → DeviceEvent)
    {copy : Copy E κ} {event : DeviceEvent} {phase : Phase}
    (here : node.task copy = some (.running event phase)) (other : phase ≠ .refused) :
    Tenure.Step (tokenOf reads) (node.tenure userId)
      ((node.step iso .bytes reads events (.next copy)).tenure userId) := by
  obtain ⟨later, redis, sent, stepped, stored, changed⟩ :=
    step_called iso .bytes reads events here other
  generalize node.step iso .bytes reads events (.next copy) = next at stored changed ⊢
  obtain ⟨entered, left⟩ : (event.userId = userId ∧ later.IsTenant →
        next.callsIn Phase.IsTenant userId = insert copy (node.callsIn Phase.IsTenant userId)) ∧
      (¬ (event.userId = userId ∧ later.IsTenant) →
        next.callsIn Phase.IsTenant userId = node.callsIn Phase.IsTenant userId \ {copy}) :=
    callsIn_called changed
  have locks := @callStep_locks iso .bytes (reads copy) event node.redis phase
  have tenant := @callStep_tenant iso .bytes (reads copy) event node.redis phase
  have due := @callStep_owning iso .bytes (reads copy) event node.redis phase
  rw [stepped] at locks tenant due
  dsimp only at locks tenant due
  subst stored
  -- a command that leaves the key alone, and after which the call is no tenant
  have leave : ¬ (event.userId = userId ∧ later.IsTenant) →
      next.redis.locks userId = node.redis.locks userId →
        Tenure.Step (tokenOf reads) (node.tenure userId) (next.tenure userId) :=
    fun outside key => tenure_leave key (left outside ▸ Set.sdiff_subset)
  by_cases own : event.userId = userId
  · subst own
    rcases locks with same | ⟨ready, free, acquired, set⟩ | ⟨owning, finished, deleted⟩
    · have key : next.redis.locks event.userId = node.redis.locks event.userId := by rw [same]
      by_cases inside : later.IsTenant
      · rcases tenant inside with before | ⟨rfl, free⟩ | isDue
        · have member : copy ∈ node.callsIn Phase.IsTenant event.userId :=
            (mem_callsIn here).mpr ⟨rfl, before⟩
          exact tenure_leave key (entered ⟨rfl, inside⟩ ▸ Set.insert_subset member subset_rfl)
        · simp only [callStep, free, Prod.mk.injEq] at stepped
          rw [← stepped.2.1, setLock_locks, if_pos rfl, free] at key
          cases key
        · obtain ⟨-, -, found⟩ := due isDue
          rw [tenure_eq key (entered ⟨rfl, inside⟩)]
          exact .check copy found
      · exact leave (fun both => inside both.2) key
    · have taken : next.redis.locks event.userId = some (tokenOf reads copy) := by
        rw [set, setLock_locks, if_pos rfl]
        rfl
      rw [tenure_eq taken (entered ⟨rfl, acquired ▸ trivial⟩)]
      exact .enter copy free
    · have gone : next.redis.locks event.userId = none := by
        rw [deleted, setLock_locks, if_pos rfl]
      have member : copy ∈ node.callsIn Phase.IsTenant event.userId :=
        (mem_callsIn here).mpr ⟨rfl, owning ▸ trivial⟩
      have outside : ¬ (event.userId = event.userId ∧ later.IsTenant) :=
        fun both => (finished ▸ both.2 : Phase.finished.IsTenant)
      rw [tenure_eq gone (left outside)]
      exact .delete copy member _ subset_rfl
  · refine leave (fun both => own both.1) ?_
    rcases locks with same | ⟨-, -, -, set⟩ | ⟨-, -, deleted⟩
    · rw [same]
    · rw [set, setLock_locks, if_neg (Ne.symm own)]
    · rw [deleted, setLock_locks, if_neg (Ne.symm own)]

/-- **Every step of the schedule** is a step of the tenure, or the lease is over. -/
theorem step_tenure (iso : IsoReader) (reads : Copy E κ → Reads) (events : E → DeviceEvent)
    (op : Step E κ) (userId : UserId) :
    op = .expire userId ∧
        (node.step iso .bytes reads events op).tenure userId =
          ⟨none, (node.tenure userId).tenants⟩ ∨
      Tenure.Step (tokenOf reads) (node.tenure userId)
        ((node.step iso .bytes reads events op).tenure userId) := by
  have moves : Node.Moves iso reads events node (node.step iso .bytes reads events op) op :=
    Node.step_moves op
  have unready : ¬ Phase.IsTenant .ready := id
  have unpassed : ¬ Phase.IsTenant .passedOn := id
  rcases moves_uncalled moves unready unpassed userId with ⟨copy, event, phase, rfl, here, other⟩ |
    ⟨fewer, redis | ⟨user, rfl, redis, task⟩⟩
  · exact .inr (called_tenure iso reads events here other)
  · exact .inr (tenure_leave (by rw [redis]) fewer)
  · by_cases own : user = userId
    · subst own
      refine .inl ⟨rfl, tenure_eq ?_ ?_⟩
      · rw [redis, setLock_locks, if_pos rfl]
      · unfold Node.tenure Node.callsIn
        rw [task]
    · refine .inr (tenure_leave ?_ fewer)
      rw [redis, setLock_locks, if_neg (Ne.symm own)]

/-! ### Whole runs -/

/-- The lock key of a user does not expire under a tenant. -/
def LeaseSuffices (userId : UserId) (node : Node E κ) (op : Step E κ) : Prop :=
  op = .expire userId → ∀ copy, copy ∉ node.callsIn Phase.IsTenant userId

/-- **One step** keeps the key held. -/
theorem held_step (distinct : Function.Injective (tokenOf reads)) {op : Step E κ}
    (held : (node.tenure userId).Held (tokenOf reads)) (lasts : LeaseSuffices userId node op) :
    ((node.step iso .bytes reads events op).tenure userId).Held (tokenOf reads) := by
  rcases step_tenure iso reads events op userId with ⟨expired, lapsed⟩ | step
  · rw [lapsed]
    exact .lapse (lasts expired)
  · exact held.step distinct step

/-- **Every tenant holds the key of its user**, after any run in which no key expires under one. -/
theorem held_run (iso : IsoReader) (reads : Copy E κ → Reads) (events : E → DeviceEvent)
    (distinct : Function.Injective (tokenOf reads)) (redis : Redis) {ops : List (Step E κ)}
    (userId : UserId)
    (lasts : Meets (Node.step iso .bytes reads events) (LeaseSuffices userId) (.start redis) ops) :
    ((run (Node.step iso .bytes reads events) (.start redis) ops).tenure userId).Held
      (tokenOf reads) := by
  refine @run_invariant_of_meets _ _ _ (LeaseSuffices userId)
    (fun node => (node.tenure userId).Held (tokenOf reads))
    (fun _ _ held allowed => held_step distinct held allowed) _ ops ?_ lasts
  rintro copy ⟨_, _, none, -⟩
  cases none

end ScreenSync.Sync
