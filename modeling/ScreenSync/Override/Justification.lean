/-
**Votes that justify the status.**

Calls of `create_override_request` and `cast_vote` in any interleaving of their statements: the
`SELECT` of the approved requests and the `INSERT` of a new one; the `SELECT` of a request and the
`UPDATE` that resolves it. Votes may overwrite each other; but every `UPDATE` writes the status
together with the votes it was counted from, the time and the signature.

* `createOverrideRequest_eq` — the stages of a creation.
* `interleave` — the next statement of one call; a call whose statements come one right after the
  other is one of `serveOverride` (`interleave_create`, `interleave_vote`).
* `interleave_justified` — every statement leaves every row justified.
* `votes_justify_status` — so they are in every state of every interleaving.
-/

import ScreenSync.Override.Race

namespace ScreenSync.Override

open ScreenSync.Foundation ScreenSync.Shared

variable {Sig : Type}

/-! ### The stages of a creation -/

/-- The checks of `create_override_request`, with the `SELECT` of the approved requests. -/
def checkCaps (store : OverrideStore Sig) (call : CreateCall) : Except PyError Unit :=
  if call.requestedSeconds ≤ 0 ∨ maxOverrideSeconds < call.requestedSeconds then
    .error (.valueError
      ("requested_seconds must be in (0, " ++ toString maxOverrideSeconds ++ "]"))
  else
    let today := call.checkedAt.date
    let usedToday := ((approvedToday store call.deviceId today).map (·.requestedSeconds)).sum
    if dailyOverrideCapSeconds < usedToday + call.requestedSeconds then
      let remaining := max 0 (dailyOverrideCapSeconds - usedToday)
      .error (.valueError
        ("Daily override cap reached. At most " ++ toString remaining ++ "s remaining today."))
    else .ok ()

/-- The row of a new request. -/
def newRequest (call : CreateCall) : OverrideRequest Sig where
  id := call.id
  deviceId := call.deviceId
  requestedSeconds := call.requestedSeconds
  status := .pending
  votes := []
  requestedAt := call.insertedAt
  resolvedAt := none
  signature := none

/-- The `INSERT` and its commit; refused when the device is unknown or the key is taken. -/
def insertRequest (store : OverrideStore Sig) (call : CreateCall) :
    Except PyError (OverrideRequest Sig × OverrideStore Sig) :=
  if valid : (store.db.devices.find call.deviceId).isSome ∧
      store.requests.find (newRequest call : OverrideRequest Sig).id = none then
    .ok (newRequest call,
      { store with requests := store.requests.insert (newRequest call) valid.2 })
  else .error .integrityError

/-- **A creation is its stages**, one right after the other. -/
theorem createOverrideRequest_eq (store : OverrideStore Sig) (call : CreateCall) :
    createOverrideRequest store call =
      match checkCaps store call with
      | .error raised => .error raised
      | .ok () => insertRequest store call := by
  unfold createOverrideRequest checkCaps
  split
  · rfl
  · dsimp only
    split
    · rfl
    · rfl

/-! ### Interleavings -/

/-- How far a call has come. -/
inductive Stage (Sig : Type)
  | ready
  | admitted
  | selected (override : OverrideRequest Sig)
  | finished

/-- The store, and the calls. -/
structure Interleaving (ι Sig : Type) where
  store : OverrideStore Sig
  stage : ι → Stage Sig

variable {ι : Type} [DecidableEq ι]

/-- Before any call has started, on a store without requests. -/
def Interleaving.start (db : Database) : Interleaving ι Sig where
  store := .start db
  stage _ := .ready

def Interleaving.moveTo (state : Interleaving ι Sig) (i : ι) (stage : Stage Sig) :
    Interleaving ι Sig :=
  { state with stage := Function.update state.stage i stage }

variable (hmac : Json → Sig) (calls : ι → OverrideCall)

/-- The next statement of a call. -/
def interleave (state : Interleaving ι Sig) (i : ι) : Interleaving ι Sig :=
  match calls i, state.stage i with
  | .create call, .ready =>
    match checkCaps state.store call with
    | .error _ => state.moveTo i .finished
    | .ok () => state.moveTo i .admitted
  | .create call, .admitted =>
    match insertRequest state.store call with
    | .error _ => state.moveTo i .finished
    | .ok (_, store) => { state with store }.moveTo i .finished
  | .vote call, .ready =>
    match selectPending state.store.requests call.overrideId with
    | .error _ => state.moveTo i .finished
    | .ok override => state.moveTo i (.selected override)
  | .vote call, .selected override =>
    match decideVote hmac override call with
    | .error _ => state.moveTo i .finished
    | .ok decision =>
      { state with
        store := { state.store with
          requests :=
            storeDecision state.store.requests call.overrideId decision call.storedAt }
      }.moveTo i .finished
  | _, _ => state

section Alone

variable {hmac calls} {state : Interleaving ι Sig} {i : ι}

theorem moveTo_stage (state : Interleaving ι Sig) (i : ι) (stage : Stage Sig) :
    (state.moveTo i stage).stage i = stage :=
  Function.update_self ..

/-- The statements of a creation, one right after the other. -/
theorem interleave_create {call : CreateCall} (isCreate : calls i = .create call)
    (ready : state.stage i = .ready) :
    (interleave hmac calls (interleave hmac calls state i) i).store =
      serveOverride hmac state.store (.create call) := by
  rw [serveOverride, createOverrideRequest_eq]
  cases checked : checkCaps state.store call with
  | error raised =>
    have first : interleave hmac calls state i = state.moveTo i .finished := by
      simp only [interleave, isCreate, ready, checked]
    rw [first]
    simp only [interleave, isCreate, moveTo_stage]
    rfl
  | ok passed =>
    have first : interleave hmac calls state i = state.moveTo i .admitted := by
      simp only [interleave, isCreate, ready, checked]
    have same : (state.moveTo i .admitted).store = state.store := rfl
    rw [first]
    simp only [interleave, isCreate, moveTo_stage, same]
    cases insertRequest state.store call with
    | error raised => rfl
    | ok answer => rfl

/-- The statements of a vote, one right after the other. -/
theorem interleave_vote {call : VoteCall} (isVote : calls i = .vote call)
    (ready : state.stage i = .ready) :
    (interleave hmac calls (interleave hmac calls state i) i).store =
      serveOverride hmac state.store (.vote call) := by
  rw [serveOverride, castVote]
  cases selected : selectPending state.store.requests call.overrideId with
  | error raised =>
    have first : interleave hmac calls state i = state.moveTo i .finished := by
      simp only [interleave, isVote, ready, selected]
    rw [first]
    simp only [interleave, isVote, moveTo_stage]
    rfl
  | ok override =>
    have first : interleave hmac calls state i = state.moveTo i (.selected override) := by
      simp only [interleave, isVote, ready, selected]
    have same : (state.moveTo i (.selected override)).store = state.store := rfl
    rw [first]
    simp only [interleave, isVote, moveTo_stage, same]
    cases decideVote hmac override call with
    | error raised => rfl
    | ok decision => rfl

end Alone

/-! ### Justified rows -/

/-- The keys of the three validators. -/
def validatorKeys : List String :=
  [ValidatorKey.parent.value, ValidatorKey.policy.value, ValidatorKey.pattern.value]

/-- The row of a pending request is as it was created; that of a resolved one holds three votes, a
time and a signature, and the status is what the votes say. -/
def Justified (r : OverrideRequest Sig) : Prop :=
  (r.status = .pending ∧ r.votes = [] ∧ r.resolvedAt = none ∧ r.signature = none) ∨
    (r.status ≠ .pending ∧ r.votes.map Prod.fst = validatorKeys ∧ r.resolvedAt.isSome ∧
      r.signature.isSome ∧ (r.status = .approved ↔ quorumThreshold ≤ yesCount r.votes))

/-- Every row of the table is justified. -/
def AllJustified (requests : Table (@OverrideRequest.id Sig)) : Prop :=
  ∀ r ∈ requests.rows, Justified r

variable {hmac calls}

theorem insertRequest_justified {store next : OverrideStore Sig} {call : CreateCall}
    {created : OverrideRequest Sig} (inserted : insertRequest store call = .ok (created, next))
    (justified : AllJustified store.requests) : AllJustified next.requests := by
  unfold insertRequest at inserted
  split at inserted
  · cases inserted
    intro r member
    rcases List.mem_append.mp member with old | new
    · exact justified r old
    · rw [List.mem_singleton.mp new]
      exact .inl ⟨rfl, rfl, rfl, rfl⟩
  · cases inserted

/-- Whatever the row was before, an `UPDATE` justifies it. -/
theorem applyDecision_justified {votes results : Dict Bool} {call : VoteCall}
    (verdicts : validatorResults votes call = .ok results) (request : OverrideRequest Sig)
    (storedAt : UtcTime) (r : OverrideRequest Sig) :
    Justified (applyDecision (decisionOn hmac call request results) storedAt r) := by
  obtain ⟨pattern, -, rfl⟩ := validatorResults_ok.mp verdicts
  refine .inr ⟨quorumStatus_ne_pending _, rfl, ?_, rfl, quorumStatus_eq_approved⟩
  exact Option.isSome_iff_exists.mpr ⟨storedAt, if_pos (quorumStatus_ne_pending _)⟩

theorem storeDecision_justified {requests : Table (@OverrideRequest.id Sig)}
    {votes results : Dict Bool} {call : VoteCall}
    (verdicts : validatorResults votes call = .ok results) (request : OverrideRequest Sig)
    (overrideId : String) (storedAt : UtcTime) (justified : AllJustified requests) :
    AllJustified
      (storeDecision requests overrideId (decisionOn hmac call request results) storedAt) := by
  intro r member
  obtain ⟨old, inside, rfl⟩ := List.mem_map.mp member
  split
  · exact applyDecision_justified verdicts request storedAt old
  · exact justified old inside

/-- **Every statement leaves every row justified.** -/
theorem interleave_justified (state : Interleaving ι Sig) (i : ι)
    (justified : AllJustified state.store.requests) :
    AllJustified (interleave hmac calls state i).store.requests := by
  unfold interleave
  split
  · split
    · exact justified
    · exact justified
  · split
    · exact justified
    · rename_i inserted
      exact insertRequest_justified inserted justified
  · split
    · exact justified
    · exact justified
  · split
    · exact justified
    · rename_i decided
      obtain ⟨results, verdicts, rfl⟩ := decideVote_ok decided
      exact storeDecision_justified verdicts _ _ _ justified
  · exact justified

/-- A call that is run to completion does too. -/
theorem serveOverride_justified (store : OverrideStore Sig) (call : OverrideCall)
    (justified : AllJustified store.requests) :
    AllJustified (serveOverride hmac store call).requests := by
  cases call with
  | create call =>
    rw [serveOverride, createOverrideRequest_eq]
    cases checkCaps store call with
    | error raised => exact justified
    | ok passed =>
      cases inserted : insertRequest store call with
      | error raised => exact justified
      | ok answer => exact insertRequest_justified inserted justified
  | vote call =>
    rcases serveOverride_cases hmac store (.vote call) with ⟨same, -⟩ |
      ⟨_, _, _, create, -⟩ | ⟨vote, request, results, -, resolves, next⟩
    · rw [same]
      exact justified
    · cases create
    · rw [next]
      exact storeDecision_justified resolves.verdicts _ _ _ justified

/-! ### Every state of every interleaving -/

/-- **The stored votes justify the stored status** in every state that any number of calls reach, in
any interleaving of their statements. -/
theorem votes_justify_status (hmac : Json → Sig) (db : Database) (calls : ι → OverrideCall)
    (schedule : List ι) :
    AllJustified (run (interleave hmac calls) (.start db) schedule).store.requests :=
  @run_invariant _ _ _ (fun state : Interleaving ι Sig => AllJustified state.store.requests)
    interleave_justified _ (fun _ member => (by cases member)) schedule

end ScreenSync.Override
