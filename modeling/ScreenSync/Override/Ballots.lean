/-
**One ballot decides.**

A vote is merged into the votes of the request as they were read; but only a pending request is
read, and a pending request has no votes. So no two votes are ever counted together: whatever the
calls are and however their statements are interleaved, a request is as it was created, or it is
what a single vote makes of that.

* `getOverrideStatus` — `get_override_status`.
* `ballotResults` — the verdicts on one vote: a vote that is not the parent's counts as the parent's
  refusal.
* `Cast` — a row is made of a creation and at most one vote.
* `Read.update` — a vote that has read its request may come late, but finds a row made of the same
  creation, and overwrites the vote it was resolved by.
* `interleave_tallied` — every statement keeps every row so.
* `one_ballot_decides` — so it is in every state of every interleaving.
-/

import ScreenSync.Override.Justification

namespace ScreenSync.Override

open ScreenSync.Foundation ScreenSync.Shared

variable {Sig : Type}

/-- `get_override_status`. -/
def getOverrideStatus (requests : Table (@OverrideRequest.id Sig)) (overrideId : String) :
    Except PyError (OverrideRequest Sig) :=
  match requests.find overrideId with
  | none => .error (.valueError ("Override request " ++ overrideId ++ " not found."))
  | some override => .ok override

/-! ### One vote -/

/-- The verdicts on a vote that is the only one. -/
def ballotResults (call : VoteCall) (pattern : Bool) : Dict Bool :=
  [(ValidatorKey.parent.value, call.voter = .parent ∧ call.approve = true),
    (ValidatorKey.policy.value, validateTimeOfDay call.localTime),
    (ValidatorKey.pattern.value, pattern)]

theorem parentApproval_ballot (call : VoteCall) :
    validateParentApproval (Dict.set [] call.voter.value call.approve) =
      decide (call.voter = .parent ∧ call.approve = true) := by
  unfold validateParentApproval
  rw [Dict.get_set]
  cases call.voter with
  | parent =>
    rw [if_pos rfl]
    simp
  | policy =>
    rw [if_neg (by decide)]
    exact (decide_eq_false fun parents => by cases parents.1).symm
  | pattern =>
    rw [if_neg (by decide)]
    exact (decide_eq_false fun parents => by cases parents.1).symm

/-- **The verdicts on the first vote.** -/
theorem validatorResults_ballot {call : VoteCall} {results : Dict Bool}
    (verdicts : validatorResults (Dict.set [] call.voter.value call.approve) call = .ok results) :
    ∃ pattern, validateUsagePattern call.cachedBudget = .ok pattern ∧
      results = ballotResults call pattern := by
  obtain ⟨pattern, judged, rfl⟩ := validatorResults_ok.mp verdicts
  refine ⟨pattern, judged, ?_⟩
  rw [parentApproval_ballot]
  rfl

/-! ### Rows -/

/-- A request without its vote. -/
def asCreated (r : OverrideRequest Sig) : OverrideRequest Sig :=
  { r with status := .pending, votes := [], resolvedAt := none, signature := none }

/-- The seconds asked for are within the bounds of one request. -/
def Sized (call : CreateCall) : Prop :=
  0 < call.requestedSeconds ∧ call.requestedSeconds ≤ maxOverrideSeconds

section Rows

variable {ι : Type} (hmac : Json → Sig) (calls : ι → OverrideCall)

/-- The row is as it was created, or what one vote makes of that. -/
def From (create : CreateCall) (r : OverrideRequest Sig) : Prop :=
  r = newRequest create ∨ ∃ j vote pattern, calls j = .vote vote ∧ vote.overrideId = create.id ∧
    validateUsagePattern vote.cachedBudget = .ok pattern ∧
    r = resolvedBy hmac vote (newRequest create) (ballotResults vote pattern)

/-- **A row is made of a creation within the bounds and at most one vote.** -/
def Cast (r : OverrideRequest Sig) : Prop :=
  ∃ i create, calls i = .create create ∧ Sized create ∧ From hmac calls create r

def AllCast (requests : Table (@OverrideRequest.id Sig)) : Prop :=
  ∀ r ∈ requests.rows, Cast hmac calls r

/-- The request that a vote has read was as it had been created, and a row made of this creation is
there. -/
def Read (requests : Table (@OverrideRequest.id Sig)) (overrideId : String)
    (override : OverrideRequest Sig) : Prop :=
  ∃ create row, override = newRequest create ∧ requests.find overrideId = some row ∧
    From hmac calls create row

/-- What `get_override_status` answers for every id: the one row there is, made of a creation and at
most one vote, or that there is none. -/
def OneBallot (requests : Table (@OverrideRequest.id Sig)) : Prop :=
  ∀ overrideId,
    (∃ r, getOverrideStatus requests overrideId = .ok r ∧ r.id = overrideId ∧
      Cast hmac calls r) ∨
    (getOverrideStatus requests overrideId =
        .error (.valueError ("Override request " ++ overrideId ++ " not found.")) ∧
      ∀ r ∈ requests.rows, r.id ≠ overrideId)

/-- What holds of every state. -/
structure Tallied (state : Interleaving ι Sig) : Prop where
  rows : AllCast hmac calls state.store.requests
  sizes : ∀ i create, calls i = .create create → state.stage i = .admitted → Sized create
  reads : ∀ i vote override, calls i = .vote vote → state.stage i = .selected override →
    Read hmac calls state.store.requests vote.overrideId override

end Rows

variable {ι : Type} {hmac : Json → Sig} {calls : ι → OverrideCall}

theorem From.id {create : CreateCall} {r : OverrideRequest Sig}
    (made : From hmac calls create r) : r.id = create.id := by
  rcases made with rfl | ⟨j, vote, pattern, -, -, -, rfl⟩
  · rfl
  · rfl

/-- A row tells what it was created as. -/
theorem From.asCreated {create : CreateCall} {r : OverrideRequest Sig}
    (made : From hmac calls create r) : newRequest create = asCreated r := by
  rcases made with rfl | ⟨j, vote, pattern, -, -, -, rfl⟩
  · rfl
  · rfl

/-- A pending row is as it was created. -/
theorem From.of_pending {create : CreateCall} {r : OverrideRequest Sig}
    (made : From hmac calls create r) (pending : r.status = .pending) :
    r = newRequest create := by
  rcases made with rfl | ⟨j, vote, pattern, -, -, -, rfl⟩
  · rfl
  · exact absurd pending (quorumStatus_ne_pending _)

/-- **An `UPDATE`** overwrites what an earlier vote has left. -/
theorem From.update {create : CreateCall} {r : OverrideRequest Sig}
    (made : From hmac calls create r) {j : ι} {vote : VoteCall} {results : Dict Bool}
    (isVote : calls j = .vote vote) (here : vote.overrideId = create.id)
    (verdicts : validatorResults (Dict.set [] vote.voter.value vote.approve) vote =
      .ok results) :
    From hmac calls create
      (applyDecision (decisionOn hmac vote (newRequest create) results) vote.storedAt r) := by
  obtain ⟨pattern, judged, rfl⟩ := validatorResults_ballot verdicts
  refine .inr ⟨j, vote, pattern, isVote, here, judged, ?_⟩
  rcases made with rfl | ⟨k, earlier, pattern', -, -, -, rfl⟩
  · rfl
  · rfl

/-! ### One statement -/

variable {requests : Table (@OverrideRequest.id Sig)} {overrideId : String}
  {override : OverrideRequest Sig}

/-- What a vote has read is the row that is there now, without the vote it may have got since. -/
theorem Read.unvoted (read : Read hmac calls requests overrideId override)
    {create : CreateCall} {row : OverrideRequest Sig}
    (found : requests.find overrideId = some row) (made : From hmac calls create row) :
    override = newRequest create := by
  obtain ⟨create', row', same, found', made'⟩ := read
  cases found.symm.trans found'
  rw [same, made'.asCreated, made.asCreated]

/-- A read row is still there after an `INSERT`. -/
theorem Read.insert (read : Read hmac calls requests overrideId override)
    {r : OverrideRequest Sig} (fresh : requests.find r.id = none) :
    Read hmac calls (requests.insert r fresh) overrideId override := by
  obtain ⟨create, row, same, found, made⟩ := read
  have apart : r.id ≠ overrideId := by
    rintro rfl
    cases fresh.symm.trans found
  refine ⟨create, row, same, ?_, made⟩
  rw [Table.find_insert, if_neg apart]
  exact found

/-- And after the `UPDATE` of a vote that has read its request. -/
theorem Read.update (read : Read hmac calls requests overrideId override) {j : ι}
    {vote : VoteCall} {voted : OverrideRequest Sig} {results : Dict Bool}
    (isVote : calls j = .vote vote)
    (theirs : Read hmac calls requests vote.overrideId voted)
    (verdicts : validatorResults (voted.votes.set vote.voter.value vote.approve) vote =
      .ok results) :
    Read hmac calls (storeDecision requests vote.overrideId
      (decisionOn hmac vote voted results) vote.storedAt) overrideId override := by
  obtain ⟨create, row, same, found, made⟩ := read
  have next : (storeDecision requests vote.overrideId (decisionOn hmac vote voted results)
      vote.storedAt).find overrideId = some (if row.id = vote.overrideId then
        applyDecision (decisionOn hmac vote voted results) vote.storedAt row else row) := by
    refine (Table.find_updateWhere ..).trans ?_
    rw [found, Option.map_some]
  refine ⟨create, _, same, next, ?_⟩
  split
  · rename_i here
    have own : overrideId = vote.overrideId := (Table.find_eq_some.mp found).2.symm.trans here
    subst own
    -- both votes have read the same request
    cases theirs.unvoted found made
    exact made.update isVote (here.symm.trans made.id) verdicts
  · exact made

/-- The rows after the `UPDATE`. -/
theorem allCast_storeDecision (cast : AllCast hmac calls requests) {j : ι} {vote : VoteCall}
    {voted : OverrideRequest Sig} {results : Dict Bool} (isVote : calls j = .vote vote)
    (read : Read hmac calls requests vote.overrideId voted)
    (verdicts : validatorResults (voted.votes.set vote.voter.value vote.approve) vote =
      .ok results) :
    AllCast hmac calls (storeDecision requests vote.overrideId
      (decisionOn hmac vote voted results) vote.storedAt) := by
  intro r member
  obtain ⟨old, inside, rfl⟩ := List.mem_map.mp member
  obtain ⟨i, create, isCreate, sized, made⟩ := cast old inside
  split
  · rename_i here
    cases read.unvoted (Table.find_eq_some.mpr ⟨inside, here⟩) made
    exact ⟨i, create, isCreate, sized, made.update isVote (here.symm.trans made.id) verdicts⟩
  · exact ⟨i, create, isCreate, sized, made⟩

/-- A call moves on. -/
theorem Tallied.moveTo [DecidableEq ι] {state : Interleaving ι Sig}
    (tallied : Tallied hmac calls state) {i : ι} {stage : Stage Sig}
    (sized : ∀ create, calls i = .create create → stage = .admitted → Sized create)
    (read : ∀ vote override, calls i = .vote vote → stage = .selected override →
      Read hmac calls state.store.requests vote.overrideId override) :
    Tallied hmac calls (state.moveTo i stage) := by
  refine ⟨tallied.rows, ?_, ?_⟩
  · intro j create isCreate now
    by_cases same : j = i
    · subst same
      exact sized create isCreate ((moveTo_stage ..).symm.trans now)
    · exact tallied.sizes j create isCreate ((Function.update_of_ne same ..).symm.trans now)
  · intro j vote override isVote now
    by_cases same : j = i
    · subst same
      exact read vote override isVote ((moveTo_stage ..).symm.trans now)
    · exact tallied.reads j vote override isVote
        ((Function.update_of_ne same ..).symm.trans now)

/-- A call ends. -/
theorem Tallied.finish [DecidableEq ι] {state : Interleaving ι Sig}
    (tallied : Tallied hmac calls state) (i : ι) :
    Tallied hmac calls (state.moveTo i .finished) :=
  tallied.moveTo (fun _ _ same => by cases same) (fun _ _ _ same => by cases same)

/-- The store changes, and no row that was read is lost. -/
theorem Tallied.write {state : Interleaving ι Sig} (tallied : Tallied hmac calls state)
    {store : OverrideStore Sig} (rows : AllCast hmac calls store.requests)
    (kept : ∀ {overrideId override},
      Read hmac calls state.store.requests overrideId override →
        Read hmac calls store.requests overrideId override) :
    Tallied hmac calls { state with store } :=
  ⟨rows, tallied.sizes, fun i vote override isVote now =>
    kept (tallied.reads i vote override isVote now)⟩

theorem checkCaps_sized {store : OverrideStore Sig} {call : CreateCall}
    (passed : checkCaps store call = .ok ()) : Sized call := by
  unfold checkCaps at passed
  split at passed
  · cases passed
  · rename_i within
    unfold Sized
    omega

/-- **Every statement keeps every row so.** -/
theorem interleave_tallied [DecidableEq ι] (state : Interleaving ι Sig) (i : ι)
    (tallied : Tallied hmac calls state) :
    Tallied hmac calls (interleave hmac calls state i) := by
  unfold interleave
  split
  · rename_i call isCreate ready
    split
    · exact tallied.finish i
    · rename_i passed
      refine tallied.moveTo ?_ (fun _ _ _ same => by cases same)
      intro create this _
      cases isCreate.symm.trans this
      exact checkCaps_sized passed
  · rename_i call isCreate admitted
    split
    · exact tallied.finish i
    · rename_i created store inserted
      refine Tallied.finish ?_ i
      unfold insertRequest at inserted
      split at inserted
      · rename_i valid
        cases inserted
        refine tallied.write ?_ fun read => read.insert valid.2
        intro r member
        rcases List.mem_append.mp member with old | new
        · exact tallied.rows r old
        · rw [List.mem_singleton.mp new]
          exact ⟨i, call, isCreate, tallied.sizes i call isCreate admitted, .inl rfl⟩
      · cases inserted
  · rename_i call isVote ready
    split
    · exact tallied.finish i
    · rename_i override selected
      refine tallied.moveTo (fun _ _ same => by cases same) ?_
      intro vote read this same
      cases isVote.symm.trans this
      cases same
      obtain ⟨found, pending⟩ := selectPending_ok selected
      obtain ⟨k, create, -, -, made⟩ := tallied.rows _ (Table.find_eq_some.mp found).1
      exact ⟨create, override, made.of_pending pending, found, made⟩
  · rename_i call override isVote selected
    split
    · exact tallied.finish i
    · rename_i decision decided
      refine Tallied.finish ?_ i
      obtain ⟨results, verdicts, rfl⟩ := decideVote_ok decided
      have read := tallied.reads i call override isVote selected
      exact tallied.write (allCast_storeDecision tallied.rows isVote read verdicts)
        fun others => others.update isVote read verdicts
  · exact tallied

/-! ### Every state of every interleaving -/

theorem oneBallot_of_cast {requests : Table (@OverrideRequest.id Sig)}
    (cast : AllCast hmac calls requests) : OneBallot hmac calls requests := by
  intro overrideId
  unfold getOverrideStatus
  cases found : requests.find overrideId with
  | none =>
    refine .inr ⟨rfl, ?_⟩
    rintro r member rfl
    rw [Table.find_eq_some.mpr ⟨member, rfl⟩] at found
    cases found
  | some row =>
    obtain ⟨member, own⟩ := Table.find_eq_some.mp found
    exact .inl ⟨row, rfl, own, cast row member⟩

/-- **One ballot decides**, whatever is created and voted for and however the statements of the calls
are interleaved: a request is pending and has no votes, or it is what exactly one of the votes makes
of the request as it was created. -/
theorem one_ballot_decides [DecidableEq ι] (hmac : Json → Sig) (db : Database)
    (calls : ι → OverrideCall) (schedule : List ι) :
    OneBallot hmac calls
      (run (interleave hmac calls) (.start db) schedule).store.requests := by
  have start : Tallied hmac calls (.start db) :=
    ⟨fun _ member => (by cases member), fun _ _ _ same => (by cases same),
      fun _ _ _ _ same => (by cases same)⟩
  exact oneBallot_of_cast (@run_invariant _ _ _ (Tallied hmac calls)
    interleave_tallied _ start schedule).rows

end ScreenSync.Override
