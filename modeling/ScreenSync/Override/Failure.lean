/-
**Votes whose Redis or MQTT calls raise.**

`cast_vote` commits the resolution of a request before it looks up the owner of the device and
publishes the result. What raises after the commit leaves the request resolved; and what `publish`
returns is awaited, which raises even when nothing else does.

* `castVote_undecided` — without a decision the call raises, and nothing has happened.
* `castVote_decided` — with one the table is that of `serveOverride`, whatever happens after the
  commit.
* `recast_safe_iff` — a vote that raises has changed nothing, and one that returns has handed its
  result over, exactly if it raises before the commit.
* `vote_lost` — an approval that is published and raises.
-/

import ScreenSync.Foundation.Session
import ScreenSync.Override.Race

namespace ScreenSync.Override.Failing

open ScreenSync.Foundation ScreenSync.Shared

variable {Sig : Type}

/-! ### What may raise -/

inductive VoteError
  | raised (error : PyError)
  | redisError
  | jsonDecodeError
  | attributeError
  | keyError
  | mqttError
  deriving DecidableEq

/-- What becomes of the calls to Redis and MQTT: the cached budget that the pattern validator reads
and decodes, the owner in the metadata of the device, and what `publish` raises. -/
structure Outcomes where
  cachedBudget : Except VoteError (Option (Dict Json))
  owner : Except VoteError (Option UserId)
  publish : Option VoteError

/-- What is committed, and what `publish` has been given. -/
structure VoteState (Sig : Type) where
  store : OverrideStore Sig
  handed : List Message

abbrev VoteSession (Sig α : Type) := Session VoteError (VoteState Sig) α

/-! ### The vote -/

/-- The call of `publish`, and the `await` of the `None` that it returns. -/
def awaitPublish (outcomes : Outcomes) (message : Message) : VoteSession Sig Unit := do
  modify fun s => { s with handed := s.handed ++ [message] }
  match outcomes.publish with
  | some error => throw error
  | none => throw (.raised .typeError)

/-- `_publish_override_result`. -/
def publishResult (outcomes : Outcomes) (call : VoteCall) (deviceId : DeviceId)
    (result : Bool × Int) : VoteSession Sig Unit :=
  match outcomes.owner with
  | .error error => throw error
  | .ok metaUserId =>
    match publishOverrideResult deviceId call.overrideId result.1 result.2
        { call with metaUserId } with
    | none => pure ()
    | some message => awaitPublish outcomes message

/-- `cast_vote`. -/
def castVote (hmac : Json → Sig) (outcomes : Outcomes) (call : VoteCall) :
    VoteSession Sig (OverrideRequest Sig) := do
  let s ← get
  match selectPending s.store.requests call.overrideId with
  | .error error => throw (.raised error)
  | .ok override =>
    match outcomes.cachedBudget with
    | .error error => throw error
    | .ok cachedBudget =>
      match decideVote hmac override { call with cachedBudget } with
      | .error error => throw (.raised error)
      | .ok decision => do
        -- the `UPDATE` and its commit
        modify fun s => { s with
          store := { s.store with
            requests :=
              storeDecision s.store.requests call.overrideId decision call.storedAt } }
        match resultOf decision.status override.requestedSeconds with
        | none => pure ()
        | some result => publishResult outcomes call override.deviceId result
        return applyDecision decision call.storedAt override

/-! ### What a call does -/

/-- The vote comes to a decision: it finds the request pending, and its pattern validator
returns. -/
def Decides (outcomes : Outcomes) (call : VoteCall) (s : VoteState Sig) : Prop :=
  ∃ request cachedBudget passes, s.store.requests.find call.overrideId = some request ∧
    request.status = .pending ∧ outcomes.cachedBudget = .ok cachedBudget ∧
    validateUsagePattern cachedBudget = .ok passes

variable {hmac : Json → Sig} {outcomes : Outcomes} {call : VoteCall}
  {s : VoteState Sig}

/-- The calls that decide are those that resolve a request in `serveOverride`. -/
theorem decides_iff_resolves : Decides outcomes call s ↔
    ∃ cachedBudget request results, outcomes.cachedBudget = .ok cachedBudget ∧
      Resolves s.store { call with cachedBudget } request results := by
  constructor
  · rintro ⟨request, cachedBudget, passes, found, pending, read, pattern⟩
    exact ⟨cachedBudget, request, _, read, found, pending,
      validatorResults_ok.mpr ⟨passes, pattern, rfl⟩⟩
  · rintro ⟨cachedBudget, request, results, read, found, pending, verdicts⟩
    obtain ⟨passes, pattern, -⟩ := validatorResults_ok.mp verdicts
    exact ⟨request, cachedBudget, passes, found, pending, read, pattern⟩

/-- **Without a decision** the call raises, and nothing has happened. -/
theorem castVote_undecided (undecided : ¬ Decides outcomes call s) :
    ∃ error, (castVote hmac outcomes call).exec s = (.error error, s) := by
  simp only [castVote, Session.exec_bind, Session.exec_get]
  split
  · exact ⟨_, rfl⟩
  · rename_i request selected
    obtain ⟨found, pending⟩ := selectPending_ok selected
    split
    · exact ⟨_, rfl⟩
    · rename_i cachedBudget read
      split
      · exact ⟨_, rfl⟩
      · rename_i decision decided
        obtain ⟨results, verdicts, -⟩ := decideVote_ok decided
        exact absurd (decides_iff_resolves.mpr
          ⟨cachedBudget, request, results, read, found, pending, verdicts⟩) undecided

/-- The publisher changes no request; if it returns, nothing was handed over. -/
theorem publishResult_exec (outcomes : Outcomes) (call : VoteCall) (deviceId : DeviceId)
    (result : Bool × Int) (s : VoteState Sig) :
    (publishResult outcomes call deviceId result).exec s = (.ok (), s) ∨
      ∃ error handed, (publishResult outcomes call deviceId result).exec s =
        (.error error, { s with handed }) := by
  unfold publishResult
  split
  · exact .inr ⟨_, _, rfl⟩
  · split
    · exact .inl rfl
    · rename_i message _
      refine .inr ⟨outcomes.publish.getD (.raised .typeError), s.handed ++ [message], ?_⟩
      simp only [awaitPublish, Session.exec_bind, Session.exec_modify]
      cases outcomes.publish <;> rfl

/-- **With a decision** the request is resolved as `serveOverride` resolves it, whether the call
returns or raises; if it returns, nothing was handed over. -/
theorem castVote_decided (hmac : Json → Sig) {cachedBudget : Option (Dict Json)}
    {request : OverrideRequest Sig} {results : Dict Bool}
    (read : outcomes.cachedBudget = .ok cachedBudget)
    (resolves : Resolves s.store { call with cachedBudget } request results) :
    (∃ answer, (castVote hmac outcomes call).exec s =
        (.ok answer, { s with
          store := serveOverride hmac s.store (.vote { call with cachedBudget }) })) ∨
      ∃ error handed, (castVote hmac outcomes call).exec s =
        (.error error,
          ⟨serveOverride hmac s.store (.vote { call with cachedBudget }), handed⟩) := by
  rw [serveOverride_resolves resolves]
  have selected : selectPending s.store.requests call.overrideId = .ok request := resolves.selected
  have decided : decideVote hmac request { call with cachedBudget } =
        .ok (decisionOn hmac { call with cachedBudget } request results) := resolves.decided hmac
  simp only [castVote, Session.exec_bind, Session.exec_get, selected, read, decided,
    Session.exec_modify]
  cases resultOf (decisionOn hmac { call with cachedBudget } request results).status
      request.requestedSeconds with
  | none => exact .inl ⟨_, rfl⟩
  | some result =>
    rcases publishResult_exec outcomes call request.deviceId result
        { s with
          store := { s.store with
            requests := storeDecision s.store.requests call.overrideId
                (decisionOn hmac { call with cachedBudget } request results) call.storedAt } } with
      returned | ⟨error, handed, raised⟩
    · simp only [Session.exec_bind, returned]
      exact .inl ⟨_, rfl⟩
    · simp only [Session.exec_bind, raised]
      exact .inr ⟨error, handed, rfl⟩

/-! ### All or nothing -/

/-- The call returns with the request resolved and its result handed to the publisher, or raises
with the stored request as it was. -/
def AllOrNothing (hmac : Json → Sig) (outcomes : Outcomes) (call : VoteCall)
    (s : VoteState Sig) : Prop :=
  match (castVote hmac outcomes call).exec s with
  | (.ok _, after) => ∃ request message, after.store.requests.find call.overrideId = some request ∧
      request.status ≠ .pending ∧ after.handed = s.handed ++ [message] ∧
      message.payload.get "approved" = some (.bool (request.status = .approved))
  | (.error _, after) =>
    after.store.requests.find call.overrideId = s.store.requests.find call.overrideId

/-- **A vote may be cast again after an error** exactly if it raises before it comes to a
decision. -/
theorem recast_safe_iff (hmac : Json → Sig) (outcomes : Outcomes) (call : VoteCall)
    (s : VoteState Sig) :
    AllOrNothing hmac outcomes call s ↔ ¬ Decides outcomes call s := by
  constructor
  · intro atomic decides
    obtain ⟨cachedBudget, request, results, read, resolves⟩ := decides_iff_resolves.mp decides
    rw [AllOrNothing] at atomic
    rcases castVote_decided hmac read resolves with ⟨answer, returned⟩ | ⟨error, handed, raised⟩
    · rw [returned] at atomic
      obtain ⟨-, message, -, -, handed, -⟩ := atomic
      have lengths := congrArg List.length handed
      simp at lengths
    · rw [raised, serveOverride_resolves resolves] at atomic
      have stored := find_storeDecision resolves.found
        (decisionOn hmac { call with cachedBudget } request results) call.storedAt
      have same : resolvedBy hmac { call with cachedBudget } request results = request :=
        Option.some.inj (stored.symm.trans (atomic.trans resolves.found))
      exact quorumStatus_ne_pending results
        ((congrArg OverrideRequest.status same).trans resolves.pending)
  · intro undecided
    obtain ⟨error, raised⟩ := castVote_undecided undecided
    rw [AllOrNothing, raised]

/-! ### An approval that is published -/

/-- Nothing raises; the cached budget has a second left. -/
def allUp : Outcomes where
  cachedBudget := .ok (parentApproval "first").cachedBudget
  owner := .ok (some tablet.userId)
  publish := none

/-- The pending hour. -/
def hourAsked : VoteState Unit where
  store := serveOverride (fun _ => ()) (.start tabletDb) (hourRequest "first")
  handed := []

/-- The parent's approval of it. -/
def approval : VoteSession Unit (OverrideRequest Unit) :=
  castVote (fun _ => ()) allUp (parentApproval "first")

/-- The approval is stored and published, and raises; when it is cast again it is refused. -/
theorem vote_lost :
    ¬ AllOrNothing (fun _ => ()) allUp (parentApproval "first") hourAsked ∧
      (approval.exec hourAsked).2.handed.length = 1 ∧
      (approval.exec (approval.exec hourAsked).2).1.toOption.isNone ∧
      (approval.exec (approval.exec hourAsked).2).2.handed.length = 1 := by
  refine ⟨fun atomic => ?_, by decide +kernel, by decide +kernel, by decide +kernel⟩
  have kept : (approval.exec hourAsked).2.store.requests.find "first" =
      hourAsked.store.requests.find "first" := atomic
  have status : ((approval.exec hourAsked).2.store.requests.find "first").map
      OverrideRequest.status = some .approved := by
    decide +kernel
  rw [kept] at status
  exact absurd status (by decide +kernel)

end ScreenSync.Override.Failing
