/-
**The override service.**

A device asks for extra seconds (`createOverrideRequest`), and a vote resolves the request as soon
as it is cast (`castVote`): three validators are asked, and two of them have to pass. What is
decided is signed. Readings of the clocks and of Redis are part of a call; `hmac` is the keyed
hash, a function of the JSON value whose text is hashed, and its values are of an arbitrary type.

* `selectPending`, `decideVote`, `storeDecision` and `publishOverrideResult` are the stages of a
  vote, each one database statement or none.
* `serveOverride_cases` — everything a call can do: nothing, append a pending request, or resolve
  a pending one.
* `secondsWhere_storeDecision` — what a vote adds to a total over the resolved requests.
-/

import Mathlib.Data.Rat.Floor
import ScreenSync.Foundation.Run
import ScreenSync.Shared.Database

namespace ScreenSync.Override

open ScreenSync.Foundation ScreenSync.Shared

/-! ### Constants -/

/-- Votes needed out of 3 validators. -/
def quorumThreshold : Nat := 2

/-- Hard cap: 1 hour per request. -/
def maxOverrideSeconds : Int := 3600

/-- Hard cap: 2 hours per calendar day. -/
def dailyOverrideCapSeconds : Int := 7200

def permittedStart : Nat := timeOfDay 7 0
def permittedEnd : Nat := timeOfDay 21 0

def usageSpikeThreshold : ℚ := 0.85

/-! ### Types -/

inductive OverrideStatus
  | pending
  | approved
  | denied
  deriving DecidableEq

def OverrideStatus.value : OverrideStatus → String
  | .pending => "pending"
  | .approved => "approved"
  | .denied => "denied"

inductive ValidatorKey
  | parent
  | policy
  | pattern
  deriving DecidableEq

def ValidatorKey.value : ValidatorKey → String
  | .parent => "parent"
  | .policy => "policy"
  | .pattern => "pattern"

/-- A row of `override_requests`. -/
structure OverrideRequest (Sig : Type) where
  id : String
  deviceId : DeviceId
  requestedSeconds : Int
  status : OverrideStatus
  votes : Dict Bool
  requestedAt : UtcTime
  resolvedAt : Option UtcTime
  signature : Option Sig

/-- The database: devices and budgets, and the override requests. -/
structure OverrideStore (Sig : Type) where
  db : Database
  requests : Table (@OverrideRequest.id Sig)

/-- A call of `create_override_request`; `checkedAt` is its reading of the clock, `id` the key it
draws, and `insertedAt` the database's clock at the insert. -/
structure CreateCall where
  deviceId : DeviceId
  requestedSeconds : Int
  checkedAt : UtcTime
  id : String
  insertedAt : UtcTime

/-- A call of `cast_vote`, with what it reads: the local time of day, the UTC time the pattern
validator takes its date from, the cached budget under that date, the clock when the decision is
signed, when it is stored and when it is published, and the owner in the device's cached metadata.
-/
structure VoteCall where
  overrideId : String
  voter : ValidatorKey
  approve : Bool
  localTime : Nat
  patternAt : UtcTime
  cachedBudget : Option (Dict Json)
  evaluatedAt : UtcTime
  storedAt : UtcTime
  publishedAt : UtcTime
  metaUserId : Option UserId

variable {Sig : Type}

/-! ### Signing -/

/-- `_sign_decision`: the keys are sorted before the payload is hashed. -/
def signDecision (hmac : Json → Sig) (payload : Dict Json) : Sig := hmac (.obj payload.sorted)

/-- The payload of a decision. -/
def decisionPayload (overrideId : String) (deviceId : DeviceId) (status : OverrideStatus)
    (votes : Dict Bool) (resolvedAt : Json) : Dict Json :=
  [("override_id", .str overrideId), ("device_id", .str deviceId), ("status", .str status.value),
    ("votes", .obj (votes.map fun vote => (vote.1, .bool vote.2))), ("resolved_at", resolvedAt)]

/-! ### Validators -/

/-- Validator A: the parent's vote; no vote counts as no. -/
def validateParentApproval (votes : Dict Bool) : Bool :=
  match votes.get ValidatorKey.parent.value with
  | none => false
  | some result => result

/-- Validator B: the time-of-day policy. -/
def validateTimeOfDay (now : Nat) : Bool := permittedStart ≤ now ∧ now ≤ permittedEnd

/-- A JSON value as a number. -/
def numberOf : Json → Option ℚ
  | .int n => some n
  | .float x => some x
  | .bool b => some (if b then 1 else 0)
  | _ => none

/-- `used / total` against the threshold; an unconfigured budget passes. -/
def usagePasses (total used : Json) : Except PyError Bool :=
  match numberOf total, numberOf used with
  | some total, some used => .ok (total = 0 ∨ used / total < usageSpikeThreshold)
  | some total, none => if total = 0 then .ok true else .error .typeError
  | none, _ => .error .typeError

/-- Validator C: the usage pattern, from the cache. Without a cached budget the source imports
`Budget` from `app.database`, which defines none: the import raises before anything is queried. -/
def validateUsagePattern (cached : Option (Dict Json)) : Except PyError Bool :=
  match cached with
  | some budget =>
    usagePasses ((budget.get "total_budget_seconds").getD (.int 0))
      ((budget.get "used_seconds").getD (.int 0))
  | none => .error .importError

/-! ### Quorum -/

/-- The verdicts of the three validators. -/
def validatorResults (votes : Dict Bool) (call : VoteCall) : Except PyError (Dict Bool) :=
  match validateUsagePattern call.cachedBudget with
  | .error raised => .error raised
  | .ok pattern => .ok
    [(ValidatorKey.parent.value, validateParentApproval votes),
      (ValidatorKey.policy.value, validateTimeOfDay call.localTime),
      (ValidatorKey.pattern.value, pattern)]

def yesCount (results : Dict Bool) : Nat := (results.filter fun result => result.2).length

def quorumStatus (results : Dict Bool) : OverrideStatus :=
  if quorumThreshold ≤ yesCount results then .approved else .denied

/-- What `evaluate_quorum` returns. -/
structure QuorumDecision (Sig : Type) where
  status : OverrideStatus
  results : Dict Bool
  signature : Sig

/-- `evaluate_quorum`. -/
def evaluateQuorum (hmac : Json → Sig) (overrideId : String) (deviceId : DeviceId)
    (votes : Dict Bool) (call : VoteCall) : Except PyError (QuorumDecision Sig) :=
  match validatorResults votes call with
  | .error raised => .error raised
  | .ok results =>
    let status := quorumStatus results
    let payload :=
      decisionPayload overrideId deviceId status results (.str call.evaluatedAt.isoformat)
    .ok { status, results, signature := signDecision hmac payload }

/-! ### Creating a request -/

/-- The requests of the device that were approved today, as `create_override_request` selects
them. -/
def approvedToday (store : OverrideStore Sig) (deviceId : DeviceId) (today : Date) :
    List (OverrideRequest Sig) :=
  store.requests.rows.filter fun r =>
    r.deviceId = deviceId ∧ r.status = .approved ∧ UtcTime.midnight today ≤ r.requestedAt

/-- `create_override_request`. -/
def createOverrideRequest (store : OverrideStore Sig) (call : CreateCall) :
    Except PyError (OverrideRequest Sig × OverrideStore Sig) :=
  if call.requestedSeconds ≤ 0 ∨ maxOverrideSeconds < call.requestedSeconds then
    .error (.valueError
      ("requested_seconds must be in (0, " ++ toString maxOverrideSeconds ++ "]"))
  else
    let today := call.checkedAt.date
    let usedToday := ((approvedToday store call.deviceId today).map (·.requestedSeconds)).sum
    if dailyOverrideCapSeconds < usedToday + call.requestedSeconds then
      let remaining := max 0 (dailyOverrideCapSeconds - usedToday)
      .error (.valueError
        ("Daily override cap reached. At most " ++ toString remaining ++ "s remaining today."))
    else
      let override : OverrideRequest Sig :=
        { id := call.id
          deviceId := call.deviceId
          requestedSeconds := call.requestedSeconds
          status := .pending
          votes := []
          requestedAt := call.insertedAt
          resolvedAt := none
          signature := none }
      -- the foreign key and the primary key of the table
      if valid : (store.db.devices.find call.deviceId).isSome ∧
          store.requests.find override.id = none then
        .ok (override, { store with requests := store.requests.insert override valid.2 })
      else .error .integrityError

/-! ### Casting a vote -/

/-- The `SELECT` of a vote, and its check of the status. -/
def selectPending (requests : Table (@OverrideRequest.id Sig)) (overrideId : String) :
    Except PyError (OverrideRequest Sig) :=
  match requests.find overrideId with
  | none => .error (.valueError ("Override request " ++ overrideId ++ " not found."))
  | some override =>
    if override.status ≠ .pending then
      .error (.valueError
        ("Override " ++ overrideId ++ " is already " ++ override.status.value ++
          "; cannot re-vote."))
    else .ok override

/-- Merge the vote into the votes that were read, and evaluate the quorum. -/
def decideVote (hmac : Json → Sig) (override : OverrideRequest Sig) (call : VoteCall) :
    Except PyError (QuorumDecision Sig) :=
  let updatedVotes := override.votes.set call.voter.value call.approve
  evaluateQuorum hmac call.overrideId override.deviceId updatedVotes call

/-- The values of the `UPDATE`. -/
def applyDecision (decision : QuorumDecision Sig) (storedAt : UtcTime) (r : OverrideRequest Sig) :
    OverrideRequest Sig :=
  { r with
    votes := decision.results
    status := decision.status
    resolvedAt := if decision.status ≠ .pending then some storedAt else none
    signature := some decision.signature }

/-- The `UPDATE` of a vote, which looks at nothing but the id. -/
def storeDecision (requests : Table (@OverrideRequest.id Sig)) (overrideId : String)
    (decision : QuorumDecision Sig) (storedAt : UtcTime) : Table (@OverrideRequest.id Sig) :=
  requests.updateWhere (fun r => r.id = overrideId) (applyDecision decision storedAt) fun _ => rfl

/-- `_publish_override_result`; without metadata of the device nothing is published. -/
def publishOverrideResult (deviceId : DeviceId) (overrideId : String) (approved : Bool)
    (extraSeconds : Int) (call : VoteCall) : Option Message :=
  call.metaUserId.map fun userId =>
    { topic := "screensync/" ++ userId ++ "/" ++ deviceId ++ "/override/result"
      payload := [("override_id", .str overrideId), ("approved", .bool approved),
        ("extra_secs", .int (if approved then extraSeconds else 0)),
        ("ts", .str call.publishedAt.isoformat)]
      qos := 2 }

/-- The result a vote hands to the publisher: whether the request is approved, and for how long. -/
def resultOf (status : OverrideStatus) (requestedSeconds : Int) : Option (Bool × Int) :=
  match status with
  | .approved => some (true, requestedSeconds)
  | .denied => some (false, 0)
  | .pending => none

/-- `cast_vote`. -/
def castVote (hmac : Json → Sig) (store : OverrideStore Sig) (call : VoteCall) :
    Except PyError (OverrideRequest Sig × Option Message × OverrideStore Sig) :=
  match selectPending store.requests call.overrideId with
  | .error raised => .error raised
  | .ok override =>
    match decideVote hmac override call with
    | .error raised => .error raised
    | .ok decision =>
      let requests := storeDecision store.requests call.overrideId decision call.storedAt
      let message := (resultOf decision.status override.requestedSeconds).bind fun result =>
        publishOverrideResult override.deviceId call.overrideId result.1 result.2 call
      .ok (applyDecision decision call.storedAt override, message, { store with requests })

/-! ### Runs -/

inductive OverrideCall
  | create (call : CreateCall)
  | vote (call : VoteCall)

/-- The store after a call; one that raises is rolled back. -/
def serveOverride (hmac : Json → Sig) (store : OverrideStore Sig) : OverrideCall → OverrideStore Sig
  | .create call =>
    match createOverrideRequest store call with
    | .ok (_, next) => next
    | .error _ => store
  | .vote call =>
    match castVote hmac store call with
    | .ok (_, _, next) => next
    | .error _ => store

/-- A store without override requests. -/
def OverrideStore.start (db : Database) : OverrideStore Sig := { db, requests := .empty }

/-! ### What a call does -/

/-- The vote finds the request pending, and its validators give these results. -/
structure Resolves (store : OverrideStore Sig) (call : VoteCall) (request : OverrideRequest Sig)
    (results : Dict Bool) : Prop where
  found : store.requests.find call.overrideId = some request
  pending : request.status = .pending
  verdicts : validatorResults (request.votes.set call.voter.value call.approve) call = .ok results

/-- A vote resolves in one way at most. -/
theorem Resolves.unique {store : OverrideStore Sig} {call : VoteCall}
    {request other : OverrideRequest Sig} {results otherResults : Dict Bool}
    (first : Resolves store call request results)
    (second : Resolves store call other otherResults) :
    request = other ∧ results = otherResults := by
  cases first.found.symm.trans second.found
  cases first.verdicts.symm.trans second.verdicts
  exact ⟨rfl, rfl⟩

/-- The call resolves no request. -/
def Idle (store : OverrideStore Sig) (call : OverrideCall) : Prop :=
  ∀ vote, call = .vote vote → ∀ request results, ¬ Resolves store vote request results

theorem resolves_or_idle (store : OverrideStore Sig) (call : OverrideCall) :
    (∃ vote request results, call = .vote vote ∧ Resolves store vote request results) ∨
      Idle store call := by
  by_cases resolving :
    ∃ vote request results, call = .vote vote ∧ Resolves store vote request results
  · exact .inl resolving
  · exact .inr fun vote isVote request results resolves =>
      resolving ⟨vote, request, results, isVote, resolves⟩

/-- What is decided on some results. -/
def decisionOn (hmac : Json → Sig) (call : VoteCall) (request : OverrideRequest Sig)
    (results : Dict Bool) : QuorumDecision Sig where
  status := quorumStatus results
  results := results
  signature := signDecision hmac (decisionPayload call.overrideId request.deviceId
    (quorumStatus results) results (.str call.evaluatedAt.isoformat))

/-- The request as a vote leaves it. -/
def resolvedBy (hmac : Json → Sig) (call : VoteCall) (request : OverrideRequest Sig)
    (results : Dict Bool) : OverrideRequest Sig :=
  applyDecision (decisionOn hmac call request results) call.storedAt request

theorem quorumStatus_ne_pending (results : Dict Bool) : quorumStatus results ≠ .pending := by
  unfold quorumStatus
  split <;> simp

theorem quorumStatus_eq_approved {results : Dict Bool} :
    quorumStatus results = .approved ↔ quorumThreshold ≤ yesCount results := by
  unfold quorumStatus
  split <;> simp [*]

/-- The pattern validator is the only one that may raise. -/
theorem validatorResults_ok {votes : Dict Bool} {call : VoteCall} {results : Dict Bool} :
    validatorResults votes call = .ok results ↔
      ∃ pattern, validateUsagePattern call.cachedBudget = .ok pattern ∧
        results = [(ValidatorKey.parent.value, validateParentApproval votes),
          (ValidatorKey.policy.value, validateTimeOfDay call.localTime),
          (ValidatorKey.pattern.value, pattern)] := by
  unfold validatorResults
  split
  · rename_i raised failed
    rw [failed]
    exact ⟨nofun, fun ⟨_, returned, _⟩ => nomatch returned⟩
  · rename_i pattern returned
    rw [returned]
    refine ⟨fun same => ⟨pattern, rfl, (Except.ok.inj same).symm⟩, ?_⟩
    rintro ⟨_, same, rfl⟩
    cases same
    rfl

theorem decideVote_ok {hmac : Json → Sig} {request : OverrideRequest Sig} {call : VoteCall}
    {decision : QuorumDecision Sig} (decided : decideVote hmac request call = .ok decision) :
    ∃ results, validatorResults (request.votes.set call.voter.value call.approve) call =
        .ok results ∧ decision = decisionOn hmac call request results := by
  simp only [decideVote, evaluateQuorum] at decided
  split at decided
  · cases decided
  · rename_i results verdicts
    cases decided
    exact ⟨results, verdicts, rfl⟩

theorem selectPending_ok {requests : Table (@OverrideRequest.id Sig)} {overrideId : String}
    {request : OverrideRequest Sig} (selected : selectPending requests overrideId = .ok request) :
    requests.find overrideId = some request ∧ request.status = .pending := by
  unfold selectPending at selected
  split at selected
  · cases selected
  · rename_i found
    split at selected
    · cases selected
    · rename_i pending
      cases selected
      exact ⟨found, not_not.mp pending⟩

/-- A vote that returns has resolved a pending request. -/
theorem castVote_ok {hmac : Json → Sig} {store : OverrideStore Sig} {call : VoteCall}
    {answer : OverrideRequest Sig × Option Message × OverrideStore Sig}
    (cast : castVote hmac store call = .ok answer) :
    ∃ request results, Resolves store call request results := by
  unfold castVote at cast
  split at cast
  · cases cast
  · rename_i request selected
    obtain ⟨found, pending⟩ := selectPending_ok selected
    simp only at cast
    split at cast
    · cases cast
    · rename_i decision decided
      obtain ⟨results, verdicts, -⟩ := decideVote_ok decided
      exact ⟨request, results, found, pending, verdicts⟩

/-- A vote that resolves finds its request. -/
theorem Resolves.selected {store : OverrideStore Sig} {call : VoteCall}
    {request : OverrideRequest Sig} {results : Dict Bool}
    (resolves : Resolves store call request results) :
    selectPending store.requests call.overrideId = .ok request := by
  unfold selectPending
  rw [resolves.found]
  exact if_neg (not_not.mpr resolves.pending)

/-- It comes to the decision of its verdicts. -/
theorem Resolves.decided (hmac : Json → Sig) {store : OverrideStore Sig} {call : VoteCall}
    {request : OverrideRequest Sig} {results : Dict Bool}
    (resolves : Resolves store call request results) :
    decideVote hmac request call = .ok (decisionOn hmac call request results) := by
  have verdicts := resolves.verdicts
  simp only [decideVote, evaluateQuorum] at verdicts ⊢
  rw [verdicts]
  rfl

/-- A vote that resolves returns, with the result for the owner it was given. -/
theorem castVote_of_resolves (hmac : Json → Sig) {store : OverrideStore Sig} {call : VoteCall}
    {request : OverrideRequest Sig} {results : Dict Bool}
    (resolves : Resolves store call request results) :
    ∃ approved extraSeconds, castVote hmac store call =
      .ok (resolvedBy hmac call request results,
        publishOverrideResult request.deviceId call.overrideId approved extraSeconds call,
        { store with
          requests := storeDecision store.requests call.overrideId
              (decisionOn hmac call request results) call.storedAt }) := by
  have handed : ∃ result,
      resultOf (quorumStatus results) request.requestedSeconds = some result := by
    unfold resultOf
    split
    · exact ⟨_, rfl⟩
    · exact ⟨_, rfl⟩
    · rename_i undecided
      exact absurd undecided (quorumStatus_ne_pending results)
  obtain ⟨⟨approved, extraSeconds⟩, result⟩ := handed
  have status : (decisionOn hmac call request results).status = quorumStatus results := rfl
  refine ⟨approved, extraSeconds, ?_⟩
  simp only [castVote, resolves.selected, resolves.decided hmac, status, result, Option.bind_some]
  rfl

/-- The store after a vote that resolves. -/
theorem serveOverride_resolves {hmac : Json → Sig} {store : OverrideStore Sig} {call : VoteCall}
    {request : OverrideRequest Sig} {results : Dict Bool}
    (resolves : Resolves store call request results) :
    serveOverride hmac store (.vote call) =
      { store with
        requests := storeDecision store.requests call.overrideId
            (decisionOn hmac call request results) call.storedAt } := by
  obtain ⟨approved, extraSeconds, returned⟩ := castVote_of_resolves hmac resolves
  simp only [serveOverride, returned]

/-- A vote that resolves replaces one row. -/
theorem rows_resolves {hmac : Json → Sig} {store : OverrideStore Sig} {call : VoteCall}
    {request : OverrideRequest Sig} {results : Dict Bool}
    (resolves : Resolves store call request results) :
    ∃ before after, store.requests.rows = before ++ request :: after ∧
      (serveOverride hmac store (.vote call)).requests.rows =
        before ++ resolvedBy hmac call request results :: after := by
  rw [serveOverride_resolves resolves]
  exact Table.rows_updateWhere_key resolves.found
    (applyDecision (decisionOn hmac call request results) call.storedAt) fun _ => rfl

/-- **Everything a call can do.** -/
theorem serveOverride_cases (hmac : Json → Sig) (store : OverrideStore Sig) (call : OverrideCall) :
    (serveOverride hmac store call = store ∧ Idle store call) ∨
      (∃ create row, ∃ fresh : store.requests.find row.id = none, call = .create create ∧
        row.status = .pending ∧ 0 < row.requestedSeconds ∧
        serveOverride hmac store call =
          { store with requests := store.requests.insert row fresh }) ∨
      ∃ vote request results, call = .vote vote ∧ Resolves store vote request results ∧
        serveOverride hmac store call =
          { store with
            requests := storeDecision store.requests vote.overrideId
                (decisionOn hmac vote request results) vote.storedAt } := by
  cases call with
  | create call =>
    rw [serveOverride, createOverrideRequest]
    split
    · rename_i next created
      split at created
      · cases created
      · rename_i admitted
        simp only at created
        split at created
        · cases created
        · split at created
          · rename_i valid
            cases created
            exact .inr (.inl ⟨call, _, valid.2, rfl, rfl,
              not_le.mp fun none => admitted (.inl none), rfl⟩)
          · cases created
    · exact .inl ⟨rfl, fun vote other => (by cases other)⟩
  | vote call =>
    rcases resolves_or_idle store (.vote call) with
      ⟨vote, request, results, same, resolves⟩ | idle
    · cases same
      exact .inr (.inr ⟨call, request, results, rfl, resolves, serveOverride_resolves resolves⟩)
    · refine .inl ⟨?_, idle⟩
      rw [serveOverride]
      split
      · rename_i answer message next cast
        obtain ⟨request, results, resolves⟩ := castVote_ok cast
        exact absurd resolves (idle call rfl request results)
      · rfl

/-! ### Totals over the resolved requests -/

/-- The seconds of the requests that meet a condition. -/
def secondsWhere (requests : Table (@OverrideRequest.id Sig))
    (condition : OverrideRequest Sig → Prop) [DecidablePred condition] : Int :=
  ((requests.rows.filter fun r => condition r).map (·.requestedSeconds)).sum

variable {condition : OverrideRequest Sig → Prop} [DecidablePred condition]

/-- **What a resolving vote adds** to a total that pending requests do not count in. -/
theorem secondsWhere_storeDecision {requests : Table (@OverrideRequest.id Sig)}
    {overrideId : String} {request : OverrideRequest Sig}
    (found : requests.find overrideId = some request)
    (uncounted : ¬ condition request) (decision : QuorumDecision Sig) (storedAt : UtcTime) :
    secondsWhere (storeDecision requests overrideId decision storedAt) condition =
      secondsWhere requests condition +
        if condition (applyDecision decision storedAt request) then request.requestedSeconds
        else 0 := by
  obtain ⟨before, after, rows, updated⟩ :=
    Table.rows_updateWhere_key found (applyDecision decision storedAt) fun _ => rfl
  rw [secondsWhere, secondsWhere, storeDecision, updated, rows]
  by_cases counted : condition (applyDecision decision storedAt request)
  · have amount : (applyDecision decision storedAt request).requestedSeconds =
        request.requestedSeconds := rfl
    simp only [List.filter_append, List.filter_cons, counted, uncounted, decide_true, decide_false,
      if_true, Bool.false_eq_true, if_false, List.map_append, List.map_cons, List.sum_append,
      List.sum_cons, amount]
    omega
  · simp [List.filter_append, counted, uncounted]

/-- **A call that resolves nothing** adds nothing to such a total. -/
theorem secondsWhere_of_not_resolves (hmac : Json → Sig) {store : OverrideStore Sig}
    {call : OverrideCall}
    (uncounted : ∀ r : OverrideRequest Sig, r.status = .pending → ¬ condition r)
    (idle : Idle store call) :
    secondsWhere (serveOverride hmac store call).requests condition =
      secondsWhere store.requests condition := by
  rcases serveOverride_cases hmac store call with ⟨same, -⟩ |
    ⟨create, row, fresh, rfl, pending, -, next⟩ | ⟨vote, request, results, rfl, resolves, -⟩
  · rw [same]
  · rw [next, secondsWhere, secondsWhere, Table.insert]
    simp [List.filter_append, uncounted row pending]
  · exact absurd resolves (idle vote rfl request results)

/-- Only positive amounts are ever requested. -/
def Positive (store : OverrideStore Sig) : Prop :=
  ∀ r ∈ store.requests.rows, 0 < r.requestedSeconds

theorem serveOverride_positive (hmac : Json → Sig) {store : OverrideStore Sig} (call : OverrideCall)
    (positive : Positive store) : Positive (serveOverride hmac store call) := by
  rcases serveOverride_cases hmac store call with ⟨same, -⟩ |
    ⟨create, row, fresh, rfl, -, amount, next⟩ | ⟨vote, request, results, rfl, resolves, next⟩
  · rw [same]
    exact positive
  · intro r member
    rw [next, Table.insert, List.mem_append, List.mem_singleton] at member
    rcases member with old | rfl
    · exact positive r old
    · exact amount
  · intro r member
    rw [next] at member
    obtain ⟨old, inside, rfl⟩ := List.mem_map.mp member
    split
    · exact positive old inside
    · exact positive old inside

end ScreenSync.Override
