/-
**Denials while the parent abstains.**

The parent validator abstains until the parent has voted; `evaluate_quorum` counts the abstention
as a failure, and never leaves a request pending. A vote cast for another validator then denies a
request on one pass and one failure.

* `Verdicts` — what the validators say to a vote, the abstention kept apart.
* `deliberate_iff` — exactly when a call neither denies on fewer than two failures nor resolves
  without two passes or two failures: unless the parent abstains and the other two disagree.
* `deliberate_run_iff` — the same for whole runs.
* `denied_while_undecided` — a request that is denied before the parent has voted.
-/

import ScreenSync.Override.Justification

namespace ScreenSync.Override

open ScreenSync.Foundation ScreenSync.Shared

variable {Sig : Type}

/-! ### Verdicts -/

/-- What the three validators say; `none` is an abstention. -/
def verdictsOf (votes : Dict Bool) (call : VoteCall) (pattern : Bool) : List (Option Bool) :=
  [votes.get ValidatorKey.parent.value, some (validateTimeOfDay call.localTime), some pattern]

def passes (verdicts : List (Option Bool)) : Nat := verdicts.count (some true)

def failures (verdicts : List (Option Bool)) : Nat := verdicts.count (some false)

/-- The usage pattern, as a vote finds it. -/
def patternOf (vote : VoteCall) : Except PyError Bool := validateUsagePattern vote.cachedBudget

/-- What the validators say to a vote on a request. -/
def Verdicts (vote : VoteCall) (request : OverrideRequest Sig) (verdicts : List (Option Bool)) :
    Prop :=
  ∃ pattern, patternOf vote = .ok pattern ∧
    verdicts = verdictsOf (request.votes.set vote.voter.value vote.approve) vote pattern

/-- A request that the call denies has two failures, and one that it resolves has two passes or two
failures. -/
structure Deliberate (hmac : Json → Sig) (store : OverrideStore Sig) (call : OverrideCall) :
    Prop where
  denied : ∀ overrideId before after, store.requests.find overrideId = some before →
    (serveOverride hmac store call).requests.find overrideId = some after →
      before.status ≠ .denied → after.status = .denied →
        ∃ vote verdicts, call = .vote vote ∧ vote.overrideId = overrideId ∧
          Verdicts vote before verdicts ∧ quorumThreshold ≤ failures verdicts
  resolved : ∀ overrideId before after, store.requests.find overrideId = some before →
    (serveOverride hmac store call).requests.find overrideId = some after →
      before.status = .pending → after.status ≠ .pending →
        ∃ vote verdicts, call = .vote vote ∧ vote.overrideId = overrideId ∧
          Verdicts vote before verdicts ∧
          (quorumThreshold ≤ passes verdicts ∨ quorumThreshold ≤ failures verdicts)

/-- A vote on a pending request is the parent's, or the time of day and the usage pattern agree. -/
def HeardOrAgreed (store : OverrideStore Sig) (call : OverrideCall) : Prop :=
  ∀ vote request pattern, call = .vote vote →
    store.requests.find vote.overrideId = some request → request.status = .pending →
      patternOf vote = .ok pattern →
        vote.voter = .parent ∨ validateTimeOfDay vote.localTime = pattern

/-! ### The count -/

/-- The verdicts as the quorum counts them. -/
def counted (parent : Option Bool) (policy pattern : Bool) : Dict Bool :=
  [(ValidatorKey.parent.value, parent.getD false), (ValidatorKey.policy.value, policy),
    (ValidatorKey.pattern.value, pattern)]

/-- With the parent's vote, or an agreement of the other two, the count is right. -/
theorem counted_sound {parent : Option Bool} {policy pattern : Bool}
    (heard : parent.isSome ∨ policy = pattern) :
    (quorumStatus (counted parent policy pattern) = .denied →
        quorumThreshold ≤ failures [parent, some policy, some pattern]) ∧
      (quorumThreshold ≤ passes [parent, some policy, some pattern] ∨
        quorumThreshold ≤ failures [parent, some policy, some pattern]) := by
  rcases parent with _ | vote
  · have agreed : policy = pattern := heard.resolve_left nofun
    subst agreed
    cases policy <;> decide
  · cases vote <;> cases policy <;> cases pattern <;> decide

/-- Otherwise the request is denied on one failure. -/
theorem counted_unsound : ∀ policy pattern : Bool, policy ≠ pattern →
    quorumStatus (counted none policy pattern) = .denied ∧
      failures [none, some policy, some pattern] < quorumThreshold := by
  decide

theorem counted_eq (votes : Dict Bool) (call : VoteCall) (pattern : Bool) :
    [(ValidatorKey.parent.value, validateParentApproval votes),
      (ValidatorKey.policy.value, validateTimeOfDay call.localTime),
      (ValidatorKey.pattern.value, pattern)] =
      counted (votes.get ValidatorKey.parent.value) (validateTimeOfDay call.localTime) pattern := by
  unfold counted validateParentApproval
  cases votes.get ValidatorKey.parent.value <;> rfl

/-! ### One call -/

variable {hmac : Json → Sig} {store : OverrideStore Sig} {call : OverrideCall}

theorem find_storeDecision_of_ne {requests : Table (@OverrideRequest.id Sig)}
    {overrideId other : String} (apart : other ≠ overrideId) (decision : QuorumDecision Sig)
    (storedAt : UtcTime) :
    (storeDecision requests overrideId decision storedAt).find other = requests.find other := by
  refine (Table.find_updateWhere ..).trans ?_
  cases found : requests.find other with
  | none => rfl
  | some row => rw [Option.map_some, if_neg ((Table.find_eq_some.mp found).2.trans_ne apart)]

/-- A request that a call changes is the one that a vote resolves. -/
theorem find_serveOverride {overrideId : String} {before after : OverrideRequest Sig}
    (found : store.requests.find overrideId = some before)
    (later : (serveOverride hmac store call).requests.find overrideId = some after) :
    after = before ∨ ∃ vote results, call = .vote vote ∧ vote.overrideId = overrideId ∧
      Resolves store vote before results ∧ after = resolvedBy hmac vote before results := by
  rcases serveOverride_cases hmac store call with ⟨same, -⟩ |
    ⟨create, row, fresh, rfl, -, -, next⟩ | ⟨vote, request, results, rfl, resolves, next⟩
  · rw [same, found] at later
    exact .inl (Option.some.inj later).symm
  · rw [next, Table.find_insert, if_neg] at later
    · exact .inl (Option.some.inj (found.symm.trans later)).symm
    · rintro rfl
      rw [fresh] at found
      cases found
  · rw [next] at later
    by_cases own : vote.overrideId = overrideId
    · subst own
      cases found.symm.trans resolves.found
      refine .inr ⟨vote, results, rfl, rfl, resolves, ?_⟩
      exact Option.some.inj (later.symm.trans (find_storeDecision resolves.found _ _))
    · have kept := (find_storeDecision_of_ne (Ne.symm own) _ _).symm.trans later
      exact .inl (Option.some.inj (found.symm.trans kept)).symm

/-- The votes that count when a vote is cast on a request that nobody has voted on. -/
theorem parent_heard {votes : Dict Bool} (unvoted : votes = []) (voter : ValidatorKey)
    (approve : Bool) :
    (votes.set voter.value approve).get ValidatorKey.parent.value =
      if voter = .parent then some approve else none := by
  subst unvoted
  cases voter <;> rfl

theorem unvoted_of_justified {requests : Table (@OverrideRequest.id Sig)}
    (justified : AllJustified requests) {overrideId : String} {request : OverrideRequest Sig}
    (found : requests.find overrideId = some request) (pending : request.status = .pending) :
    request.votes = [] := by
  rcases justified request (Table.find_eq_some.mp found).1 with ⟨-, unvoted, -⟩ | ⟨resolved, -⟩
  · exact unvoted
  · exact absurd pending resolved

/-- What a vote that resolves leaves, and what it was told. -/
theorem resolves_counted {vote : VoteCall} {request : OverrideRequest Sig} {results : Dict Bool}
    (resolves : Resolves store vote request results) :
    ∃ pattern, patternOf vote = .ok pattern ∧
      results = counted ((request.votes.set vote.voter.value vote.approve).get
        ValidatorKey.parent.value) (validateTimeOfDay vote.localTime) pattern := by
  obtain ⟨pattern, returned, rfl⟩ := validatorResults_ok.mp resolves.verdicts
  exact ⟨pattern, returned, counted_eq _ vote pattern⟩

/-- A vote that is the parent's, or finds the other two agreed, resolves on two verdicts. -/
theorem sound_of_heard (justified : AllJustified store.requests) {vote : VoteCall}
    {request : OverrideRequest Sig} {results : Dict Bool} (heard : HeardOrAgreed store (.vote vote))
    (resolves : Resolves store vote request results) :
    ∃ verdicts, Verdicts vote request verdicts ∧
      (quorumStatus results = .denied → quorumThreshold ≤ failures verdicts) ∧
      (quorumThreshold ≤ passes verdicts ∨ quorumThreshold ≤ failures verdicts) := by
  obtain ⟨pattern, returned, rfl⟩ := resolves_counted resolves
  have unvoted := unvoted_of_justified justified resolves.found resolves.pending
  refine ⟨_, ⟨pattern, returned, rfl⟩, counted_sound ?_⟩
  rw [parent_heard unvoted]
  refine (heard vote request pattern rfl resolves.found resolves.pending returned).imp_left
    fun parent => ?_
  rw [if_pos parent]
  rfl

/-- Any other vote is denied on one failure. -/
theorem denied_of_unheard (justified : AllJustified store.requests) {vote : VoteCall}
    {request : OverrideRequest Sig} {pattern : Bool}
    (found : store.requests.find vote.overrideId = some request)
    (pending : request.status = .pending) (returned : patternOf vote = .ok pattern)
    (silent : vote.voter ≠ .parent) (differ : validateTimeOfDay vote.localTime ≠ pattern) :
    ∃ results, Resolves store vote request results ∧ quorumStatus results = .denied ∧
      ∀ verdicts, Verdicts vote request verdicts → failures verdicts < quorumThreshold := by
  have unheard : (request.votes.set vote.voter.value vote.approve).get ValidatorKey.parent.value =
      none := by
    rw [parent_heard (unvoted_of_justified justified found pending), if_neg silent]
  obtain ⟨isDenied, few⟩ := counted_unsound _ _ differ
  refine ⟨_, ⟨found, pending, validatorResults_ok.mpr ⟨pattern, returned, ?_⟩⟩, isDenied, ?_⟩
  · rw [counted_eq, unheard]
  · rintro verdicts ⟨again, returned', rfl⟩
    cases returned.symm.trans returned'
    rw [verdictsOf, unheard]
    exact few

/-- **Exactly when a call is deliberate.** -/
theorem deliberate_iff (justified : AllJustified store.requests) :
    Deliberate hmac store call ↔ HeardOrAgreed store call := by
  constructor
  · rintro deliberate vote request pattern rfl found pending returned
    by_contra neither
    obtain ⟨silent, differ⟩ := not_or.mp neither
    obtain ⟨results, resolves, isDenied, few⟩ :=
      denied_of_unheard justified found pending returned silent differ
    have stored : (serveOverride hmac store (.vote vote)).requests.find vote.overrideId =
        some (resolvedBy hmac vote request results) := by
      rw [serveOverride_resolves resolves]
      exact find_storeDecision found _ _
    obtain ⟨other, verdicts, same, -, told, enough⟩ :=
      deliberate.denied vote.overrideId request _ found stored (by rw [pending]; decide) isDenied
    cases same
    exact absurd enough (not_le.mpr (few verdicts told))
  · intro heard
    constructor
    · intro overrideId before after found later undenied denied
      rcases find_serveOverride found later with rfl | ⟨vote, results, rfl, own, resolves, rfl⟩
      · exact absurd denied undenied
      · obtain ⟨verdicts, told, enough, -⟩ := sound_of_heard justified heard resolves
        exact ⟨vote, verdicts, rfl, own, told, enough denied⟩
    · intro overrideId before after found later pending resolved
      rcases find_serveOverride found later with rfl | ⟨vote, results, rfl, own, resolves, rfl⟩
      · exact absurd pending resolved
      · obtain ⟨verdicts, told, -, enough⟩ := sound_of_heard justified heard resolves
        exact ⟨vote, verdicts, rfl, own, told, enough⟩

/-! ### Whole runs -/

/-- **Every call of a run is deliberate** exactly if every vote on a pending request is the parent's
or comes when the other two validators agree. -/
theorem deliberate_run_iff (hmac : Json → Sig) (db : Database) (calls : List OverrideCall) :
    Meets (serveOverride hmac) (Deliberate hmac) (.start db) calls ↔
      Meets (serveOverride hmac) HeardOrAgreed (.start db) calls :=
  meets_congr (fun store call justified => serveOverride_justified store call justified)
    (fun _ _ justified => deliberate_iff justified) (fun _ member => (by cases member)) calls

/-! ### A vote for the time of day -/

/-- A vote for the policy validator during permitted hours, with a second of the budget left. -/
def policyVote : VoteCall := { parentApproval "first" with voter := .policy }

/-- One validator passes, one fails, and the parent has not voted: the request is denied, and the
parent's approval comes too late. -/
theorem denied_while_undecided :
    ¬ Meets (serveOverride fun _ => ()) (Deliberate fun _ => ()) (.start tabletDb)
        [hourRequest "first", .vote policyVote] ∧
      ((run (serveOverride fun _ => ()) (.start tabletDb)
        [hourRequest "first", .vote policyVote, .vote (parentApproval "first")]).requests.find
          "first").map OverrideRequest.status = some .denied := by
  refine ⟨fun deliberate => ?_, by decide +kernel⟩
  have justified : AllJustified (serveOverride (fun _ => ()) (.start tabletDb)
      (hourRequest "first")).requests :=
    serveOverride_justified _ _ fun _ member => (by cases member)
  have heard := (deliberate_iff justified).mp
    (deliberate [hourRequest "first"] (.vote policyVote) [] rfl)
  have agreed := heard policyVote (newRequest
    { deviceId := tablet.id
      requestedSeconds := 3600
      checkedAt := someTime 12 0
      id := "first"
      insertedAt := someTime 12 0 }) false rfl rfl rfl (by decide +kernel)
  exact absurd agreed (by decide)

end ScreenSync.Override
