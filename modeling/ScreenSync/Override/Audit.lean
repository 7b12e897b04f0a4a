/-
**The audit signature.**

What is signed is put together when the quorum is evaluated, what is stored when the vote is
stored, and each reads the clock for itself.

* `signDecision_resolvedAt` — two payloads that differ only in the time have different signatures.
* `auditVerifies_step` — exactly when a call keeps every stored signature valid: unless it
  resolves a request and its two readings of the clock differ.
* `auditVerifies_iff` — the same for whole runs.
-/

import ScreenSync.Override.Cap

namespace ScreenSync.Override

open ScreenSync.Foundation ScreenSync.Shared

variable {Sig : Type} {hmac : Json → Sig}

/-! ### Recomputing a signature -/

/-- The ISO form of a stored time. -/
def isoOrNull : Option UtcTime → Json
  | some t => .str t.isoformat
  | none => .null

/-- `_sign_decision` over the fields of a stored row. -/
def signatureOf (hmac : Json → Sig) (r : OverrideRequest Sig) : Sig :=
  signDecision hmac (decisionPayload r.id r.deviceId r.status r.votes (isoOrNull r.resolvedAt))

/-- Every resolved request carries the signature of its own fields. -/
def AuditVerifies (hmac : Json → Sig) (store : OverrideStore Sig) : Prop :=
  ∀ r ∈ store.requests.rows, r.status ≠ .pending → r.signature = some (signatureOf hmac r)

/-- If the call is a vote that resolves a request, the clock reads the same when the decision is
signed and when it is stored. -/
def SameReading (store : OverrideStore Sig) (call : OverrideCall) : Prop :=
  ∀ vote request results, call = .vote vote → Resolves store vote request results →
    vote.evaluatedAt = vote.storedAt

/-- **A signature pins the time down.** -/
theorem signDecision_resolvedAt (injective : Function.Injective hmac) {overrideId : String}
    {deviceId : DeviceId} {status : OverrideStatus} {votes : Dict Bool} {first second : Json}
    (same : signDecision hmac (decisionPayload overrideId deviceId status votes first) =
      signDecision hmac (decisionPayload overrideId deviceId status votes second)) :
    first = second := by
  have perm : (decisionPayload overrideId deviceId status votes first).Perm
      (decisionPayload overrideId deviceId status votes second) :=
    Dict.perm_of_sorted_eq (Json.obj.inj (injective same))
  have member : ("resolved_at", first) ∈
      decisionPayload overrideId deviceId status votes second :=
    perm.subset (by simp [decisionPayload])
  simpa [decisionPayload] using member

/-! ### One call -/

/-- **When the row that a vote leaves verifies.** -/
theorem resolvedBy_verifies (injective : Function.Injective hmac) {store : OverrideStore Sig}
    {vote : VoteCall} {request : OverrideRequest Sig} {results : Dict Bool}
    (resolves : Resolves store vote request results) :
    (resolvedBy hmac vote request results).signature =
        some (signatureOf hmac (resolvedBy hmac vote request results)) ↔
      vote.evaluatedAt = vote.storedAt := by
  have named : request.id = vote.overrideId := (Table.find_eq_some.mp resolves.found).2
  have stored : (resolvedBy hmac vote request results).resolvedAt = some vote.storedAt :=
    if_pos (quorumStatus_ne_pending results)
  have recomputed : signatureOf hmac (resolvedBy hmac vote request results) =
      signDecision hmac (decisionPayload vote.overrideId request.deviceId (quorumStatus results)
        results (.str vote.storedAt.isoformat)) := by
    rw [signatureOf, stored]
    show signDecision hmac (decisionPayload request.id request.deviceId _ _ _) = _
    rw [named]
    rfl
  rw [recomputed]
  constructor
  · intro same
    have texts := signDecision_resolvedAt injective (Option.some.inj same)
    exact UtcTime.isoformat_injective (Json.str.inj texts)
  · intro same
    rw [← same]
    rfl

/-- **Exactly when a call keeps the audit valid.** -/
theorem auditVerifies_step (injective : Function.Injective hmac) (store : OverrideStore Sig)
    (call : OverrideCall) (verifies : AuditVerifies hmac store) :
    AuditVerifies hmac (serveOverride hmac store call) ↔ SameReading store call := by
  rcases serveOverride_cases hmac store call with ⟨same, idle⟩ |
    ⟨create, row, fresh, rfl, pending, -, next⟩ | ⟨vote, request, results, rfl, resolves, next⟩
  · rw [same]
    exact ⟨fun _ vote request results isVote resolves => absurd resolves
      (idle vote isVote request results), fun _ => verifies⟩
  · refine ⟨fun _ vote request results isVote => (by cases isVote), fun _ r member resolved => ?_⟩
    rw [next, Table.insert, List.mem_append, List.mem_singleton] at member
    rcases member with old | rfl
    · exact verifies r old resolved
    · exact absurd pending resolved
  · obtain ⟨before, after, rows, updated⟩ := rows_resolves resolves
    have members : ∀ r, r ∈ (serveOverride hmac store (.vote vote)).requests.rows ↔
        r ∈ before ∨ r = resolvedBy hmac vote request results ∨ r ∈ after := fun r => by
      rw [updated, List.mem_append, List.mem_cons]
    constructor
    · rintro later other otherRequest otherResults same -
      cases same
      refine (resolvedBy_verifies injective resolves).mp ?_
      exact later _ ((members _).mpr (.inr (.inl rfl))) (quorumStatus_ne_pending results)
    · intro same r member resolved
      rcases (members r).mp member with first | rfl | last
      · exact verifies r (by rw [rows]; exact List.mem_append_left _ first) resolved
      · exact (resolvedBy_verifies injective resolves).mpr
          (same vote request results rfl resolves)
      · exact verifies r
          (by rw [rows]; exact List.mem_append_right _ (List.mem_cons_of_mem _ last)) resolved

/-! ### Whole runs -/

/-- **The stored signatures verify in every state a run reaches** exactly if every vote that
resolves a request reads the same time twice. -/
theorem auditVerifies_iff (hmac : Json → Sig) (injective : Function.Injective hmac) (db : Database)
    (calls : List OverrideCall) :
    Throughout (serveOverride hmac) (AuditVerifies hmac) (.start db) calls ↔
      Meets (serveOverride hmac) SameReading (.start db) calls :=
  throughout_iff_meets (fun _ => True) (fun _ _ _ => trivial)
    (fun store call _ verifies => auditVerifies_step injective store call verifies) trivial
    (fun _ member => (by cases member)) calls

theorem auditVerifies_iff_tablet :
    Throughout (serveOverride id) (AuditVerifies id) (.start tabletDb)
        [hourRequest "first", .vote (parentApproval "first")] ↔
      Meets (serveOverride id) SameReading (.start tabletDb)
        [hourRequest "first", .vote (parentApproval "first")] :=
  auditVerifies_iff id Function.injective_id tabletDb
    [hourRequest "first", .vote (parentApproval "first")]

/-- An approval that is stored a minute after it was signed. -/
def lateApproval : VoteCall :=
  { parentApproval "first" with storedAt := someTime 12 31, publishedAt := someTime 12 31 }

/-- The clock moves on between signing and storing, and the signature does not verify. -/
theorem late_approval_does_not_verify :
    lateApproval.evaluatedAt ≤ lateApproval.storedAt ∧
      ¬ AuditVerifies id (run (serveOverride id) (.start tabletDb)
        [hourRequest "first", .vote lateApproval]) := by
  refine ⟨by decide, fun verifies => ?_⟩
  have resolves : ∃ request results, Resolves
      (serveOverride (id : Json → Json) (.start tabletDb) (hourRequest "first")) lateApproval
      request results := ⟨_, _, rfl, rfl, rfl⟩
  obtain ⟨request, results, resolves⟩ := resolves
  have earlier : AuditVerifies id
      (serveOverride (id : Json → Json) (.start tabletDb) (hourRequest "first")) :=
    (auditVerifies_step Function.injective_id _ _ fun _ member => (by cases member)).mpr
      fun vote _ _ isVote => (by cases isVote)
  have same := (auditVerifies_step Function.injective_id _ (.vote lateApproval) earlier).mp verifies
    lateApproval request results rfl resolves
  exact absurd same (by decide)

end ScreenSync.Override
