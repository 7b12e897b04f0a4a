/-
**What the signature depends on.**

Before it is hashed a payload is written out with its own keys in order; the dicts inside it are
written as they stand.

* `signDecision_eq_iff` — two payloads have the same signature exactly if they hold the same
  entries.
* `signature_mapping_iff` — of payloads that are the same nested mapping, that is exactly if the
  dicts under each key list their own keys in the same order.
* `signDecision_votes` — a decision whose votes come back in another order does not verify.
-/

import ScreenSync.Foundation.Canonical
import ScreenSync.Override.Audit

namespace ScreenSync.Override

open ScreenSync.Foundation ScreenSync.Shared
open JsonText (Proper)

variable {Sig : Type} {hmac : Json → Sig}

/-- The payloads are equal as nested mappings. -/
def SameMapping (first second : Dict Json) : Prop :=
  Json.canonical (.obj first) = Json.canonical (.obj second)

/-- Under each key, every dict lists its own keys in the same order in both payloads. -/
def SameListing (first second : Dict Json) : Prop :=
  ∀ key, (first.get key).map Json.outline = (second.get key).map Json.outline

/-- The order of the payload's own keys does not count. -/
theorem signDecision_eq_iff (injective : Function.Injective hmac) {first second : Dict Json}
    (distinct : (first.map Prod.fst).Nodup) :
    signDecision hmac first = signDecision hmac second ↔ first.Perm second := by
  unfold signDecision
  rw [injective.eq_iff, Json.obj.injEq, Dict.sorted_eq_iff distinct]

/-! ### Payloads of decisions -/

/-- The votes as they are written. -/
def votesJson (votes : Dict Bool) : Dict Json := votes.map fun vote => (vote.1, .bool vote.2)

theorem keys_votesJson (votes : Dict Bool) :
    (votesJson votes).map Prod.fst = votes.map Prod.fst := by
  unfold votesJson
  rw [List.map_map]
  rfl

theorem votesJson_injective : Function.Injective votesJson := by
  refine List.map_injective_iff.mpr ?_
  intro vote other same
  obtain ⟨names, verdicts⟩ := Prod.mk.inj same
  exact Prod.ext names (Json.bool.inj verdicts)

theorem proper_votesJson {votes : Dict Bool} (distinct : (votes.map Prod.fst).Nodup) :
    Proper (.obj (votesJson votes)) := by
  refine ⟨(keys_votesJson votes).symm ▸ distinct, ?_⟩
  clear distinct
  induction votes with
  | nil => trivial
  | cons vote rest ih => exact ⟨trivial, ih⟩

section Votes

variable {overrideId : String} {deviceId : DeviceId} {status : OverrideStatus}
  {votes reread : Dict Bool} {resolvedAt : Json}

/-- The keys of a decision, in order. -/
theorem keys_decisionPayload :
    ((decisionPayload overrideId deviceId status votes resolvedAt).map Prod.fst).Nodup := by
  show ["override_id", "device_id", "status", "votes", "resolved_at"].Nodup
  decide

/-- The order of the votes makes no difference to the mapping. -/
theorem sameMapping_votes (distinct : (votes.map Prod.fst).Nodup) (perm : votes.Perm reread) :
    SameMapping (decisionPayload overrideId deviceId status votes resolvedAt)
      (decisionPayload overrideId deviceId status reread resolvedAt) := by
  have nested : Json.canonical (.obj (votesJson votes)) =
      Json.canonical (.obj (votesJson reread)) := by
    rw [← keys_votesJson] at distinct
    refine (Json.canonical_obj_perm distinct).mpr ?_
    rw [Json.canonicalEntries_eq, Json.canonicalEntries_eq]
    exact (perm.map _).map _
  show Json.canonical (.obj [("override_id", .str overrideId), ("device_id", .str deviceId),
      ("status", .str status.value), ("votes", .obj (votesJson votes)),
      ("resolved_at", resolvedAt)]) = _
  rw [Json.canonical]
  simp only [Json.canonicalEntries]
  rw [nested]
  rfl

/-- **A decision verifies with its votes in the order in which they were signed**, and in no
other. -/
theorem signDecision_votes (injective : Function.Injective hmac) :
    signDecision hmac (decisionPayload overrideId deviceId status votes resolvedAt) =
        signDecision hmac (decisionPayload overrideId deviceId status reread resolvedAt) ↔
      votes = reread := by
  refine ⟨fun same => ?_, fun same => congrArg _ (by rw [same])⟩
  have perm := (signDecision_eq_iff injective keys_decisionPayload).mp same
  have member : ("votes", Json.obj (votesJson votes)) ∈
      decisionPayload overrideId deviceId status reread resolvedAt :=
    perm.subset (by simp [decisionPayload, votesJson])
  have written : votesJson votes = votesJson reread := by
    simpa [decisionPayload, votesJson] using member
  exact votesJson_injective written

end Votes

/-! ### The signature and the mapping -/

/-- **Payloads that are the same nested mapping have the same signature** exactly if the dicts under
each key list their keys in the same order. -/
theorem signature_mapping_iff (hmac : Json → Sig) (injective : Function.Injective hmac)
    (first second : Dict Json) (proper : Proper (.obj first)) (proper' : Proper (.obj second))
    (same : SameMapping first second) :
    signDecision hmac first = signDecision hmac second ↔ SameListing first second :=
  (signDecision_eq_iff injective proper.1).trans (Json.perm_iff_outline proper proper' same)

/-- The decision on a request with the given votes. -/
def decidedWith (votes : Dict Bool) : Dict Json :=
  decisionPayload "first" tablet.id .approved votes (.str (someTime 12 30).isoformat)

theorem proper_decidedWith {votes : Dict Bool} (distinct : (votes.map Prod.fst).Nodup) :
    Proper (.obj (decidedWith votes)) :=
  ⟨keys_decisionPayload, trivial, trivial, trivial, proper_votesJson distinct, trivial, trivial⟩

/-- The votes in the order of the validators. -/
def castVotes : Dict Bool := [("parent", true), ("policy", true), ("pattern", false)]

/-- The same votes in the order of their names. -/
def rereadVotes : Dict Bool := [("parent", true), ("pattern", false), ("policy", true)]

theorem signature_mapping_iff_reread :
    signDecision id (decidedWith castVotes) = signDecision id (decidedWith rereadVotes) ↔
      SameListing (decidedWith castVotes) (decidedWith rereadVotes) :=
  signature_mapping_iff id Function.injective_id (decidedWith castVotes) (decidedWith rereadVotes)
    (proper_decidedWith (by decide)) (proper_decidedWith (by decide))
    (sameMapping_votes (by decide) (by decide))

/-- The record comes back with its votes in the order of their names, and does not verify. -/
theorem reread_votes_do_not_verify :
    SameMapping (decidedWith castVotes) (decidedWith rereadVotes) ∧
      signDecision id (decidedWith castVotes) ≠ signDecision id (decidedWith rereadVotes) :=
  ⟨sameMapping_votes (by decide) (by decide), fun same =>
    absurd ((signDecision_votes Function.injective_id).mp same) (by decide)⟩

end ScreenSync.Override
