/-
**Concurrent votes on one request.**

A vote is three atomic steps with awaits between them: the `SELECT` that checks the status, the
`UPDATE` with its commit, and the handing over of the result. The `UPDATE` does not look at the
status again. Any number of votes are interleaved by a schedule, which names the call that takes
its next step.

* `advance` — the next step of one call, out of the stages of `cast_vote`.
* `Orderly` — the invariant: nothing is handed over or waits to be while the request is pending,
  and at most one result afterwards.
* `resolved_once` — if every `UPDATE` finds the request still pending, the status never changes
  again once it is resolved, and at most one result is handed over.
* `request_resolved_twice` — two votes that both read the request as pending.
-/

import Mathlib.Logic.Function.Basic
import ScreenSync.Override.Cap

namespace ScreenSync.Override

open ScreenSync.Foundation ScreenSync.Shared

variable {ι Sig : Type} [DecidableEq ι]

/-! ### The steps of the calls -/

/-- How far a call of `cast_vote` has come. -/
inductive Phase (Sig : Type)
  | ready
  | selected (override : OverrideRequest Sig)
  | committed (status : OverrideStatus) (requestedSeconds : Int)
  | finished

/-- The table, the calls, and the results handed to `_publish_override_result` so far. -/
structure Race (ι Sig : Type) where
  requests : Table (@OverrideRequest.id Sig)
  phase : ι → Phase Sig
  handed : List (Bool × Int)

/-- Before any call has started. -/
def Race.start (requests : Table (@OverrideRequest.id Sig)) : Race ι Sig where
  requests := requests
  phase _ := .ready
  handed := []

def Race.moveTo (race : Race ι Sig) (i : ι) (phase : Phase Sig) : Race ι Sig :=
  { race with phase := Function.update race.phase i phase }

theorem moveTo_phase (race : Race ι Sig) (i j : ι) (phase : Phase Sig) :
    (race.moveTo i phase).phase j = if j = i then phase else race.phase j :=
  Function.update_apply ..

variable (hmac : Json → Sig) (calls : ι → VoteCall)

/-- The next step of a call. The refresh after the commit reads columns that no vote writes, and is
left out. -/
def advance (race : Race ι Sig) (i : ι) : Race ι Sig :=
  match race.phase i with
  | .ready =>
    match selectPending race.requests (calls i).overrideId with
    | .error _ => race.moveTo i .finished
    | .ok override => race.moveTo i (.selected override)
  | .selected override =>
    match decideVote hmac override (calls i) with
    | .error _ => race.moveTo i .finished
    | .ok decision =>
      { race with
        requests := storeDecision race.requests (calls i).overrideId decision (calls i).storedAt
      }.moveTo i (.committed decision.status override.requestedSeconds)
  | .committed status requestedSeconds =>
    { race with handed := race.handed ++ (resultOf status requestedSeconds).toList
    }.moveTo i .finished
  | .finished => race

/-- If the call's next step is its `UPDATE`, the request is still pending. -/
def FindsPending (overrideId : String) (race : Race ι Sig) (i : ι) : Prop :=
  ∀ override results, race.phase i = .selected override →
    validatorResults (override.votes.set (calls i).voter.value (calls i).approve) (calls i) =
      .ok results →
        ∃ row, race.requests.find overrideId = some row ∧ row.status = .pending

/-! ### The invariant -/

/-- The call has committed and not yet handed over its result. -/
def Phase.IsCommitted : Phase Sig → Prop
  | .committed _ _ => True
  | _ => False

/-- Nothing is handed over or waits to be while the request is pending, and at most one result is
afterwards. -/
structure Orderly (overrideId : String) (race : Race ι Sig) : Prop where
  pending : ∀ row, race.requests.find overrideId = some row → row.status = .pending →
    race.handed = [] ∧ ∀ i, ¬ (race.phase i).IsCommitted
  single : ∀ i j, (race.phase i).IsCommitted → (race.phase j).IsCommitted → i = j
  handed : race.handed ≠ [] → ∀ i, ¬ (race.phase i).IsCommitted
  once : race.handed.length ≤ 1

omit [DecidableEq ι] in
theorem orderly_start (overrideId : String) (requests : Table (@OverrideRequest.id Sig)) :
    Orderly overrideId (.start requests : Race ι Sig) where
  pending _ _ _ := ⟨rfl, fun _ => id⟩
  single _ _ waiting := waiting.elim
  handed nonempty := absurd rfl nonempty
  once := Nat.zero_le _

/-- Another phase that is not committed. -/
theorem Orderly.moveTo {overrideId : String} {race : Race ι Sig} (orderly : Orderly overrideId race)
    (i : ι) {phase : Phase Sig} (quiet : ¬ phase.IsCommitted) :
    Orderly overrideId (race.moveTo i phase) := by
  have fewer : ∀ j, ((race.moveTo i phase).phase j).IsCommitted → (race.phase j).IsCommitted := by
    intro j waiting
    rw [moveTo_phase] at waiting
    split at waiting
    · exact absurd waiting quiet
    · exact waiting
  exact
    { pending := fun row found isPending =>
        ⟨(orderly.pending row found isPending).1, fun j waiting =>
          (orderly.pending row found isPending).2 j (fewer j waiting)⟩
      single := fun j k first second => orderly.single j k (fewer j first) (fewer k second)
      handed := fun nonempty j waiting => orderly.handed nonempty j (fewer j waiting)
      once := orderly.once }

variable {hmac calls}

theorem find_storeDecision {requests : Table (@OverrideRequest.id Sig)} {overrideId : String}
    {row : OverrideRequest Sig} (found : requests.find overrideId = some row)
    (decision : QuorumDecision Sig) (storedAt : UtcTime) :
    (storeDecision requests overrideId decision storedAt).find overrideId =
      some (applyDecision decision storedAt row) := by
  have named : row.id = overrideId := (Table.find_eq_some.mp found).2
  refine (Table.find_updateWhere ..).trans ?_
  rw [found, Option.map_some, if_pos named]

/-- An `UPDATE` that finds the request pending leaves one result waiting. -/
theorem Orderly.commit {overrideId : String} {race : Race ι Sig} (orderly : Orderly overrideId race)
    {row : OverrideRequest Sig} (found : race.requests.find overrideId = some row)
    (isPending : row.status = .pending) {decision : QuorumDecision Sig}
    (resolved : decision.status ≠ .pending) (storedAt : UtcTime) (i : ι) (requestedSeconds : Int) :
    Orderly overrideId
      ({ race with requests := storeDecision race.requests overrideId decision storedAt }.moveTo i
        (.committed decision.status requestedSeconds)) := by
  obtain ⟨nothing, quiet⟩ := orderly.pending row found isPending
  have onlyThis : ∀ j, ((({ race with
      requests := storeDecision race.requests overrideId decision storedAt } : Race ι Sig).moveTo i
        (.committed decision.status requestedSeconds)).phase j).IsCommitted → j = i := by
    intro j waiting
    rw [moveTo_phase] at waiting
    by_contra other
    rw [if_neg other] at waiting
    exact quiet j waiting
  exact
    { pending := fun later there stillPending => by
        cases there.symm.trans (find_storeDecision found decision storedAt)
        exact absurd stillPending resolved
      single := fun j k first second => (onlyThis j first).trans (onlyThis k second).symm
      handed := fun nonempty => absurd nothing nonempty
      once := orderly.once }

/-- A call that hands over its result was the only one waiting. -/
theorem Orderly.handOver {overrideId : String} {race : Race ι Sig}
    (orderly : Orderly overrideId race) {i : ι} (waits : (race.phase i).IsCommitted)
    (result : Option (Bool × Int)) :
    Orderly overrideId
      ({ race with handed := race.handed ++ result.toList }.moveTo i .finished) := by
  have nothing : race.handed = [] := by
    by_contra nonempty
    exact orderly.handed nonempty i waits
  have quiet : ∀ j, ¬ ((({ race with handed := race.handed ++ result.toList } : Race ι Sig).moveTo i
      .finished).phase j).IsCommitted := by
    intro j waiting
    rw [moveTo_phase] at waiting
    split at waiting
    · exact waiting
    · rename_i other
      exact other (orderly.single j i waiting waits)
  exact
    { pending := fun row found isPending =>
        absurd waits ((orderly.pending row found isPending).2 i)
      single := fun j _ first => absurd first (quiet j)
      handed := fun _ => quiet
      once := by
        show (race.handed ++ result.toList).length ≤ 1
        rw [nothing]
        cases result <;> simp }

/-- **One step keeps the invariant**, if an `UPDATE` finds the request pending. -/
theorem advance_orderly {overrideId : String} (same : ∀ i, (calls i).overrideId = overrideId)
    (race : Race ι Sig) (i : ι) (orderly : Orderly overrideId race)
    (finds : FindsPending calls overrideId race i) :
    Orderly overrideId (advance hmac calls race i) := by
  unfold advance
  split
  · split
    · exact orderly.moveTo i id
    · exact orderly.moveTo i id
  · rename_i override isSelected
    split
    · exact orderly.moveTo i id
    · rename_i decision decided
      obtain ⟨results, verdicts, rfl⟩ := decideVote_ok decided
      obtain ⟨row, found, isPending⟩ := finds override results isSelected verdicts
      rw [same i]
      exact orderly.commit found isPending (quorumStatus_ne_pending results) _ i _
  · rename_i status requestedSeconds isCommitted
    have waits : (race.phase i).IsCommitted := by
      rw [isCommitted]
      trivial
    exact orderly.handOver waits _
  · exact orderly

/-- **One step keeps the status of a resolved request**, if an `UPDATE` finds it pending. -/
theorem advance_status {overrideId : String} {status : OverrideStatus}
    (resolved : status ≠ .pending) (race : Race ι Sig) (i : ι)
    (holds : ∃ row, race.requests.find overrideId = some row ∧ row.status = status)
    (finds : FindsPending calls overrideId race i) :
    ∃ row, (advance hmac calls race i).requests.find overrideId = some row ∧
      row.status = status := by
  obtain ⟨row, found, rfl⟩ := holds
  unfold advance
  split
  · split
    · exact ⟨row, found, rfl⟩
    · exact ⟨row, found, rfl⟩
  · rename_i override isSelected
    split
    · exact ⟨row, found, rfl⟩
    · rename_i decision decided
      obtain ⟨results, verdicts, -⟩ := decideVote_ok decided
      obtain ⟨other, there, isPending⟩ := finds override results isSelected verdicts
      cases found.symm.trans there
      exact absurd isPending resolved
  · exact ⟨row, found, rfl⟩
  · exact ⟨row, found, rfl⟩

/-! ### Whole runs -/

/-- **A request is resolved once**, in every run in which every `UPDATE` finds it still pending: its
status never changes after it has left `PENDING`, and at most one result is handed over. -/
theorem resolved_once (hmac : Json → Sig) (calls : ι → VoteCall)
    (overrideId : String) (requests : Table (@OverrideRequest.id Sig)) (schedule : List ι)
    (same : ∀ i, (calls i).overrideId = overrideId)
    (finds : Meets (advance hmac calls) (FindsPending calls overrideId)
      (.start requests) schedule) :
    (∀ before after, schedule = before ++ after → ∀ row,
        (run (advance hmac calls) (.start requests) before).requests.find overrideId =
          some row → row.status ≠ .pending →
            ∃ later, (run (advance hmac calls) (.start requests) schedule).requests.find
                overrideId = some later ∧ later.status = row.status) ∧
      (run (advance hmac calls) (.start requests) schedule).handed.length ≤ 1 := by
  constructor
  · rintro before after rfl row found resolved
    rw [run_append]
    exact run_invariant_of_meets (advance_status resolved) ⟨row, found, rfl⟩ finds.append_right
  · exact (run_invariant_of_meets (advance_orderly same) (orderly_start overrideId requests)
      finds).once

/-! ### Two votes on one request -/

/-- A pending request for an hour. -/
def pendingHour : Table (@OverrideRequest.id Unit) :=
  (serveOverride (fun _ => ()) (.start tabletDb) (hourRequest "first")).requests

/-- A parent's approval, and a parent's refusal at the same time. -/
def ballots : Bool → VoteCall
  | true => parentApproval "first"
  | false => { parentApproval "first" with approve := false }

/-- The refusal is selected after the approval is stored. -/
def inTurn : List Bool := [true, true, false, true, false]

theorem resolved_once_tablet :
    (∀ before after, inTurn = before ++ after → ∀ row,
        (run (advance (fun _ => ()) ballots) (.start pendingHour) before).requests.find "first" =
          some row → row.status ≠ .pending →
            ∃ later, (run (advance (fun _ => ()) ballots) (.start pendingHour)
              inTurn).requests.find "first" = some later ∧ later.status = row.status) ∧
      (run (advance (fun _ => ()) ballots) (.start pendingHour) inTurn).handed.length ≤ 1 :=
  resolved_once (fun _ => ()) ballots "first" pendingHour inTurn (by decide)
    (meets_cons.mpr ⟨fun _ _ ready => (by cases ready), meets_cons.mpr
      ⟨fun _ _ _ _ => ⟨_, rfl, rfl⟩, meets_cons.mpr
        ⟨fun _ _ ready => (by cases ready), meets_cons.mpr
          ⟨fun _ _ waiting => (by cases waiting), meets_cons.mpr
            ⟨fun _ _ finished => (by cases finished), .nil _ _⟩⟩⟩⟩⟩)

/-- Both votes read the request as pending: it is approved, then denied, and both results are handed
over. -/
theorem request_resolved_twice :
    ((run (advance (fun _ => ()) ballots) (.start pendingHour)
        [true, false, true]).requests.find "first").map OverrideRequest.status = some .approved ∧
      ((run (advance (fun _ => ()) ballots) (.start pendingHour)
        [true, false, true, false]).requests.find "first").map OverrideRequest.status =
          some .denied ∧
      (run (advance (fun _ => ()) ballots) (.start pendingHour)
        [true, false, true, false, true, false]).handed = [(true, 3600), (false, 0)] := by
  decide +kernel

end ScreenSync.Override
