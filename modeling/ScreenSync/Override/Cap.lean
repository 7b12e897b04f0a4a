/-
**The daily override cap.**

`create_override_request` checks the cap against the requests that are approved already; a vote,
which is what approves a request, checks nothing. Any number of requests may be pending at once.

* `capRespected_step` — exactly when a call keeps the cap: unless it is a vote that approves a
  request for which nothing is left of the cap.
* `capRespected_iff` — the same for whole runs, by `throughout_iff_meets`.
* `daily_cap_exceeded` — three pending requests of an hour, all approved.
-/

import ScreenSync.Override.Quorum

namespace ScreenSync.Override

open ScreenSync.Foundation ScreenSync.Shared

variable {Sig : Type}

/-- The approved seconds of a device, for the day they were requested on. -/
def approvedSeconds (store : OverrideStore Sig) (deviceId : DeviceId) (day : Date) : Int :=
  secondsWhere store.requests fun r =>
    r.status = .approved ∧ r.deviceId = deviceId ∧ r.requestedAt.date = day

/-- No device has more than the cap approved for a day. -/
def CapRespected (store : OverrideStore Sig) : Prop :=
  ∀ deviceId day, approvedSeconds store deviceId day ≤ dailyOverrideCapSeconds

/-- If the call is a vote on a pending request, and two of its validators pass, then the request
still fits under the cap of its day. -/
def WithinCap (store : OverrideStore Sig) (call : OverrideCall) : Prop :=
  ∀ vote request results, call = .vote vote → Resolves store vote request results →
    quorumThreshold ≤ yesCount results →
      approvedSeconds store request.deviceId request.requestedAt.date + request.requestedSeconds ≤
        dailyOverrideCapSeconds

/-- What a resolving vote adds to the approved seconds. -/
theorem approvedSeconds_resolves {hmac : Json → Sig} {store : OverrideStore Sig} {vote : VoteCall}
    {request : OverrideRequest Sig} {results : Dict Bool}
    (resolves : Resolves store vote request results) (deviceId : DeviceId) (day : Date) :
    approvedSeconds (serveOverride hmac store (.vote vote)) deviceId day =
      approvedSeconds store deviceId day +
        if quorumThreshold ≤ yesCount results ∧ request.deviceId = deviceId ∧
            request.requestedAt.date = day then request.requestedSeconds else 0 := by
  have uncounted : ¬ (request.status = .approved ∧ request.deviceId = deviceId ∧
      request.requestedAt.date = day) := by
    simp [resolves.pending]
  rw [serveOverride_resolves resolves, approvedSeconds, approvedSeconds,
    secondsWhere_storeDecision resolves.found uncounted]
  simp only [applyDecision, decisionOn, quorumStatus_eq_approved]

/-- **Exactly when a call keeps the cap.** -/
theorem capRespected_step (hmac : Json → Sig) (store : OverrideStore Sig) (call : OverrideCall)
    (respected : CapRespected store) :
    CapRespected (serveOverride hmac store call) ↔ WithinCap store call := by
  constructor
  · rintro next vote request results rfl resolves approves
    have fits := next request.deviceId request.requestedAt.date
    rw [approvedSeconds_resolves resolves, if_pos ⟨approves, rfl, rfl⟩] at fits
    exact fits
  · intro within deviceId day
    rcases resolves_or_idle store call with ⟨vote, request, results, rfl, resolves⟩ | idle
    · rw [approvedSeconds_resolves resolves]
      split
      · rename_i counted
        obtain ⟨approves, rfl, rfl⟩ := counted
        exact within vote request results rfl resolves approves
      · rw [add_zero]
        exact respected deviceId day
    · rw [approvedSeconds, secondsWhere_of_not_resolves hmac (by simp +contextual) idle]
      exact respected deviceId day

theorem capRespected_start (db : Database) : CapRespected (.start db : OverrideStore Sig) :=
  fun _ _ => show (0 : Int) ≤ 7200 by decide

/-- **The daily cap holds in every state a run reaches** exactly if every vote that approves a
request finds room for it under the cap of its day. -/
theorem capRespected_iff (hmac : Json → Sig) (db : Database) (calls : List OverrideCall) :
    Throughout (serveOverride hmac) CapRespected (.start db) calls ↔
      Meets (serveOverride hmac) WithinCap (.start db) calls :=
  throughout_iff_meets (fun _ => True) (fun _ _ _ => trivial)
    (fun store call _ respected => capRespected_step hmac store call respected) trivial
    (capRespected_start db) calls

/-! ### Three requests of an hour -/

def hourRequest (id : String) : OverrideCall :=
  .create
    { deviceId := tablet.id
      requestedSeconds := 3600
      checkedAt := someTime 12 0
      id
      insertedAt := someTime 12 0 }

/-- The parent's approval, during permitted hours; the cached budget has a second left. -/
def parentApproval (overrideId : String) : VoteCall where
  overrideId := overrideId
  voter := .parent
  approve := true
  localTime := timeOfDay 12 30
  patternAt := someTime 12 30
  cachedBudget := some [("total_budget_seconds", .int 7200), ("used_seconds", .int 7199)]
  evaluatedAt := someTime 12 30
  storedAt := someTime 12 30
  publishedAt := someTime 12 30
  metaUserId := some tablet.userId

/-- Three requests of an hour are admitted while none is approved, and then all approved. -/
theorem daily_cap_exceeded :
    ¬ CapRespected (run (serveOverride fun _ => ()) (.start tabletDb)
      [hourRequest "first", hourRequest "second", hourRequest "third",
        .vote (parentApproval "first"), .vote (parentApproval "second"),
        .vote (parentApproval "third")]) := by
  intro respected
  exact absurd (respected tablet.id someDay) (by decide +kernel)

end ScreenSync.Override
