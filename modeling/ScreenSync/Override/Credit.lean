/-
**Approved seconds and the budget.**

The override service announces the seconds it approves, and does not write the budget.

* `serveOverride_db` — no call touches the devices or the budgets.
* `creditedSeconds_step` — the seconds approved for a device on a day grow with every approving
  vote on that day, and with nothing else.
* `credit_reaches_budget_iff` — so the budget agrees with what was announced exactly for the
  devices and days without an approval.
-/

import ScreenSync.Override.Cap

namespace ScreenSync.Override

open ScreenSync.Foundation ScreenSync.Shared

variable {Sig : Type}

/-- The seconds of the device's requests that were approved on a day. -/
def creditedSeconds (store : OverrideStore Sig) (deviceId : DeviceId) (day : Date) : Int :=
  secondsWhere store.requests fun r =>
    r.status = .approved ∧ r.deviceId = deviceId ∧ r.resolvedAt.map UtcTime.date = some day

/-- The call is not a vote that approves a request of the device on the day. -/
def NoApproval (deviceId : DeviceId) (day : Date) (store : OverrideStore Sig)
    (call : OverrideCall) : Prop :=
  ∀ vote request results, call = .vote vote → Resolves store vote request results →
    quorumThreshold ≤ yesCount results →
      ¬ (request.deviceId = deviceId ∧ vote.storedAt.date = day)

/-- **No call touches the budgets.** -/
theorem serveOverride_db (hmac : Json → Sig) (store : OverrideStore Sig) (call : OverrideCall) :
    (serveOverride hmac store call).db = store.db := by
  rcases serveOverride_cases hmac store call with ⟨same, -⟩ | ⟨_, _, _, _, _, _, next⟩ |
    ⟨_, _, _, _, _, next⟩
  · rw [same]
  · rw [next]
  · rw [next]

/-- What a resolving vote adds to the credited seconds. -/
theorem creditedSeconds_resolves {hmac : Json → Sig} {store : OverrideStore Sig} {vote : VoteCall}
    {request : OverrideRequest Sig} {results : Dict Bool}
    (resolves : Resolves store vote request results) (deviceId : DeviceId) (day : Date) :
    creditedSeconds (serveOverride hmac store (.vote vote)) deviceId day =
      creditedSeconds store deviceId day +
        if quorumThreshold ≤ yesCount results ∧ request.deviceId = deviceId ∧
            vote.storedAt.date = day then request.requestedSeconds else 0 := by
  have uncounted : ¬ (request.status = .approved ∧ request.deviceId = deviceId ∧
      request.resolvedAt.map UtcTime.date = some day) := by
    simp [resolves.pending]
  rw [serveOverride_resolves resolves, creditedSeconds, creditedSeconds,
    secondsWhere_storeDecision resolves.found uncounted]
  simp only [applyDecision, decisionOn, quorumStatus_eq_approved, ne_eq, quorumStatus_ne_pending,
    not_false_eq_true, if_true, Option.map_some, Option.some.injEq]

/-- **What one call does to the credited seconds.** -/
theorem creditedSeconds_step (hmac : Json → Sig) (store : OverrideStore Sig) (call : OverrideCall)
    (positive : Positive store) (deviceId : DeviceId) (day : Date) :
    creditedSeconds store deviceId day ≤
        creditedSeconds (serveOverride hmac store call) deviceId day ∧
      (creditedSeconds (serveOverride hmac store call) deviceId day =
          creditedSeconds store deviceId day ↔ NoApproval deviceId day store call) := by
  rcases resolves_or_idle store call with ⟨vote, request, results, rfl, resolves⟩ | idle
  · have amount : 0 < request.requestedSeconds :=
      positive request (Table.find_eq_some.mp resolves.found).1
    rw [creditedSeconds_resolves resolves]
    split
    · rename_i counted
      refine ⟨by omega, fun same => by omega, fun none => ?_⟩
      exact absurd counted.2 (none vote request results rfl resolves counted.1)
    · rename_i uncounted
      refine ⟨by omega, fun _ other otherRequest otherResults same others approves both => ?_,
        fun _ => add_zero _⟩
      cases same
      obtain ⟨rfl, rfl⟩ := resolves.unique others
      exact uncounted ⟨approves, both⟩
  · have same : creditedSeconds (serveOverride hmac store call) deviceId day =
        creditedSeconds store deviceId day :=
      secondsWhere_of_not_resolves hmac (by simp +contextual) idle
    rw [same]
    exact ⟨le_rfl, fun _ vote request results isVote resolves => absurd resolves
      (idle vote isVote request results), fun _ => rfl⟩

/-- **When approved time reaches the budget.** For a device with a budget row for the day, the row's
total after a run is its initial total and the seconds approved that day exactly if nothing was
approved for the device that day. -/
theorem credit_reaches_budget_iff (hmac : Json → Sig) (db : Database) (calls : List OverrideCall)
    (deviceId : DeviceId) (day : Date) (row : Budget)
    (found : db.budgets.find (deviceId, day) = some row) :
    (∃ after,
        (run (serveOverride hmac) (.start db) calls).db.budgets.find (deviceId, day) = some after ∧
          after.totalBudgetSeconds = row.totalBudgetSeconds +
            creditedSeconds (run (serveOverride hmac) (.start db) calls) deviceId day) ↔
      Meets (serveOverride hmac) (NoApproval deviceId day) (.start db) calls := by
  have positive : Positive (.start db : OverrideStore Sig) := fun r member => (by cases member)
  have untouched : (run (serveOverride hmac) (.start db) calls).db = db :=
    run_invariant (serveOverride hmac) (fun store call same =>
      (serveOverride_db hmac store call).trans same) rfl calls
  obtain ⟨-, exactly⟩ := run_eq_iff_meets
    (fun store : OverrideStore Sig => creditedSeconds store deviceId day) Positive
    (fun _ call => serveOverride_positive hmac call)
    (fun store call kept => (creditedSeconds_step hmac store call kept deviceId day).1)
    positive calls
  rw [← meets_congr (fun _ call => serveOverride_positive hmac call)
    (fun store call kept => (creditedSeconds_step hmac store call kept deviceId day).2) positive,
    ← exactly, untouched, found]
  have nothing : creditedSeconds (.start db : OverrideStore Sig) deviceId day = 0 := rfl
  constructor
  · rintro ⟨after, same, total⟩
    cases same
    omega
  · intro same
    exact ⟨row, rfl, by omega⟩

theorem credit_reaches_budget_iff_tablet :
    (∃ after,
        (run (serveOverride fun _ => ()) (.start tabletDb)
            [hourRequest "first", .vote (parentApproval "first")]).db.budgets.find
          (tablet.id, someDay) = some after ∧
          after.totalBudgetSeconds = tabletRow.totalBudgetSeconds +
            creditedSeconds (run (serveOverride fun _ => ()) (.start tabletDb)
              [hourRequest "first", .vote (parentApproval "first")]) tablet.id someDay) ↔
      Meets (serveOverride fun _ => ()) (NoApproval tablet.id someDay) (.start tabletDb)
        [hourRequest "first", .vote (parentApproval "first")] :=
  credit_reaches_budget_iff (fun _ => ()) tabletDb
    [hourRequest "first", .vote (parentApproval "first")] tablet.id someDay tabletRow (by decide)

/-- An approved hour that the budget does not get. -/
theorem approved_hour_not_credited :
    tabletDb.budgets.find (tablet.id, someDay) = some tabletRow ∧
      ¬ ∃ after,
        (run (serveOverride fun _ => ()) (.start tabletDb)
            [hourRequest "first", .vote (parentApproval "first")]).db.budgets.find
          (tablet.id, someDay) = some after ∧
          after.totalBudgetSeconds = tabletRow.totalBudgetSeconds +
            creditedSeconds (run (serveOverride fun _ => ()) (.start tabletDb)
              [hourRequest "first", .vote (parentApproval "first")]) tablet.id someDay := by
  refine ⟨by decide, ?_⟩
  rintro ⟨after, found, total⟩
  have same : some after = some tabletRow := found.symm.trans (by decide +kernel)
  cases same
  exact absurd total (by decide +kernel)

end ScreenSync.Override
