/-
**The audit stream.**

Every conflict that `ingest_event` resolves is written to a capped Redis stream, and
`read_audit_log` reads the newest entries of it. An `XADD` that raises is logged and forgotten; one
that goes through may trim the stream, which never cuts into the newest 10 000 entries.

* `serveAudited` — one call, and what it writes to the stream.
* `conflictOf_held` — the record of a call, from what the register of its device holds: no call is
  decided by priority, and both sides of a conflict are of one device.
* `auditTrail` — the entries that the calls of a run come to, from the calls alone.
* `audit_log_of_run` — what is read is the newest of the trail, which has no entry decided by
  priority or about two devices; where no `XADD` raises, the entries decided by timestamp name the
  refused events one by one.
-/

import ScreenSync.Sync.Expiry

namespace ScreenSync.Sync

open ScreenSync.Foundation ScreenSync.Shared

/-! ### Entries -/

/-- `str(reason)`, which names the member. -/
def ConflictReason.str : ConflictReason → String
  | .timestamp => "ConflictReason.TIMESTAMP"
  | .priority => "ConflictReason.PRIORITY"
  | .uuidTiebreak => "ConflictReason.UUID_TIEBREAK"
  | .forcedSync => "ConflictReason.FORCED_SYNC"

theorem ConflictReason.str_injective : Function.Injective ConflictReason.str := by
  intro first second same
  cases first <;> cases second <;> first | rfl | exact absurd same (by decide)

/-- `str` of a decoded value. -/
structure PyStr where
  text : Json → String
  text_str : ∀ s, text (.str s) = s

/-- The fields of an entry. -/
def auditFields (str : PyStr) (record : ConflictRecord) : Dict String :=
  [("conflict_id", record.conflictId), ("winner_id", str.text record.winnerId),
    ("loser_id", str.text record.loserId), ("winner_device", record.winnerDevice),
    ("loser_device", record.loserDevice), ("reason", record.reason.str),
    ("resolved_at", record.resolvedAt), ("winner_ts", record.winnerTs),
    ("loser_ts", record.loserTs)]

/-- The reason and the loser that an entry shows. -/
theorem auditFields_reason (str : PyStr) (record : ConflictRecord) :
    (auditFields str record).get "reason" = some record.reason.str := by
  simp [auditFields, Dict.get_cons]

theorem auditFields_loser (str : PyStr) (record : ConflictRecord) :
    (auditFields str record).get "loser_id" = some (str.text record.loserId) := by
  simp [auditFields, Dict.get_cons]

def auditStreamMaxlen : Nat := 10000

/-- What becomes of an `XADD` with an approximate `MAXLEN`: it raises, or it adds the entry and
leaves the newest ones, at least as many as the stream is to hold. -/
inductive Xadd
  | raised
  | added (kept : Nat) (enough : auditStreamMaxlen ≤ kept)

/-- `write_audit_log`. The newest entry of the stream comes first. -/
def writeAuditLog (str : PyStr) (stream : List (Dict String)) (record : ConflictRecord) :
    Xadd → List (Dict String)
  | .raised => stream
  | .added kept _ => (auditFields str record :: stream).take kept

/-- `read_audit_log`. The client refuses a count that is not positive. -/
def readAuditLog (stream : List (Dict String)) (count : Int) :
    Except PyError (List (Dict String)) :=
  if count < 1 then .error (.dataError "XREVRANGE count must be a positive integer")
  else .ok (stream.take count.toNat)

/-! ### Calls -/

/-- The record that a call writes. -/
def conflictOf (iso : IsoReader) (state : SyncState) (call : IngestCall) : Option ConflictRecord :=
  if call.acquired then
    match chooseWinner iso (getDeviceSnapshot state call.event.userId call.event.deviceId) call with
    | .ok (_, conflictRecord) => conflictRecord
    | .error _ => none
  else none

/-- A call of `ingest_event` by the clock, and what becomes of its `XADD`. -/
structure AuditedIngest where
  ingest : TimedIngest
  xadd : Xadd

/-- The snapshots, and the audit stream. -/
structure AuditedSync where
  store : TimedSync
  stream : List (Dict String)

def AuditedSync.empty : AuditedSync := ⟨.empty, []⟩

def serveAudited (iso : IsoReader) (str : PyStr) (state : AuditedSync) (op : AuditedIngest) :
    AuditedSync where
  store := serveIngestAt iso state.store op.ingest
  stream :=
    match conflictOf iso (state.store.at op.ingest.readAt) op.ingest.call with
    | none => state.stream
    | some record => writeAuditLog str state.stream record op.xadd

variable {iso : IsoReader} {str : PyStr}

/-- The record is the one that `ingest_event` hands to `write_audit_log`. -/
theorem serveIngestAt_audit (iso : IsoReader) (state : TimedSync) (op : TimedIngest) :
    (serveIngestAt iso state op).audit =
      state.audit ++ (conflictOf iso (state.at op.readAt) op.call).toList := by
  unfold serveIngestAt ingestEvent conflictOf
  by_cases acquired : op.call.acquired = true
  · simp only [if_pos acquired]
    cases chooseWinner iso
        (getDeviceSnapshot (state.at op.readAt) op.call.event.userId op.call.event.deviceId)
        op.call with
    | error raised => exact (List.append_nil _).symm
    | ok chosen => rfl
  · simp only [if_neg acquired]
    exact (List.append_nil _).symm

/-- The snapshots are those of the calls alone. -/
theorem store_run (iso : IsoReader) (str : PyStr) (ops : List AuditedIngest) :
    (run (serveAudited iso str) .empty ops).store =
      run (serveIngestAt iso) .empty (ops.map AuditedIngest.ingest) := by
  induction ops using List.reverseRecOn with
  | nil => rfl
  | append_singleton before op ih =>
    rw [run_concat, List.map_append, List.map_singleton, run_concat, ← ih]
    rfl

/-! ### Who wins, and what is written about it -/

/-- The register takes the call. -/
def Takes (held : Held IngestCall) (call : IngestCall) : Prop :=
  call.event.forced = true ∨ held.last.syncedAt ≤ call.event.timestamp

instance (held : Held IngestCall) (call : IngestCall) : Decidable (Takes held call) :=
  inferInstanceAs (Decidable (_ ∨ _))

/-- The record of a conflict of a call with what is held. -/
def verdict (held : Held IngestCall) (call : IngestCall) : ConflictRecord :=
  if Takes held call then
    { conflictId := call.conflictId
      winnerId := call.event.eventId
      loserId := held.last.event.eventId
      winnerDevice := call.event.deviceId
      loserDevice := call.event.deviceId
      reason := if call.event.forced then .forcedSync else .uuidTiebreak
      resolvedAt := call.resolvedAt.isoformat
      winnerTs := call.event.timestamp.isoformat
      loserTs := held.last.syncedAt.isoformat }
  else
    { conflictId := call.conflictId
      winnerId := held.last.event.eventId
      loserId := call.event.eventId
      winnerDevice := call.event.deviceId
      loserDevice := call.event.deviceId
      reason := .timestamp
      resolvedAt := call.resolvedAt.isoformat
      winnerTs := held.last.syncedAt.isoformat
      loserTs := call.event.timestamp.isoformat }

/-- There is a conflict unless nothing is held or the call is newer. -/
def conflict (register : Option (Held IngestCall)) (call : IngestCall) : Option ConflictRecord :=
  match register with
  | some held =>
    if call.event.timestamp ≤ held.last.syncedAt then some (verdict held call) else none
  | none => none

theorem conflict_some (held : Held IngestCall) (call : IngestCall) :
    conflict (some held) call =
      if call.event.timestamp ≤ held.last.syncedAt then some (verdict held call) else none := rfl

/-- The event id that a snapshot shows is that of the last call. -/
theorem heldSnapshot_eventId (held : Held IngestCall) :
    (heldSnapshot held).get "_event_id" = some held.last.event.eventId := by
  unfold heldSnapshot stampSnapshot
  rw [Dict.get_set_self]

/-- **A call against what is held.** Priorities are never compared: both sides have that of the
call. -/
theorem resolve_held {held : Held IngestCall} {call : IngestCall}
    (stale : call.event.timestamp ≤ held.last.syncedAt) :
    (resolve (stampedEvent held.source.event.payload held.last call.event) call.event
      call.conflictId call.resolvedAt).2 = verdict held call := by
  generalize stamped : stampedEvent held.source.event.payload held.last call.event = existing
  have time : existing.timestamp = held.last.syncedAt := by rw [← stamped]; rfl
  have device : existing.deviceId = call.event.deviceId := by rw [← stamped]; rfl
  have priority : existing.priority = call.event.priority := by rw [← stamped]; rfl
  have unforced : existing.forced = false := by rw [← stamped]; rfl
  have eventId : existing.eventId = held.last.event.eventId := by
    rw [← stamped]
    show ((heldSnapshot held).get "_event_id").getD (.str "") = _
    rw [heldSnapshot_eventId, Option.getD_some]
  unfold resolve verdict
  by_cases forced : call.event.forced = true
  · have picked : pickWinner existing call.event = (.b, .forcedSync) := by
      unfold pickWinner
      rw [if_neg (by simp [unforced]), if_pos ⟨forced, unforced⟩]
    have takes : Takes held call := .inl forced
    rw [picked, if_pos takes, if_pos forced]
    simp only [Pick.winner, Pick.loser, time, device, eventId]
  · have calm : call.event.forced = false := Bool.eq_false_iff.mpr forced
    by_cases tie : call.event.timestamp = held.last.syncedAt
    · have picked : pickWinner existing call.event = (.b, .uuidTiebreak) := by
        unfold pickWinner
        rw [if_neg (by simp [unforced]), if_neg (by simp [calm]),
          if_neg (not_not.mpr (time.trans tie.symm)), if_neg (not_not.mpr priority), device,
          if_neg (String.lt_irrefl _)]
      have takes : Takes held call := .inr tie.ge
      rw [picked, if_pos takes, if_neg forced]
      simp only [Pick.winner, Pick.loser, time, device, eventId]
    · have older : call.event.timestamp < existing.timestamp := by
        rw [time]
        exact lt_of_le_of_ne stale tie
      have picked : pickWinner existing call.event = (.a, .timestamp) := by
        unfold pickWinner
        rw [if_neg (by simp [unforced]), if_neg (by simp [calm]), if_pos older.ne', if_pos older]
      have refused : ¬ Takes held call := by
        rintro (taken | newer)
        · exact forced taken
        · exact absurd newer (not_le.mpr (time ▸ older))
      rw [picked, if_neg refused]
      simp only [Pick.winner, Pick.loser, time, device, eventId]

/-- **The record of a call**, from what the register of its device holds. -/
theorem conflictOf_held {state : SyncState} {call : IngestCall}
    {register : Option (Held IngestCall)} (acquired : call.acquired = true)
    (before : getDeviceSnapshot state call.event.userId call.event.deviceId =
      register.map heldSnapshot) : conflictOf iso state call = conflict register call := by
  unfold conflictOf
  rw [if_pos acquired, before]
  cases register with
  | none => rfl
  | some held =>
    have read := snapshotToEvent_stamped iso held.source.event.payload held.last call.event
    show (match chooseWinner iso
        (some (stampSnapshot held.source.event.payload held.last)) call with
      | .ok (_, conflictRecord) => conflictRecord
      | .error _ => none) = conflict (some held) call
    unfold conflict
    simp only [chooseWinner, read, bind, Except.bind]
    by_cases stale : call.event.timestamp ≤ held.last.syncedAt
    · have needed : needsResolution
          (stampedEvent held.source.event.payload held.last call.event) call.event := stale
      rw [if_pos needed, if_pos stale]
      exact congrArg some (resolve_held stale)
    · have newer : ¬ needsResolution
          (stampedEvent held.source.event.payload held.last call.event) call.event := stale
      rw [if_neg newer, if_neg stale]
      rfl

/-! ### The trail -/

/-- The record that a call comes to, after the calls before it. -/
def recordAfter (past : List TimedIngest) (op : TimedIngest) : Option ConflictRecord :=
  if op.call.acquired then conflict (seen op.readAt (registerOf op.key past)) op.call else none

/-- The entries that calls come to. The latest call comes first, and so does the newest entry. -/
def auditTrail (str : PyStr) : List AuditedIngest → List (Dict String)
  | [] => []
  | op :: past =>
    match op.xadd with
    | .raised => auditTrail str past
    | .added _ _ =>
      ((recordAfter (past.reverse.map AuditedIngest.ingest) op.ingest).map
        (auditFields str)).toList ++ auditTrail str past

/-- The calls whose event is refused, the latest first. -/
def refused : List TimedIngest → List IngestCall
  | [] => []
  | op :: past =>
    match seen op.readAt (registerOf op.key past.reverse) with
    | some held =>
      if op.call.acquired = true ∧ ¬ Takes held op.call then op.call :: refused past
      else refused past
    | none => refused past

/-- Trimming leaves the newest entries alone. -/
theorem take_push {ε : Type*} {log all : List ε} {cap kept : Nat} (enough : cap ≤ kept)
    (same : log.take cap = all.take cap) (entry : ε) :
    ((entry :: log).take kept).take cap = (entry :: all).take cap := by
  rw [List.take_take, Nat.min_eq_left enough]
  cases cap with
  | zero => rfl
  | succ cap =>
    rw [List.take_succ_cons, List.take_succ_cons]
    have shorter := congrArg (List.take cap) same
    rw [List.take_take, List.take_take, Nat.min_eq_left (Nat.le_succ cap)] at shorter
    rw [shorter]

/-- The record that a call writes after a run. -/
theorem conflictOf_run (iso : IsoReader) (past : List TimedIngest) (op : TimedIngest) :
    conflictOf iso ((run (serveIngestAt iso) .empty past).at op.readAt) op.call =
      recordAfter past op := by
  unfold recordAfter
  by_cases acquired : op.call.acquired = true
  · rw [if_pos acquired]
    exact conflictOf_held acquired ((showsRegisters_run iso past).get_at op.readAt op.key)
  · unfold conflictOf
    rw [if_neg acquired, if_neg acquired]

/-- **The stream holds the newest entries of the trail.** -/
theorem stream_run (iso : IsoReader) (str : PyStr) (ops : List AuditedIngest) :
    (run (serveAudited iso str) .empty ops).stream.take auditStreamMaxlen =
      (auditTrail str ops.reverse).take auditStreamMaxlen := by
  induction ops using List.reverseRecOn with
  | nil => rfl
  | append_singleton before op ih =>
    have stored := store_run iso str before
    rw [run_concat, List.reverse_append]
    generalize run (serveAudited iso str) .empty before = state at ih stored ⊢
    show (serveAudited iso str state op).stream.take _ =
      (auditTrail str (op :: before.reverse)).take _
    unfold serveAudited
    rw [auditTrail, List.reverse_reverse, stored, conflictOf_run]
    cases op.xadd with
    | raised =>
      cases recordAfter (before.map AuditedIngest.ingest) op.ingest with
      | none => exact ih
      | some record => exact ih
    | added kept enough =>
      cases recordAfter (before.map AuditedIngest.ingest) op.ingest with
      | none => exact ih
      | some record => exact take_push enough ih (auditFields str record)

/-! ### One device, no priorities -/

/-- An entry that was not decided by priority, and is about one device. -/
def OneDevice (entry : Dict String) : Prop :=
  entry.get "reason" ≠ some ConflictReason.priority.str ∧
    ∃ device, entry.get "winner_device" = some device ∧ entry.get "loser_device" = some device

theorem verdict_oneDevice (str : PyStr) (held : Held IngestCall) (call : IngestCall) :
    OneDevice (auditFields str (verdict held call)) := by
  have unranked : (verdict held call).reason ≠ .priority := by
    unfold verdict
    split
    · dsimp only
      split <;> simp
    · simp
  have sides : (verdict held call).winnerDevice = call.event.deviceId ∧
      (verdict held call).loserDevice = call.event.deviceId := by
    unfold verdict
    split <;> exact ⟨rfl, rfl⟩
  refine ⟨fun same => unranked ?_, call.event.deviceId, ?_, ?_⟩
  · rw [auditFields_reason] at same
    exact ConflictReason.str_injective (Option.some.inj same)
  · simp [auditFields, Dict.get_cons, sides.1]
  · simp [auditFields, Dict.get_cons, sides.2]

theorem conflict_oneDevice {register : Option (Held IngestCall)} {call : IngestCall}
    {record : ConflictRecord} (found : conflict register call = some record) :
    OneDevice (auditFields str record) := by
  cases register with
  | none => cases found
  | some held =>
    rw [conflict_some] at found
    split at found
    · cases found
      exact verdict_oneDevice str held call
    · cases found

/-- **No entry of the trail** was decided by priority or is about two devices. -/
theorem auditTrail_oneDevice (str : PyStr) (past : List AuditedIngest) :
    ∀ entry ∈ auditTrail str past, OneDevice entry := by
  induction past with
  | nil => exact fun _ none => absurd none List.not_mem_nil
  | cons op past ih =>
    intro entry member
    rw [auditTrail] at member
    cases outcome : op.xadd with
    | raised =>
      rw [outcome] at member
      exact ih entry member
    | added kept enough =>
      rw [outcome] at member
      rcases List.mem_append.mp member with newest | older
      · obtain ⟨record, written, rfl⟩ := Option.map_eq_some_iff.mp (Option.mem_toList.mp newest)
        unfold recordAfter at written
        split at written
        · exact conflict_oneDevice written
        · cases written
      · exact ih entry older

/-! ### Refused events -/

/-- The entries that were decided by timestamp. -/
def decidedByTime (entries : List (Dict String)) : List (Dict String) :=
  entries.filter fun entry => entry.get "reason" = some ConflictReason.timestamp.str

theorem decidedByTime_append (first second : List (Dict String)) :
    decidedByTime (first ++ second) = decidedByTime first ++ decidedByTime second :=
  List.filter_append ..

/-- A call that is taken leaves no entry that was decided by timestamp. -/
theorem decidedByTime_taken {held : Held IngestCall} {call : IngestCall} (taken : Takes held call) :
    decidedByTime ((conflict (some held) call).map (auditFields str)).toList = [] := by
  rw [conflict_some]
  by_cases stale : call.event.timestamp ≤ held.last.syncedAt
  · rw [if_pos stale]
    refine List.filter_eq_nil_iff.mpr fun entry member same => ?_
    rw [List.mem_singleton.mp member, decide_eq_true_eq, auditFields_reason, verdict, if_pos taken]
      at same
    dsimp only at same
    split at same <;> exact absurd same (by decide)
  · rw [if_neg stale]
    rfl

/-- A call that is refused leaves one, and is its loser. -/
theorem decidedByTime_refused {held : Held IngestCall} {call : IngestCall}
    (refused : ¬ Takes held call) :
    (decidedByTime ((conflict (some held) call).map (auditFields str)).toList).map
      (fun entry => entry.get "loser_id") = [some (str.text call.event.eventId)] := by
  have stale : call.event.timestamp ≤ held.last.syncedAt :=
    (not_le.mp fun newer => refused (.inr newer)).le
  unfold decidedByTime
  rw [conflict_some, if_pos stale, Option.map_some, Option.toList_some, List.filter_singleton,
    auditFields_reason, verdict, if_neg refused]
  exact congrArg (· :: []) (auditFields_loser str _)

/-- **The entries decided by timestamp name the refused events.** -/
theorem refused_named (str : PyStr) {past : List AuditedIngest}
    (added : ∀ op ∈ past, op.xadd ≠ .raised) :
    (decidedByTime (auditTrail str past)).map (fun entry => entry.get "loser_id") =
      (refused (past.map AuditedIngest.ingest)).map fun call =>
        some (str.text call.event.eventId) := by
  induction past with
  | nil => rfl
  | cons op past ih =>
    have rest := ih fun other inside => added other (List.mem_cons_of_mem _ inside)
    have here := added op List.mem_cons_self
    rw [auditTrail, List.map_cons, refused, ← List.map_reverse]
    cases outcome : op.xadd with
    | raised => exact absurd outcome here
    | added kept enough =>
      dsimp only
      rw [decidedByTime_append, List.map_append, rest]
      unfold recordAfter
      generalize seen op.ingest.readAt (registerOf op.ingest.key _) = register
      by_cases acquired : op.ingest.call.acquired = true
      · rw [if_pos acquired]
        cases register with
        | none => rfl
        | some held =>
          by_cases taken : Takes held op.ingest.call
          · rw [decidedByTime_taken taken]
            dsimp only
            rw [if_neg fun both => both.2 taken]
            rfl
          · rw [decidedByTime_refused taken]
            dsimp only
            rw [if_pos ⟨acquired, taken⟩]
            rfl
      · rw [if_neg acquired]
        cases register with
        | none => rfl
        | some held =>
          dsimp only
          rw [if_neg fun both => acquired both.1]
          rfl

/-- **The audit log of a run** of calls for any users and devices, with snapshots that expire. What
is read are the newest entries of the trail, which the calls alone decide, up to the 10 000 that the
stream is to hold; no entry of it was decided by priority or is about two devices; and where every
`XADD` goes through, the entries decided by timestamp are those of the events that the registers
refused, one for each and in their order. -/
theorem audit_log_of_run (iso : IsoReader) (str : PyStr) (ops : List AuditedIngest) :
    (∀ count : Int, 1 ≤ count → count ≤ auditStreamMaxlen →
      readAuditLog (run (serveAudited iso str) .empty ops).stream count =
        .ok ((auditTrail str ops.reverse).take count.toNat)) ∧
      (∀ entry ∈ auditTrail str ops.reverse, OneDevice entry) ∧
      ((∀ op ∈ ops, op.xadd ≠ .raised) →
        (decidedByTime (auditTrail str ops.reverse)).map (fun entry => entry.get "loser_id") =
          (refused (ops.map AuditedIngest.ingest).reverse).map fun call =>
            some (str.text call.event.eventId)) := by
  refine ⟨fun count positive within => ?_, auditTrail_oneDevice str ops.reverse, fun added => ?_⟩
  · have newest := congrArg (List.take count.toNat) (stream_run iso str ops)
    rw [List.take_take, List.take_take, Nat.min_eq_left (Int.toNat_le.mpr within)] at newest
    rw [readAuditLog, if_neg (not_lt.mpr positive), newest]
  · rw [← List.map_reverse]
    exact refused_named str fun op inside => added op (List.mem_reverse.mp inside)

/-! ### A refused report -/

/-- The texts of the plain values. -/
def PyStr.plain : PyStr where
  text
    | .str s => s
    | .int n => n.repr
    | .bool value => if value then "True" else "False"
    | .null => "None"
    | _ => ""
  text_str _ := rfl

/-- A report, and one that is older than the first one's stamp. -/
def lateReport : List AuditedIngest :=
  [⟨⟨report "rules" 10 20 false, 0, 0⟩, .added auditStreamMaxlen le_rfl⟩,
    ⟨⟨report "chat" 5 30 false, 1, 1⟩, .added auditStreamMaxlen le_rfl⟩]

theorem lateReport_added : ∀ op ∈ lateReport, op.xadd ≠ .raised := by
  have added : Xadd.added auditStreamMaxlen le_rfl ≠ .raised := by
    intro same
    cases same
  unfold lateReport
  simp only [List.forall_mem_cons]
  exact ⟨added, added, fun _ none => absurd none List.not_mem_nil⟩

theorem audit_log_of_run_lateReport :
    readAuditLog (run (serveAudited .strict .plain) .empty lateReport).stream 100 =
        .ok ((auditTrail .plain lateReport.reverse).take 100) ∧
      (∀ entry ∈ auditTrail .plain lateReport.reverse, OneDevice entry) ∧
      (decidedByTime (auditTrail .plain lateReport.reverse)).map
          (fun entry => entry.get "loser_id") =
        (refused (lateReport.map AuditedIngest.ingest).reverse).map fun call =>
          some (PyStr.plain.text call.event.eventId) :=
  ⟨(audit_log_of_run .strict .plain lateReport).1 100 (by decide) (by decide),
    (audit_log_of_run .strict .plain lateReport).2.1,
    (audit_log_of_run .strict .plain lateReport).2.2 lateReport_added⟩

-- The older report is refused.
example : refused (lateReport.map AuditedIngest.ingest).reverse = [report "chat" 5 30 false] := rfl

end ScreenSync.Sync
