/-
**The event id of a snapshot.**

Every ingest stamps the snapshot it writes with the id of the incoming event, also when the payload
that was kept is the old one. The id is read back when the next conflict is recorded.

* `namesSource_iff_latest` — the stored id is that of the event whose payload is stored exactly if
  that event is the last one that was ingested.
* `chooseWinner_record` — what the record of a conflict calls the winner and the loser.
* `provenance_iff` — the stored ids and the records are right throughout a run exactly if no event
  of it loses against the snapshot it finds.
-/

import ScreenSync.Sync.LastWrite

namespace ScreenSync.Sync

open ScreenSync.Foundation ScreenSync.Shared

variable {iso : IsoReader} {userId : UserId} {deviceId : DeviceId} {state : SyncState}
  {calls before after : List IngestCall} {call last old : IngestCall}

/-! ### What the ids should say -/

/-- The `_event_id` of the stored snapshot is the id of the event whose payload is stored. -/
def NamesSource (userId : UserId) (deviceId : DeviceId) (now : Tracked) : Prop :=
  ∀ source snapshot, now.source = some source →
    getDeviceSnapshot now.state userId deviceId = some snapshot →
      snapshot.get "_event_id" = some source.event.eventId

/-- The record names the events that the two compared payloads came with: the one whose payload was
stored, and the incoming one. -/
def NamesEvents (record : ConflictRecord) (old call : IngestCall) (kept : Option IngestCall) :
    Prop :=
  (kept = some call ∧ record.winnerId = call.event.eventId ∧ record.loserId = old.event.eventId) ∨
    (kept = some old ∧ record.winnerId = old.event.eventId ∧ record.loserId = call.event.eventId)

/-- Every record that a call of the run appends names the two events. -/
def RecordsName (iso : IsoReader) (state : SyncState) (calls : List IngestCall) : Prop :=
  ∀ before call after, calls = before ++ call :: after →
    ∀ old record, (tracked iso state before).source = some old →
      (tracked iso state (before ++ [call])).state.audit =
          (tracked iso state before).state.audit ++ [record] →
        NamesEvents record old call (tracked iso state (before ++ [call])).source

/-! ### The stamp -/

@[simp] theorem stampSnapshot_get_eventId (payload : Dict Json) (call : IngestCall) :
    (stampSnapshot payload call).get "_event_id" = some call.event.eventId := by
  rw [stampSnapshot, Dict.get_set_self]

/-- **The stored id is right exactly if the stored event is the last one**, when no two events of
the run share an id. -/
theorem namesSource_iff_latest (fresh : getDeviceSnapshot state userId deviceId = none)
    (own : ∀ call ∈ calls, ForDevice userId deviceId call)
    (distinct : (calls.map fun call => call.event.eventId).Nodup) :
    NamesSource userId deviceId (tracked iso state calls) ↔ Timing.Latest (timing.after calls) := by
  have shows := tracked_shows iso fresh calls own
  unfold NamesSource Timing.Latest
  rw [shows.source, shows.snapshot]
  cases found : timing.after calls with
  | none => simp
  | some held =>
    obtain ⟨inside, lastInside⟩ := Timing.after_mem found
    constructor
    · rintro named other same
      cases same
      have ids := named _ _ rfl rfl
      rw [heldSnapshot, stampSnapshot_get_eventId] at ids
      exact List.inj_on_of_nodup_map distinct inside lastInside (Option.some.inj ids).symm
    · intro latest source snapshot kept stored
      cases kept
      cases stored
      rw [heldSnapshot, stampSnapshot_get_eventId, ← latest held rfl]

/-! ### The record -/

/-- **What a record says** of a conflict with a stamped snapshot: the snapshot goes by the id of the
call that stamped it. -/
theorem chooseWinner_record {payload : Dict Json} {pick : Pick} {record : ConflictRecord}
    (chosen : chooseWinner iso (some (stampSnapshot payload last)) call = .ok (pick, some record)) :
    record.winnerId = (match pick with | .a => last | .b => call).event.eventId ∧
      record.loserId = (match pick with | .a => call | .b => last).event.eventId := by
  have stored : (stampedEvent payload last call.event).eventId = last.event.eventId := by
    rw [stampedEvent, stampSnapshot_get_eventId]
    rfl
  simp only [chooseWinner, snapshotToEvent_stamped, bind, Except.bind] at chosen
  split at chosen
  · cases chosen
    simp only [resolve]
    cases (pickWinner (stampedEvent payload last call.event) call.event).1 with
    | a => exact ⟨stored, rfl⟩
    | b => exact ⟨rfl, stored⟩
  · cases chosen

/-- The audit log after a call whose winner is known. -/
theorem track_audit {now : Tracked} {pick : Pick} {logged : Option ConflictRecord}
    (acquired : call.acquired = true)
    (chosen :
      chooseWinner iso (getDeviceSnapshot now.state call.event.userId call.event.deviceId) call =
        .ok (pick, logged)) :
    (track iso now call).state.audit = now.state.audit ++ logged.toList := by
  simp only [track, serveIngest, ingestEvent, acquired, if_true, chosen, bind, Except.bind, pure,
    Except.pure, writeSnapshot]

/-- **A record made while the stored id is right** names the two events. -/
theorem namesEvents_of_latest (fresh : getDeviceSnapshot state userId deviceId = none)
    (own : ∀ mine ∈ before ++ [call], ForDevice userId deviceId mine)
    (latest : Timing.Latest (timing.after before))
    (source : (tracked iso state before).source = some old) {record : ConflictRecord}
    (logged : (tracked iso state (before ++ [call])).state.audit =
      (tracked iso state before).state.audit ++ [record]) :
    NamesEvents record old call (tracked iso state (before ++ [call])).source := by
  obtain ⟨rfl, rfl, acquired⟩ := own call (by simp)
  have shows := tracked_shows iso fresh before fun other member =>
    own other (List.mem_append_left _ member)
  rw [shows.source, Option.map_eq_some_iff] at source
  obtain ⟨held, found, rfl⟩ := source
  obtain ⟨pick, entry, chosen⟩ : ∃ pick entry, chooseWinner iso
      (some (stampSnapshot held.source.event.payload held.last)) call = .ok (pick, entry) :=
    ⟨_, chooseWinner_stamped iso held.source.event.payload held.last call⟩
  have stored := shows.snapshot
  rw [found] at stored
  rw [show some (stampSnapshot held.source.event.payload held.last) = _ from stored.symm] at chosen
  have kept := (track_of_choice acquired chosen).1
  have audit := track_audit acquired chosen
  have onlyCall : tracked iso state (before ++ [call]) =
      track iso (tracked iso state before) call :=
    run_concat ..
  rw [onlyCall] at logged ⊢
  rw [audit, List.append_cancel_left_eq] at logged
  cases entry with
  | none => cases logged
  | some other =>
    cases logged
    rw [stored] at chosen
    obtain ⟨winner, loser⟩ := chooseWinner_record chosen
    rw [← latest held found] at winner loser
    rw [NamesEvents, kept, shows.source, found]
    cases pick with
    | a => exact .inr ⟨rfl, winner, loser⟩
    | b => exact .inl ⟨rfl, winner, loser⟩

/-! ### Whole runs -/

/-- **Exactly when snapshots and records name the right events.** Throughout a run of events with
different ids the stored `_event_id` is that of the event whose payload is stored, and every record
of a conflict names the two events, exactly if every event after the first is forced or was recorded
no earlier than the server's clock stood at the ingest ahead of it. -/
theorem provenance_iff (iso : IsoReader) (userId : UserId) (deviceId : DeviceId)
    (state : SyncState) (calls : List IngestCall)
    (fresh : getDeviceSnapshot state userId deviceId = none)
    (own : ∀ call ∈ calls, ForDevice userId deviceId call)
    (distinct : (calls.map fun call => call.event.eventId).Nodup) :
    (Throughout (track iso) (NamesSource userId deviceId) ⟨state, none⟩ calls ∧
        RecordsName iso state calls) ↔
      List.IsChain (fun ahead later => later.event.forced = true ∨
        ahead.syncedAt ≤ later.event.timestamp) calls := by
  have named : Throughout (track iso) (NamesSource userId deviceId) ⟨state, none⟩ calls ↔
      Throughout timing.offer Timing.Latest none calls := by
    refine forall_congr' fun before => forall_congr' fun after => forall_congr' fun split => ?_
    subst split
    rw [List.map_append] at distinct
    exact namesSource_iff_latest fresh (fun call member => own call (List.mem_append_left _ member))
      distinct.of_append_left
  have chain : Throughout timing.offer Timing.Latest none calls ↔
      List.IsChain (fun ahead later => later.event.forced = true ∨
        ahead.syncedAt ≤ later.event.timestamp) calls :=
    Timing.latest_iff (distinct.of_map _)
  constructor
  · intro both
    exact chain.mp (named.mp both.1)
  · intro accepted
    refine ⟨named.mpr (chain.mpr accepted), ?_⟩
    rintro before call after rfl old record source logged
    have latest : Timing.Latest (timing.after before) := chain.mpr accepted before _ rfl
    refine namesEvents_of_latest fresh (fun mine member => own mine ?_) latest source logged
    rw [← List.singleton_append, ← List.append_assoc]
    exact List.mem_append_left _ member

theorem provenance_iff_tablet :
    (Throughout (track .strict) (NamesSource "family" "tablet") ⟨⟨[], []⟩, none⟩ lateReports ∧
        RecordsName .strict ⟨[], []⟩ lateReports) ↔
      List.IsChain (fun ahead later => later.event.forced = true ∨
        ahead.syncedAt ≤ later.event.timestamp) lateReports :=
  provenance_iff .strict "family" "tablet" ⟨[], []⟩ lateReports rfl lateReports_forDevice
    (by simp [lateReports, report])

/-- The old payload is kept, under the id of the event that lost. -/
theorem kept_under_another_id :
    (∀ call ∈ lateReports, ForDevice "family" "tablet" call) ∧
      (lateReports.map fun call => call.event.eventId).Nodup ∧
        ¬ NamesSource "family" "tablet" (tracked .strict ⟨[], []⟩ lateReports) := by
  have distinct : (lateReports.map fun call => call.event.eventId).Nodup := by
    simp [lateReports, report]
  refine ⟨lateReports_forDevice, distinct, fun named => ?_⟩
  have dropped : timing.after lateReports =
      some ⟨report "chess" 0 10 false, report "chat" 5 11 false⟩ :=
    Timing.offer_source_of_not (by decide)
  have fresh : getDeviceSnapshot ⟨[], []⟩ "family" "tablet" = none := rfl
  have latest := (namesSource_iff_latest fresh lateReports_forDevice distinct).mp named
  have same : report "chess" 0 10 false = report "chat" 5 11 false := latest _ dropped
  exact absurd (congrArg (fun call => call.event.timestamp) same) (by decide)

end ScreenSync.Sync
