/-
**The fast path and the resolver.**

`ingest_event` asks the resolver only if the incoming event is not strictly newer than the snapshot.
The event a snapshot is read back as is unforced and takes device and priority from the incoming
one, so of the resolver's four rules only the forced flag and the timestamps can tell the two apart,
and a newer event wins by both.

* `resolver_would_pick` — the pick of the resolver, for any snapshot that can be compared.
* `fast_path_agrees` — whichever way a call takes, it stores the payload of that pick.
-/

import ScreenSync.Sync.LastWrite

namespace ScreenSync.Sync

open ScreenSync.Foundation ScreenSync.Shared

variable {iso : IsoReader} {snapshot : Dict Json} {existing : DeviceEvent} {call : IngestCall}

/-- **The resolver's pick** between a snapshot and an event does not depend on the id it draws or
the clock. -/
theorem resolver_would_pick (comparable : snapshotToEvent iso snapshot call.event = .ok existing)
    (conflictId : String) (now : UtcTime) :
    (resolve existing call.event conflictId now).1 =
      if call.event.forced = true ∨ existing.timestamp ≤ call.event.timestamp then .b else .a :=
  (snapshotToEvent_ok comparable).resolve conflictId now

/-- The payload that is kept is that of the winning event. -/
theorem winnerPayload_eq (comparable : snapshotToEvent iso snapshot call.event = .ok existing)
    (pick : Pick) :
    winnerPayload (some snapshot) pick call = (pick.winner existing call.event).payload := by
  cases pick with
  | a => exact (snapshotToEvent_ok comparable).payload.symm
  | b => rfl

/-- **The fast path agrees with the resolver.** Whatever snapshot there is, if it can be compared
with the event, the call stores the payload of the event that `resolve` picks, under its stamps; and
the incoming event is the one exactly if it is forced or not older than the snapshot. -/
theorem fast_path_agrees (iso : IsoReader) (state : SyncState) (call : IngestCall)
    (snapshot : Dict Json) (existing : DeviceEvent) (acquired : call.acquired = true)
    (stored : getDeviceSnapshot state call.event.userId call.event.deviceId = some snapshot)
    (comparable : snapshotToEvent iso snapshot call.event = .ok existing) :
    ∃ pick record sent next, chooseWinner iso (some snapshot) call = .ok (pick, record) ∧
      ingestEvent iso state call = .ok (sent, next) ∧
      (∀ conflictId now, (resolve existing call.event conflictId now).1 = pick) ∧
      getDeviceSnapshot next call.event.userId call.event.deviceId =
        some (stampSnapshot (pick.winner existing call.event).payload call) ∧
      (pick = .b ↔
        call.event.forced = true ∨ existing.timestamp ≤ call.event.timestamp) := by
  obtain ⟨record, chosen⟩ := chooseWinner_rehydrated comparable
  have choice := chosen
  rw [← stored] at choice
  obtain ⟨sent, next, served, written⟩ := ingestEvent_of_choice acquired choice
  rw [stored, winnerPayload_eq comparable] at written
  refine ⟨_, record, sent, next, chosen, served, resolver_would_pick comparable, written, ?_⟩
  by_cases newer : call.event.forced = true ∨ existing.timestamp ≤ call.event.timestamp
  · rw [if_pos newer]
    exact iff_of_true rfl newer
  · rw [if_neg newer]
    exact iff_of_false (by decide) newer

/-- The tablet's first report, stored at ten past nine. -/
def stampedReport : Dict Json :=
  stampSnapshot (report "chess" 0 10 false).event.payload (report "chess" 0 10 false)

/-- What it is read back as. -/
def rehydratedReport : DeviceEvent :=
  stampedEvent (report "chess" 0 10 false).event.payload (report "chess" 0 10 false)
    (report "chat" 5 11 false).event

theorem stampedReport_comparable :
    snapshotToEvent .strict stampedReport (report "chat" 5 11 false).event =
      .ok rehydratedReport := snapshotToEvent_stamped ..

-- A report of five past nine goes to the resolver.
example : needsResolution rehydratedReport (report "chat" 5 11 false).event := by decide

/-- It loses, and the stored payload stays. -/
theorem fast_path_agrees_late :
    ∃ pick record sent next,
      chooseWinner .strict (some stampedReport) (report "chat" 5 11 false) = .ok (pick, record) ∧
      ingestEvent .strict ⟨[(stateKey "family" "tablet", stampedReport)], []⟩
        (report "chat" 5 11 false) = .ok (sent, next) ∧
      (∀ conflictId now,
        (resolve rehydratedReport (report "chat" 5 11 false).event conflictId now).1 = pick) ∧
      getDeviceSnapshot next "family" "tablet" =
        some (stampSnapshot
          (pick.winner rehydratedReport (report "chat" 5 11 false).event).payload
          (report "chat" 5 11 false)) ∧
      (pick = .b ↔ (report "chat" 5 11 false).event.forced = true ∨
        rehydratedReport.timestamp ≤ (report "chat" 5 11 false).event.timestamp) :=
  fast_path_agrees .strict ⟨[(stateKey "family" "tablet", stampedReport)], []⟩
    (report "chat" 5 11 false) stampedReport rehydratedReport rfl
    (by simp [getDeviceSnapshot, Dict.get, report, tablet]) stampedReport_comparable

end ScreenSync.Sync
