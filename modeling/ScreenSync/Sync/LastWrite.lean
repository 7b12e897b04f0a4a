/-
**Last write wins, over whole runs of one device.**

The calls of a run are for one device, which starts without a snapshot, and each acquires the
lock.

* `stored_timestamp_mono` — the payload that is stored never gets older: every event is recorded
  before the server stamps it, and is compared with the latest stamp.
* `storesFresh_iff` — an event that is newer than the one whose payload is stored may still be
  dropped: it is compared with the time the server last wrote the snapshot, not with the device's
  own clock.
* `forced_stored_iff` — a forced event is kept until a client event comes that is not older than
  the last write; the forced flag is not stored.
-/

import ScreenSync.Shared.Database
import ScreenSync.Sync.Ingest

namespace ScreenSync.Sync

open ScreenSync.Foundation ScreenSync.Shared

variable {iso : IsoReader} {userId : UserId} {deviceId : DeviceId} {state : SyncState}
  {calls before after : List IngestCall} {call last old : IngestCall}

/-! ### One step of a run -/

/-- **One more call**: what the register holds before it and after it. -/
theorem tracked_concat (fresh : getDeviceSnapshot state userId deviceId = none)
    (own : ∀ mine ∈ before ++ [call], ForDevice userId deviceId mine)
    (source : (tracked iso state before).source = some old) :
    ∃ held next, timing.after before = some held ∧ held.source = old ∧
      timing.offer (some held) call = some next ∧
      (tracked iso state (before ++ [call])).source = some next.source ∧
      getDeviceSnapshot (tracked iso state (before ++ [call])).state userId deviceId =
        some (stampSnapshot next.source.event.payload call) := by
  have earlier := tracked_shows iso fresh before fun other member =>
    own other (List.mem_append_left _ member)
  have now := tracked_shows iso fresh (before ++ [call]) own
  rw [earlier.source, Option.map_eq_some_iff] at source
  obtain ⟨held, found, rfl⟩ := source
  obtain ⟨next, offered⟩ := timing.after_concat_some before call
  rw [offered] at now
  rw [Timing.after_concat, found] at offered
  exact ⟨held, ⟨next, call⟩, found, rfl, offered, now.source, now.snapshot⟩

/-! ### Reports of one tablet -/

/-- A report that is recorded and ingested at some minutes after nine. -/
def report (app : String) (recorded synced : Fin 60) (forced : Bool) : IngestCall where
  event :=
    { deviceId := tablet.id
      userId := tablet.userId
      priority := tablet.priority
      timestamp := someTime 9 recorded
      payload := [("app", .str app)]
      forced
      eventId := .str app }
  acquired := true
  conflictId := "conflict"
  resolvedAt := someTime 9 synced
  syncedAt := someTime 9 synced
  broadcastAt := someTime 9 synced

theorem report_forDevice (app : String) (recorded synced : Fin 60) (forced : Bool) :
    ForDevice "family" "tablet" (report app recorded synced forced) :=
  ⟨rfl, rfl, rfl⟩

theorem tablet_shows {calls : List IngestCall}
    (own : ∀ call ∈ calls, ForDevice "family" "tablet" call) :
    Shows "family" "tablet" (tracked .strict ⟨[], []⟩ calls) (timing.after calls) :=
  tracked_shows .strict rfl calls own

/-- Two reports, the second recorded before the first was ingested. -/
def lateReports : List IngestCall := [report "chess" 0 10 false, report "chat" 5 11 false]

theorem firstReport_source : (tracked .strict ⟨[], []⟩ [report "chess" 0 10 false]).source =
    some (report "chess" 0 10 false) :=
  (tablet_shows (by simp [report_forDevice])).source

/-- A forced report, and a client's later one. -/
def forcedReports : List IngestCall := [report "rules" 10 20 true, report "chat" 30 40 false]

theorem lateReports_forDevice : ∀ call ∈ lateReports, ForDevice "family" "tablet" call := by
  simp [lateReports, report_forDevice]

theorem forcedReports_forDevice : ∀ call ∈ forcedReports, ForDevice "family" "tablet" call := by
  simp [forcedReports, report_forDevice]

/-! ### No stale overwrite -/

/-- **No stale overwrite.** Over unforced calls, stamped in order and for events recorded no later
than they are stamped, the timestamp of the event whose payload is stored never decreases. -/
theorem stored_timestamp_mono (iso : IsoReader) (userId : UserId) (deviceId : DeviceId)
    (state : SyncState) (calls : List IngestCall)
    (fresh : getDeviceSnapshot state userId deviceId = none)
    (own : ∀ call ∈ calls, ForDevice userId deviceId call)
    (unforced : ∀ call ∈ calls, call.event.forced = false)
    (clock : (calls.map IngestCall.syncedAt).Pairwise (· ≤ ·))
    (recorded : ∀ call ∈ calls, call.event.timestamp ≤ call.syncedAt) :
    ∀ before call after, calls = before ++ call :: after →
      ∀ old, (tracked iso state before).source = some old →
        ∃ new, (tracked iso state (before ++ [call])).source = some new ∧
          old.event.timestamp ≤ new.event.timestamp ∧
          getDeviceSnapshot (tracked iso state (before ++ [call])).state userId deviceId =
            some (stampSnapshot new.event.payload call) := by
  rintro before call after rfl old source
  rw [← List.singleton_append, ← List.append_assoc] at own unforced clock recorded
  have ownFirst := (List.forall_mem_append.mp own).1
  have unforcedCall := (List.forall_mem_append.mp unforced).1 call (by simp)
  rw [List.map_append, List.map_append, List.pairwise_append, List.pairwise_append] at clock
  have recordedFirst := (List.forall_mem_append.mp (List.forall_mem_append.mp recorded).1).1
  obtain ⟨held, next, found, rfl, offered, kept, written⟩ := tracked_concat fresh ownFirst source
  have sound : timing.Sound (timing.after before) := Timing.sound_run clock.1.1 recordedFirst
  rw [found] at sound
  exact ⟨next.source, kept, Timing.time_mono sound unforcedCall offered, written⟩

theorem stored_timestamp_mono_tablet :
    ∃ new, (tracked .strict ⟨[], []⟩ lateReports).source = some new ∧
      someTime 9 0 ≤ new.event.timestamp ∧
      getDeviceSnapshot (tracked .strict ⟨[], []⟩ lateReports).state "family" "tablet" =
        some (stampSnapshot new.event.payload (report "chat" 5 11 false)) :=
  stored_timestamp_mono .strict "family" "tablet" ⟨[], []⟩ lateReports rfl lateReports_forDevice
    (by decide) (by decide) (by decide) [report "chess" 0 10 false] (report "chat" 5 11 false) []
    rfl (report "chess" 0 10 false) firstReport_source

/-! ### Fresh events that are dropped -/

/-- Every event that is newer than the one whose payload is stored becomes the stored payload. -/
def StoresFresh (iso : IsoReader) (state : SyncState) (calls : List IngestCall) : Prop :=
  ∀ before call after, calls = before ++ call :: after →
    ∀ old, (tracked iso state before).source = some old →
      old.event.timestamp < call.event.timestamp →
        (tracked iso state (before ++ [call])).source = some call

/-- Every event that is newer than the one whose payload is stored was recorded no earlier than the
server's clock stood at the ingest before it. -/
def FreshAfterSync (iso : IsoReader) (state : SyncState) (calls : List IngestCall) : Prop :=
  ∀ before last call after, calls = before ++ last :: call :: after →
    ∀ old, (tracked iso state (before ++ [last])).source = some old →
      old.event.timestamp < call.event.timestamp → last.syncedAt ≤ call.event.timestamp

/-- The register's last offer is the last call. -/
theorem after_last {held : Held IngestCall}
    (found : timing.after (before ++ [last]) = some held) : held.last = last := by
  obtain ⟨source, kept⟩ := timing.after_concat_some before last
  cases found.symm.trans kept
  rfl

/-- **Exactly when no fresh event is dropped.** -/
theorem storesFresh_iff (iso : IsoReader) (userId : UserId) (deviceId : DeviceId)
    (state : SyncState) (calls : List IngestCall)
    (fresh : getDeviceSnapshot state userId deviceId = none)
    (own : ∀ call ∈ calls, ForDevice userId deviceId call)
    (unforced : ∀ call ∈ calls, call.event.forced = false) :
    StoresFresh iso state calls ↔ FreshAfterSync iso state calls := by
  have step : ∀ before last call after, calls = before ++ last :: call :: after →
      ∀ old, (tracked iso state (before ++ [last])).source = some old →
        old.event.timestamp < call.event.timestamp →
          ((tracked iso state (before ++ [last] ++ [call])).source = some call ↔
            last.syncedAt ≤ call.event.timestamp) := by
    rintro before last call after rfl old source newer
    rw [show before ++ last :: call :: after = before ++ [last] ++ [call] ++ after by simp]
      at own unforced
    obtain ⟨held, next, found, rfl, offered, kept, -⟩ :=
      tracked_concat fresh (List.forall_mem_append.mp own).1 source
    have unforcedCall := (List.forall_mem_append.mp unforced).1 call (by simp)
    rw [kept, Option.some.injEq, ← after_last found]
    exact Timing.fresh_source_iff unforcedCall newer offered
  constructor
  · intro stores before last call after split old source newer
    refine (step before last call after split old source newer).mp ?_
    exact stores (before ++ [last]) call after (by rw [split]; simp) old source newer
  · intro late before call after split old source newer
    cases before using List.reverseRecOn with
    | nil => cases source
    | append_singleton earlier last =>
      have split' : calls = earlier ++ last :: call :: after := by rw [split]; simp
      exact (step earlier last call after split' old source newer).mpr
        (late earlier last call after split' old source newer)

theorem storesFresh_iff_tablet :
    StoresFresh .strict ⟨[], []⟩ lateReports ↔ FreshAfterSync .strict ⟨[], []⟩ lateReports :=
  storesFresh_iff .strict "family" "tablet" ⟨[], []⟩ lateReports rfl lateReports_forDevice
    (by decide)

/-- A report of 9:05 is dropped in favour of one of 9:00 that was ingested at 9:10. -/
theorem fresh_report_dropped :
    (∀ call ∈ lateReports, ForDevice "family" "tablet" call ∧ call.event.forced = false ∧
        call.event.timestamp ≤ call.syncedAt) ∧
      (lateReports.map IngestCall.syncedAt).Pairwise (· ≤ ·) ∧
        ¬ StoresFresh .strict ⟨[], []⟩ lateReports := by
  refine ⟨fun call member => ⟨lateReports_forDevice call member, ?_⟩, by decide, fun stores => ?_⟩
  · revert call
    decide
  · have dropped : timing.after lateReports =
        some ⟨report "chess" 0 10 false, report "chat" 5 11 false⟩ :=
      Timing.offer_source_of_not (by decide)
    have stored := (tablet_shows lateReports_forDevice).source
    rw [dropped] at stored
    have kept := stores [report "chess" 0 10 false] (report "chat" 5 11 false) [] rfl _
      firstReport_source (by decide)
    have same : report "chess" 0 10 false = report "chat" 5 11 false :=
      Option.some.inj (stored.symm.trans kept)
    exact absurd (congrArg (fun call => call.event.timestamp) same) (by decide)

/-! ### Forced events -/

/-- **Exactly when a forced event is still stored.** In a run with a forced event, the stored
payload is that of a forced one exactly if, after the last of them, every client event was
recorded before the server's clock stood at the ingest ahead of it. -/
theorem forced_stored_iff (iso : IsoReader) (userId : UserId) (deviceId : DeviceId)
    (state : SyncState) (calls : List IngestCall)
    (fresh : getDeviceSnapshot state userId deviceId = none)
    (own : ∀ call ∈ calls, ForDevice userId deviceId call)
    (someForced : ∃ call ∈ calls, call.event.forced = true) :
    (∃ new, (tracked iso state calls).source = some new ∧ new.event.forced = true) ↔
      ∀ before call after, calls = before ++ call :: after → call.event.forced = true →
        (∀ later ∈ after, later.event.forced = false) →
          List.IsChain (fun ahead later => later.event.timestamp < ahead.syncedAt)
            (call :: after) := by
  have stored : (∃ new, (tracked iso state calls).source = some new ∧ new.event.forced = true) ↔
      ∃ final, timing.after calls = some final ∧ timing.forced final.source = true := by
    rw [(tracked_shows iso fresh calls own).source]
    cases timing.after calls <;> simp [timing]
  rw [stored]
  constructor
  · rintro kept before call after rfl forced clients
    have isForced : timing.forced call = true := forced
    exact (Timing.forced_source_iff isForced clients).mp kept
  · intro stale
    have isForced : ∃ call ∈ calls, timing.forced call = true := someForced
    obtain ⟨before, call, after, rfl, forced, clients⟩ := Timing.exists_last_forced isForced
    exact (Timing.forced_source_iff forced clients).mpr
      (stale before call after rfl forced clients)

theorem forced_stored_iff_tablet :
    (∃ new, (tracked .strict ⟨[], []⟩ forcedReports).source = some new ∧
        new.event.forced = true) ↔
      ∀ before call after, forcedReports = before ++ call :: after → call.event.forced = true →
        (∀ later ∈ after, later.event.forced = false) →
          List.IsChain (fun ahead later => later.event.timestamp < ahead.syncedAt)
            (call :: after) :=
  forced_stored_iff .strict "family" "tablet" ⟨[], []⟩ forcedReports rfl forcedReports_forDevice
    ⟨_, List.mem_cons_self, rfl⟩

/-- A later report of the client displaces the forced one. -/
theorem forced_report_displaced :
    (∀ call ∈ forcedReports, ForDevice "family" "tablet" call) ∧
      (∃ call ∈ forcedReports, call.event.forced = true) ∧
        ¬ ∃ new, (tracked .strict ⟨[], []⟩ forcedReports).source = some new ∧
          new.event.forced = true := by
  refine ⟨forcedReports_forDevice, ⟨_, List.mem_cons_self, rfl⟩, ?_⟩
  rintro ⟨new, source, forced⟩
  have displaced : timing.after forcedReports =
      some ⟨report "chat" 30 40 false, report "chat" 30 40 false⟩ :=
    Timing.offer_source (by decide)
  rw [(tablet_shows forcedReports_forDevice).source, displaced] at source
  cases source
  cases forced

end ScreenSync.Sync
