/-
**Events handed over for a retry.**

A refused event is published as a JSON text, and a consumer rebuilds it from the text. The text has
six of the seven fields: the event's own id is not among them, and the rebuilt event draws a new one.

* `rebuild_retryText` — a round gives back the event, under the id drawn for it.
* `rounds_eq` — any number of rounds does, under the id drawn last; the induction is on the rounds.
* `sameEvent_iff` — the event stays the same exactly if its own id is drawn every time.
-/

import ScreenSync.Foundation.JsonText
import ScreenSync.Sync.Consumer
import ScreenSync.Sync.LastWrite

namespace ScreenSync.Sync

open ScreenSync.Foundation ScreenSync.Foundation.JsonText ScreenSync.Shared

/-! ### A round -/

/-- The message for a retry, its time written in the zone that the event's time is in. -/
def retryMessageIn (zone : UtcTime → String) (event : DeviceEvent) : Dict Json :=
  [("user_id", .str event.userId), ("device_id", .str event.deviceId),
    ("payload", .obj event.payload), ("timestamp", .str (zone event.timestamp)),
    ("priority", .int event.priority), ("forced", .bool event.forced)]

/-- In UTC it is the message that `ingest_event` sends. -/
theorem retryMessageIn_utc (event : DeviceEvent) :
    retryMessageIn UtcTime.isoformat event = retryMessage event := rfl

variable (floats : FloatText) (zone : UtcTime → String) (iso : IsoReader)

/-- What `ingest_event` publishes on lock contention. -/
def retryText (event : DeviceEvent) : String := dumps floats (.obj (retryMessageIn zone event))

/-- What `start_sync_consumer` makes of a text; `none` where it logs an error. -/
def rebuild (text : String) (eventId : String) : Option DeviceEvent :=
  match loads floats text with
  | some (.obj data) => decodeRetry iso data eventId
  | _ => none

/-- Rounds of contention, and the ids drawn in them. -/
def rounds (drawn : List String) (event : DeviceEvent) : Option DeviceEvent :=
  drawn.foldlM (fun event eventId => rebuild floats iso (retryText floats zone event) eventId) event

/-- After any number of the rounds, the event is what it was. -/
def SameEvent (drawn : List String) (event : DeviceEvent) : Prop :=
  ∀ n, rounds floats zone iso (drawn.take n) event = some event

/-! ### What is rebuilt -/

variable {floats zone iso} {event : DeviceEvent}

/-- The text of a message is read back as the message. -/
theorem rebuild_dumps {data : Dict Json} (proper : Proper (.obj data)) (eventId : String) :
    rebuild floats iso (dumps floats (.obj data)) eventId = decodeRetry iso data eventId := by
  rw [rebuild, loads_dumps proper]

theorem retryMessageIn_proper (proper : Proper (.obj event.payload)) :
    Proper (.obj (retryMessageIn zone event)) := by
  have names : ((retryMessageIn zone event).map Prod.fst).Nodup := by
    show ["user_id", "device_id", "payload", "timestamp", "priority", "forced"].Nodup
    decide
  refine ⟨names, ?_⟩
  simp only [retryMessageIn, ProperEntries, and_true]
  exact ⟨trivial, trivial, proper, trivial, trivial, trivial⟩

/-- The message is decoded to the event, under the id drawn for it. -/
theorem decodeRetry_retryMessageIn (undoes : ∀ t, iso.fromisoformat (zone t) = .aware t)
    (event : DeviceEvent) (eventId : String) :
    decodeRetry iso (retryMessageIn zone event) eventId =
      some { event with eventId := .str eventId } := by
  unfold decodeRetry
  simp only [retryMessageIn, Dict.get_cons]
  simp [undoes]

/-- **A round** gives back the event, under the id drawn for it. -/
theorem rebuild_retryText (floats : FloatText)
    (undoes : ∀ t, iso.fromisoformat (zone t) = .aware t)
    (proper : Proper (.obj event.payload)) (eventId : String) :
    rebuild floats iso (retryText floats zone event) eventId =
      some { event with eventId := .str eventId } := by
  rw [retryText, rebuild_dumps (retryMessageIn_proper proper), decodeRetry_retryMessageIn undoes]

/-- **Any number of rounds** gives back the event, under the id drawn last. -/
theorem rounds_eq (undoes : ∀ t, iso.fromisoformat (zone t) = .aware t)
    (proper : Proper (.obj event.payload)) (drawn : List String) :
    rounds floats zone iso drawn event =
      some { event with eventId := (drawn.getLast?.map .str).getD event.eventId } := by
  induction drawn generalizing event with
  | nil =>
    rw [rounds, List.foldlM_nil, List.getLast?_nil, Option.map_none, Option.getD_none]
    rfl
  | cons eventId drawn ih =>
    have round := rebuild_retryText floats undoes proper eventId
    have later := @ih { event with eventId := .str eventId } proper
    rw [rounds, List.foldlM_cons, round]
    refine later.trans ?_
    rw [List.getLast?_cons]
    cases drawn.getLast? <;> rfl

/-- **A retried event is the same event** exactly if its own id is drawn in every round. -/
theorem sameEvent_iff (floats : FloatText) (zone : UtcTime → String) (iso : IsoReader)
    (undoes : ∀ t, iso.fromisoformat (zone t) = .aware t) (event : DeviceEvent)
    (proper : Proper (.obj event.payload)) (drawn : List String) :
    SameEvent floats zone iso drawn event ↔ ∀ eventId ∈ drawn, event.eventId = .str eventId := by
  constructor
  · intro same eventId member
    obtain ⟨before, after, rfl⟩ := List.append_of_mem member
    have round := same (before.length + 1)
    have taken : (before ++ eventId :: after).take (before.length + 1) = before ++ [eventId] := by
      rw [List.take_length_add_append, List.take_succ_cons, List.take_zero]
    rw [taken, rounds_eq undoes proper, List.getLast?_concat] at round
    exact (congrArg DeviceEvent.eventId (Option.some.inj round)).symm
  · intro own n
    rw [rounds_eq undoes proper]
    cases last : (drawn.take n).getLast? with
    | none => rfl
    | some eventId =>
      have drew := own eventId (List.mem_of_mem_take (List.mem_of_getLast? last))
      rw [Option.map_some, Option.getD_some, ← drew]

/-- An event of a tablet, with the id that its device gave it. -/
def tabletEvent : DeviceEvent := (report "chess" 0 10 false).event

theorem tabletEvent_proper : Proper (.obj tabletEvent.payload) :=
  ⟨List.nodup_singleton _, trivial, trivial⟩

theorem sameEvent_iff_tablet :
    SameEvent .fraction UtcTime.isoformat .strict ["chess"] tabletEvent ↔
      ∀ eventId ∈ ["chess"], tabletEvent.eventId = .str eventId :=
  sameEvent_iff .fraction UtcTime.isoformat .strict IsoReader.strict.fromisoformat_isoformat
    tabletEvent tabletEvent_proper ["chess"]

/-- **An event changes its id** in its first round. -/
theorem retried_under_new_id :
    ¬ SameEvent .fraction UtcTime.isoformat .strict ["retry"] tabletEvent := by
  intro same
  have round := same 1
  have drew : rounds .fraction UtcTime.isoformat .strict ["retry"] tabletEvent =
      some { tabletEvent with eventId := .str "retry" } :=
    rounds_eq IsoReader.strict.fromisoformat_isoformat tabletEvent_proper ["retry"]
  have ids := congrArg DeviceEvent.eventId (Option.some.inj (drew.symm.trans round))
  exact absurd (Json.str.inj ids) (by decide)

end ScreenSync.Sync
