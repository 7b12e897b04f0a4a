/-
**Only semantic categories?**

Usage events come in over REST, in a body that `UsageReportRequest` has validated, and over MQTT,
from decoded JSON. Both paths insert into one table, which is to hold semantic categories and never
the name of an app.

* `ingest` — one report or message; `Ingestion` keeps, beside the tables, the user each row was
  made for.
* `ingest_effect` — a step stores the row it asks for (`Asks`) or changes neither the events nor the
  owners of the devices.
* `semantic_categories_iff` — every row of every state of a run is semantic exactly if every usage
  message that is stored carries one of the categories.
* `app_name_stored` — a message with the name of an app.
-/

import Mathlib.Data.List.Forall2
import ScreenSync.Foundation.Run
import ScreenSync.Rest.Isolation
import ScreenSync.Rest.Listener

namespace ScreenSync.Rest

open ScreenSync.Foundation ScreenSync.Shared

/-! ### Reports and messages -/

inductive AppCategory
  | productivity
  | social
  | entertainment
  | education
  | health
  | other
  deriving DecidableEq

def AppCategory.value : AppCategory → String
  | .productivity => "productivity"
  | .social => "social"
  | .entertainment => "entertainment"
  | .education => "education"
  | .health => "health"
  | .other => "other"

/-- The text is one of the category values. -/
def IsCategory (text : String) : Prop := ∃ category : AppCategory, category.value = text

/-- A validated body of `/usage/report`. -/
structure UsageReportRequest where
  deviceId : DeviceId
  appCategory : AppCategory
  durationSeconds : Int
  positive : 0 < durationSeconds

/-- A REST report of a user, or a message on the usage topic. -/
inductive IngestStep
  | report (user : UserId) (body : UsageReportRequest) (around : Surroundings)
  | message (message : MqttMessage) (around : Surroundings)

/-- The ids and the object of a message that reaches `_handle_usage`. -/
def usageMessage (message : MqttMessage) : Option (UserId × DeviceId × Dict Json) :=
  match messageParts message.topic, message.payload with
  | some (userId, deviceId, eventType), some (.obj entries) =>
    if eventType = "usage" then some (userId, deviceId, entries) else none
  | _, _ => none

/-- The user a report or a message is made for. -/
def IngestStep.madeFor : IngestStep → UserId
  | .report user _ _ => user
  | .message sent _ => ((messageParts sent.topic).map Prod.fst).getD ""

section Ingest

variable (conversions : Conversions)

/-- `report_usage`, or `_on_message`. -/
def ingest (r : Registry) : IngestStep → Registry
  | .report user body around =>
    (getDb around.commits
      (recordUsage around body.deviceId body.appCategory.value body.durationSeconds user) r).2
  | .message message around => onMessage conversions around message r

/-- The tables, and for each usage event the user it was made for. -/
structure Ingestion where
  registry : Registry
  madeFor : List UserId

/-- Before any usage event. -/
def Ingestion.start (devices : Table DeviceRow.id) (budgets : Table Budget.key)
    (redis : String → Option String) : Ingestion where
  registry := { devices, usageEvents := .empty, budgets, redis }
  madeFor := []

def ingestStep (state : Ingestion) (step : IngestStep) : Ingestion :=
  let next := ingest conversions state.registry step
  { registry := next
    madeFor :=
      if next.usageEvents.rows.length = state.registry.usageEvents.rows.length then state.madeFor
      else state.madeFor ++ [step.madeFor] }

/-- What is promised of a usage event that was made for a user. -/
structure SemanticRow (r : Registry) (row : UsageEvent) (user : UserId) : Prop where
  duration : 1 ≤ row.durationSeconds
  category : IsCategory row.appCategory
  owner : Owns user r row.deviceId

/-- The promise holds of every row. -/
def Semantic (state : Ingestion) : Prop :=
  List.Forall₂ (SemanticRow state.registry) state.registry.usageEvents.rows state.madeFor

/-- The row that a step stores. -/
def Asks (r : Registry) (step : IngestStep) (row : UsageEvent) : Prop :=
  match step with
  | .report user body around =>
    Owns user r body.deviceId ∧
      row = newUsageEvent around body.deviceId body.appCategory.value body.durationSeconds ∧
      r.usageEvents.find row.id = none ∧ around.accepts = true ∧ around.commits = true
  | .message message around => ∃ userId deviceId payload,
    usageMessage message = some (userId, deviceId, payload) ∧
      UsageRow conversions around userId deviceId payload r row

/-- If the step is a usage message that is stored, its category is one of the categories. -/
def SemanticStep (state : Ingestion) (step : IngestStep) : Prop :=
  match step with
  | .report _ _ _ => True
  | .message message around => ∀ userId deviceId payload row,
    usageMessage message = some (userId, deviceId, payload) →
      UsageRow conversions around userId deviceId payload state.registry row →
        IsCategory row.appCategory

end Ingest

/-! ### One step -/

variable {conversions : Conversions} {r next : Registry}

/-- The same usage events, and the same owners. -/
def Unrecorded (r next : Registry) : Prop :=
  next.usageEvents = r.usageEvents ∧ ∀ user deviceId, Owns user next deviceId ↔ Owns user r deviceId

theorem Unrecorded.refl (r : Registry) : Unrecorded r r := ⟨rfl, fun _ _ => Iff.rfl⟩

theorem updateDevice_unrecorded (deviceId : DeviceId) {values : DeviceRow → DeviceRow}
    (keeps : ∀ row, (values row).id = row.id) (owner : ∀ row, (values row).userId = row.userId)
    (r : Registry) : Unrecorded r (updateDevice deviceId values keeps r) := by
  refine ⟨rfl, fun user other => ?_⟩
  simp only [Owns, updateDevice, Table.find_updateWhere, Option.map_eq_some_iff]
  constructor
  · rintro ⟨_, ⟨device, found, rfl⟩, own⟩
    refine ⟨device, found, ?_⟩
    split at own
    · exact (owner device).symm.trans own
    · exact own
  · rintro ⟨device, found, own⟩
    refine ⟨_, ⟨device, found, rfl⟩, ?_⟩
    split
    · exact (owner device).trans own
    · exact own

theorem handleHeartbeat_unrecorded (around : Surroundings) (deviceId : DeviceId) (r : Registry) :
    Unrecorded r (handleHeartbeat around deviceId r) := by
  have owner : ∀ row, (beat around.now row).userId = row.userId := fun _ => rfl
  unfold handleHeartbeat
  split
  · exact .refl r
  · split
    · exact updateDevice_unrecorded _ _ owner r
    · exact .refl r

/-- A message reaches `_handle_usage`, or it stores no usage event. -/
theorem onMessage_cases (conversions : Conversions) (around : Surroundings) (message : MqttMessage)
    (r : Registry) :
    (∃ userId deviceId payload, usageMessage message = some (userId, deviceId, payload) ∧
        onMessage conversions around message r =
          handleUsage conversions around userId deviceId payload r) ∨
      usageMessage message = none ∧ Unrecorded r (onMessage conversions around message r) := by
  unfold onMessage usageMessage
  cases messageParts message.topic with
  | none => exact .inr ⟨rfl, .refl r⟩
  | some parts =>
    obtain ⟨userId, deviceId, eventType⟩ := parts
    cases message.payload with
    | none => exact .inr ⟨rfl, .refl r⟩
    | some payload =>
      by_cases usage : eventType = "usage"
      · cases payload with
        | obj entries =>
          simp only [usage, if_true]
          exact .inl ⟨userId, deviceId, entries, rfl, rfl⟩
        | _ =>
          simp only [usage, if_true]
          exact .inr ⟨trivial, .refl r⟩
      · right
        simp only [usage, if_false]
        constructor
        · cases payload with
          | obj entries => exact if_neg usage
          | _ => rfl
        · split
          · exact handleHeartbeat_unrecorded around deviceId r
          · exact .refl r

/-- A report for a device of the user is the insertion of its row. -/
theorem recordUsage_owned {around : Surroundings} {deviceId : DeviceId} {user : UserId}
    {r : Registry} (owns : Owns user r deviceId) (appCategory : String) (durationSeconds : Int)
    (commits : Bool) :
    (getDb commits (recordUsage around deviceId appCategory durationSeconds user) r).2 =
      (getDb commits (insertUsageEvent around.accepts
        (newUsageEvent around deviceId appCategory durationSeconds)) r).2 := by
  obtain ⟨device, found, owner⟩ := owns
  have session : (recordUsage around deviceId appCategory durationSeconds user).exec r =
      (do
        insertUsageEvent around.accepts (newUsageEvent around deviceId appCategory durationSeconds)
        return newUsageEvent around deviceId appCategory durationSeconds :
          RestSession UsageEvent).exec r := by
    simp only [recordUsage, Session.exec_bind, Session.exec_get, found, owner, ne_eq,
      not_true_eq_false, if_false]
  unfold getDb
  rw [session, Session.exec_bind]
  generalize Session.exec (insertUsageEvent _ _) r = inserted
  obtain ⟨outcome | outcome, next⟩ := inserted
  · rfl
  · simp only [Session.exec_pure]
    cases commits <;> rfl

/-- Any other report raises. -/
theorem recordUsage_refused {around : Surroundings} {deviceId : DeviceId} {user : UserId}
    {r : Registry} (refused : ¬ Owns user r deviceId) (appCategory : String) (durationSeconds : Int)
    (commits : Bool) :
    (getDb commits (recordUsage around deviceId appCategory durationSeconds user) r).2 = r := by
  unfold getDb
  simp only [recordUsage, Session.exec_bind, Session.exec_get]
  cases found : r.devices.find deviceId with
  | none => rfl
  | some device =>
    have owner : device.userId ≠ user := fun owner => refused ⟨device, found, owner⟩
    simp only [owner, ne_eq, not_false_eq_true, if_true]
    rfl

theorem report_effect (conversions : Conversions) (r : Registry) (user : UserId)
    (body : UsageReportRequest) (around : Surroundings) :
    Unrecorded r (ingest conversions r (.report user body around)) ∧
        (∀ row, ¬ Asks conversions r (.report user body around) row) ∨
      ∃ row, Asks conversions r (.report user body around) row ∧
        Stored r row (ingest conversions r (.report user body around)) := by
  simp only [ingest]
  by_cases owns : Owns user r body.deviceId
  · rw [recordUsage_owned owns]
    refine (insertUsageEvent_stored around (newUsageEvent around body.deviceId
      body.appCategory.value body.durationSeconds) r).imp ?_ ?_
    · rintro ⟨same, refused⟩
      rw [same]
      refine ⟨.refl r, ?_⟩
      rintro row ⟨-, rfl, accepted⟩
      exact refused accepted
    · rintro ⟨accepted, -, stored⟩
      exact ⟨_, ⟨owns, rfl, accepted⟩, stored⟩
  · rw [recordUsage_refused owns]
    exact .inl ⟨.refl r, fun row asked => owns asked.1⟩

/-- A step stores the row it asks for, or asks for none and stores none. -/
theorem ingest_effect (conversions : Conversions) (r : Registry) (step : IngestStep) :
    Unrecorded r (ingest conversions r step) ∧ (∀ row, ¬ Asks conversions r step row) ∨
      ∃ row, Asks conversions r step row ∧ Stored r row (ingest conversions r step) := by
  cases step with
  | report user body around => exact report_effect conversions r user body around
  | message message around =>
    rcases onMessage_cases conversions around message r with
      ⟨userId, deviceId, payload, usage, handled⟩ | ⟨none, unrecorded⟩
    · simp only [ingest, handled]
      refine (handleUsage_effect conversions around userId deviceId payload r).imp ?_ ?_
      · rintro ⟨same, nothing⟩
        rw [same]
        refine ⟨.refl r, ?_⟩
        rintro row ⟨_, _, _, again, asked⟩
        cases usage.symm.trans again
        exact nothing row asked
      · rintro ⟨row, asked, stored⟩
        exact ⟨row, ⟨userId, deviceId, payload, usage, asked⟩, stored⟩
    · refine .inl ⟨unrecorded, ?_⟩
      rintro row ⟨_, _, _, some, -⟩
      cases none.symm.trans some

/-! ### Runs -/

theorem usageMessage_parts {message : MqttMessage} {userId : UserId} {deviceId : DeviceId}
    {payload : Dict Json} (usage : usageMessage message = some (userId, deviceId, payload)) :
    messageParts message.topic = some (userId, deviceId, "usage") := by
  unfold usageMessage at usage
  split at usage
  · rename_i parts _
    split at usage
    · rename_i isUsage
      cases usage
      rw [parts, isUsage]
    · cases usage
  · cases usage

/-- What a step stores is semantic, if its category is one of the categories. -/
theorem semanticRow_iff {step : IngestStep} {row : UsageEvent} (asked : Asks conversions r step row)
    (stored : Stored r row next) :
    SemanticRow next row step.madeFor ↔ IsCategory row.appCategory := by
  have owners : ∀ user deviceId, Owns user r deviceId → Owns user next deviceId := by
    rintro user deviceId ⟨device, found, owner⟩
    exact ⟨device, by rw [stored.1]; exact found, owner⟩
  refine ⟨SemanticRow.category, fun category => ?_⟩
  cases step with
  | report user body around =>
    obtain ⟨owns, rfl, -⟩ := asked
    exact ⟨body.positive, category, owners _ _ owns⟩
  | message message around =>
    obtain ⟨userId, deviceId, payload, usage, asks⟩ := asked
    have user : IngestStep.madeFor (.message message around) = userId := by
      rw [IngestStep.madeFor, usageMessage_parts usage]
      rfl
    rw [user]
    exact ⟨asks.positive, category, owners _ _ (asks.device ▸ asks.owner)⟩

theorem forall₂_concat_iff {α β : Type} {R : α → β → Prop} {xs : List α} {ys : List β} {x : α}
    {y : β} (init : List.Forall₂ R xs ys) :
    List.Forall₂ R (xs ++ [x]) (ys ++ [y]) ↔ R x y := by
  induction init with
  | nil => simp
  | cons head _ ih => simp [head, ih]

/-- A step that asks for a row asks for a category of its own. -/
theorem semanticStep_iff {state : Ingestion} {step : IngestStep} {row : UsageEvent}
    (asked : Asks conversions state.registry step row) :
    SemanticStep conversions state step ↔ IsCategory row.appCategory := by
  cases step with
  | report user body around =>
    obtain ⟨-, rfl, -⟩ := asked
    exact iff_of_true trivial ⟨body.appCategory, rfl⟩
  | message message around =>
    obtain ⟨userId, deviceId, payload, usage, asks⟩ := asked
    constructor
    · intro semantic
      exact semantic userId deviceId payload row usage asks
    · rintro category _ _ _ other again asksAgain
      cases usage.symm.trans again
      rwa [← asks.unique asksAgain]

/-- **One step** keeps the promise exactly if it is semantic itself. -/
theorem ingestStep_semantic_iff {state : Ingestion} (semantic : Semantic state)
    (step : IngestStep) :
    Semantic (ingestStep conversions state step) ↔ SemanticStep conversions state step := by
  rcases ingest_effect conversions state.registry step with
    ⟨unrecorded, nothing⟩ | ⟨row, asked, stored⟩
  · refine iff_of_true ?_ ?_
    · have same : (ingestStep conversions state step).madeFor = state.madeFor :=
        if_pos (congrArg (fun t : Table UsageEvent.id => t.rows.length) unrecorded.1)
      rw [Semantic, same]
      show List.Forall₂ (SemanticRow (ingest conversions state.registry step))
        (ingest conversions state.registry step).usageEvents.rows state.madeFor
      rw [unrecorded.1]
      refine List.Forall₂.imp (fun old user kept => ?_) semantic
      exact ⟨kept.duration, kept.category, (unrecorded.2 user old.deviceId).mpr kept.owner⟩
    · cases step with
      | report user body around => trivial
      | message message around =>
        intro userId deviceId payload row usage asks
        exact absurd ⟨userId, deviceId, payload, usage, asks⟩ (nothing row)
  · have longer : (ingestStep conversions state step).madeFor =
        state.madeFor ++ [step.madeFor] := by
      refine if_neg ?_
      rw [stored.2]
      simp
    have kept : List.Forall₂ (SemanticRow (ingest conversions state.registry step))
        state.registry.usageEvents.rows state.madeFor := by
      refine List.Forall₂.imp (fun old user kept => ?_) semantic
      obtain ⟨device, found, owner⟩ := kept.owner
      exact ⟨kept.duration, kept.category, device, by rw [stored.1]; exact found, owner⟩
    rw [semanticStep_iff asked, Semantic, longer]
    show List.Forall₂ (SemanticRow (ingest conversions state.registry step))
      (ingest conversions state.registry step).usageEvents.rows _ ↔ _
    rw [stored.2, forall₂_concat_iff kept]
    exact semanticRow_iff asked stored

/-- **Only semantic categories are stored** in every state of a run of reports and messages, exactly
if every usage message that is stored carries one of the categories. -/
theorem semantic_categories_iff (conversions : Conversions) (devices : Table DeviceRow.id)
    (budgets : Table Budget.key) (redis : String → Option String) (steps : List IngestStep) :
    Throughout (ingestStep conversions) Semantic (.start devices budgets redis) steps ↔
      Meets (ingestStep conversions) (SemanticStep conversions) (.start devices budgets redis)
        steps := by
  have start : Semantic (.start devices budgets redis) := .nil
  refine throughout_iff_meets (fun _ => True) (fun _ _ _ => trivial) (fun state step _ kept => ?_)
    trivial start steps
  exact ingestStep_semantic_iff kept step

/-! ### A message with the name of an app -/

def someSurroundings : Surroundings where
  now := someTime 9 0
  databaseNow := someTime 9 0
  uuid := "tablet"
  eventId := 1
  accepts := true
  commits := true
  redis := .up
  secondRedis := .up

def tabletDevice : DeviceRow where
  id := "tablet"
  userId := "family"
  name := "Tablet"
  type := "tablet"
  priority := 1
  lastHeartbeat := none
  isOnline := true
  registeredAt := someTime 8 0

def appMessage : MqttMessage where
  topic := "screensync/family/tablet/usage/report"
  payload := some (.obj [("category", .str "com.instagram.android"), ("secs", .int 60)])

theorem app_name_stored :
    ¬ Throughout (ingestStep .strict) Semantic
      (.start (Table.empty.insert tabletDevice rfl) .empty fun _ => none)
      [.message appMessage someSurroundings] := by
  intro always
  have semantic := always [.message appMessage someSurroundings] [] rfl
  have rows : (run (ingestStep .strict) (.start (Table.empty.insert tabletDevice rfl) .empty
      fun _ => none) [.message appMessage someSurroundings]).registry.usageEvents.rows =
      [newUsageEvent someSurroundings "tablet" "com.instagram.android" 60] := by
    decide +kernel
  rw [Semantic, rows] at semantic
  cases semantic with
  | cons row _ =>
    obtain ⟨category, named⟩ := row.category
    cases category <;> exact absurd named (by decide)

end ScreenSync.Rest
