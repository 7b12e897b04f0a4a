/-
**Delivery of control messages.**

Nothing gives the wrapper a client, so no enforcement message is ever handed to paho. The result of
a vote goes through the module's client, which start-up does build; but it needs the metadata of the
device, which no call of the application writes.

* `serveApp_keeps` — a call keeps the clients of start-up and the metadata keys.
* `Wired` — so they are as start-up found them in every state of a run.
* `serveUsageEvent_hands_nothing` — no call of the engine hands anything over.
* `serveCastVote_handedOnce_iff` — a vote that resolves hands its result over exactly if the
  metadata names the owner.
* `delivered_iff` — the two, in every state of every run.
-/

import ScreenSync.App.Application
import ScreenSync.Foundation.Run

namespace ScreenSync.App

open ScreenSync.Foundation ScreenSync.Shared ScreenSync.Decision ScreenSync.Override ScreenSync.Rest

variable {Sig : Type}

/-! ### What no call changes -/

/-- The clients are those of start-up, and the metadata keys as they were found. -/
structure Wired (built : PahoClient) (found : Registry) (app : Application Sig) : Prop where
  clients : app.clients = ⟨none, some built⟩
  metadata : ∀ deviceId, app.registry.redis (metaKey deviceId) = found.redis (metaKey deviceId)

variable {built : PahoClient} {found : Registry} {app : Application Sig}

theorem Wired.serveRegistry (wired : Wired built found app) (commits : Bool) {α : Type}
    {session : RestSession α} (keeping : Keeping app.registry session) :
    Wired built found (serveRegistry app commits session keeping) where
  clients := wired.clients
  metadata deviceId := ((getDb_keeps keeping).metadata deviceId).trans (wired.metadata deviceId)

/-- **A call of the engine hands nothing over.** -/
theorem serveUsageEvent_hands_nothing (unwrapped : app.clients.wrapped = none) (device : Device)
    (call : UsageCall) : (serveUsageEvent app device call).handed = [] := by
  have nothing : ∀ message, sendViaWrapper app.clients message = [] := by
    intro message
    unfold sendViaWrapper wrapperPublish
    rw [unwrapped]
  unfold serveUsageEvent
  split
  · rfl
  · split
    · rfl
    · dsimp only
      rw [nothing]
      split
      · rfl
      · rfl

theorem Wired.serveUsageEvent (wired : Wired built found app) (device : Device)
    (call : UsageCall) : Wired built found (serveUsageEvent app device call).next := by
  have budgets : ∀ db, Wired built found (app.withBudgets db) := fun db =>
    ⟨wired.clients, wired.metadata⟩
  unfold App.serveUsageEvent
  split
  · exact wired
  · split
    · exact wired
    · dsimp only
      split
      · exact budgets _
      · split <;> exact budgets _

/-! ### What a vote does -/

variable {platform : Platform} {hmac : Json → Sig}

/-- **Everything a vote can do**: raise and leave things as they are, or resolve a request, and
deliver the result to the owner that the metadata names. -/
theorem serveCastVote_cases (platform : Platform) (hmac : Json → Sig) (app : Application Sig)
    (call : VoteCall) :
    (∃ error, serveCastVote platform hmac app call = ⟨.error error, [], app⟩) ∨
      ∃ request after requests approved extraSeconds, ∃ cast : VoteCall,
        app.requests.find call.overrideId = some request ∧
          cast.metaUserId = (readOwner platform app.registry request.deviceId).toOption.join ∧
          serveCastVote platform hmac app call =
            deliverResult platform { app with requests } after
              (readOwner platform app.registry request.deviceId)
              (publishOverrideResult request.deviceId call.overrideId approved extraSeconds
                cast) := by
  unfold serveCastVote
  split
  · exact Or.inl ⟨_, rfl⟩
  rename_i override selected
  split
  · exact Or.inl ⟨_, rfl⟩
  rename_i cachedBudget read
  dsimp only
  split
  · exact Or.inl ⟨_, rfl⟩
  rename_i request message store cast
  obtain ⟨found, -⟩ := selectPending_ok selected
  obtain ⟨pending, results, resolves⟩ := castVote_ok cast
  obtain rfl : override = pending := Option.some.inj (found.symm.trans resolves.found)
  obtain ⟨approved, extraSeconds, same⟩ := castVote_of_resolves hmac resolves
  obtain ⟨rfl, rfl, rfl⟩ : _ = request ∧ _ = message ∧ _ = store := by
    simpa using same.symm.trans cast
  exact Or.inr ⟨override, _, _, approved, extraSeconds, _, found, rfl, rfl⟩

theorem sendDumped_wired (clients : app.clients = ⟨none, some built⟩) (floats : JsonText.FloatText)
    (message : Message) : ∃ payload, sendDumped floats none app.clients message =
      ([⟨built, message.topic, payload, message.qos⟩], app.clients) := by
  have client : app.clients.client = some built := by rw [clients]
  exact ⟨_, publish_connected client _ _ _⟩

theorem Wired.deliverResult (wired : Wired built found app) (request : OverrideRequest Sig)
    (owner : Except AppError (Option UserId)) (message : Option Message) :
    Wired built found (deliverResult platform app request owner message).next := by
  unfold App.deliverResult
  split
  · exact wired
  · exact wired
  · obtain ⟨payload, sent⟩ := sendDumped_wired wired.clients platform.floats ‹Message›
    rw [sent]
    exact wired

theorem Wired.serveCastVote (wired : Wired built found app) (call : VoteCall) :
    Wired built found (serveCastVote platform hmac app call).next := by
  rcases serveCastVote_cases platform hmac app call with ⟨error, same⟩ |
    ⟨request, after, requests, approved, extraSeconds, cast, -, -, same⟩
  · rw [same]
    exact wired
  · rw [same]
    have stored : Wired built found { app with requests } := ⟨wired.clients, wired.metadata⟩
    exact stored.deliverResult _ _ _

/-- **A call leaves the wiring as it is.** -/
theorem Wired.serveApp (wired : Wired built found app) (call : AppCall) :
    Wired built found (serveApp platform hmac app call) := by
  cases call with
  | register user request around =>
    exact wired.serveRegistry around.commits
      (registerDevice_keeping around user request.name request.type request.inRange.1)
  | heartbeat user deviceId battery around =>
    exact wired.serveRegistry around.commits (heartbeat_keeping around deviceId user battery)
  | usage device call => exact wired.serveUsageEvent device call
  | create call =>
    show Wired built found (serveCreate app call)
    unfold serveCreate
    split
    · exact wired
    · exact ⟨wired.clients, wired.metadata⟩
  | vote call => exact wired.serveCastVote call

/-- The states of the runs from start-up, over what the database and Redis held. -/
def Reached (platform : Platform) (hmac : Json → Sig) (built : PahoClient) (found : Registry)
    (app : Application Sig) : Prop :=
  ∃ sound requests calls,
    run (serveApp platform hmac) (lifespan built found sound requests) calls = app

/-- **Every state after start-up is wired as start-up left it.** -/
theorem Reached.wired (reached : Reached platform hmac built found app) :
    Wired built found app := by
  obtain ⟨sound, requests, calls, rfl⟩ := reached
  have kept : ∀ (app : Application Sig) call, Wired built found app →
      Wired built found (serveApp platform hmac app call) := fun _ call wired =>
    wired.serveApp call
  exact run_invariant (serveApp platform hmac) kept ⟨rfl, fun _ => rfl⟩ calls

/-! ### What is delivered -/

/-- Exactly one message on the topic is handed to paho. -/
def HandedOnce (handed : List Handed) (topic : String) : Prop :=
  (handed.filter fun h => h.topic = topic).length = 1

theorem not_handedOnce_nil (topic : String) : ¬ HandedOnce [] topic := by
  simp [HandedOnce]

theorem handedOnce_singleton {handed : Handed} {topic : String} :
    HandedOnce [handed] topic ↔ handed.topic = topic := by
  unfold HandedOnce
  by_cases same : handed.topic = topic <;> simp [same]

theorem publishOverrideResult_topic {cast : VoteCall} {userId : UserId}
    (told : cast.metaUserId = some userId) (deviceId : DeviceId) (overrideId : String)
    (approved : Bool) (extraSeconds : Int) :
    ∃ message, publishOverrideResult deviceId overrideId approved extraSeconds cast =
      some message ∧ message.topic = topicOverrideResult userId deviceId := by
  unfold publishOverrideResult
  rw [told]
  exact ⟨_, rfl, rfl⟩

/-- The result of a vote reaches the owner exactly if the metadata names the owner. -/
theorem deliverResult_handedOnce_iff (clients : app.clients = ⟨none, some built⟩)
    {named : Except AppError (Option UserId)} {cast : VoteCall}
    (reads : cast.metaUserId = named.toOption.join) (after : OverrideRequest Sig)
    (deviceId : DeviceId) (overrideId : String) (approved : Bool) (extraSeconds : Int)
    (owner : UserId) :
    HandedOnce (deliverResult platform app after named
        (publishOverrideResult deviceId overrideId approved extraSeconds cast)).handed
        (topicOverrideResult owner deviceId) ↔
      named = .ok (some owner) := by
  rcases named with error | none | userId
  · simp [App.deliverResult, not_handedOnce_nil]
  · have silent : cast.metaUserId = none := reads
    simp [App.deliverResult, publishOverrideResult, silent, not_handedOnce_nil]
  · obtain ⟨message, published, topic⟩ :=
      publishOverrideResult_topic reads deviceId overrideId approved extraSeconds
    obtain ⟨payload, sent⟩ := sendDumped_wired clients platform.floats message
    unfold App.deliverResult
    rw [published]
    dsimp only
    rw [sent, handedOnce_singleton, topic, topicOverrideResult_inj]
    simp

/-- The vote resolves the request. -/
structure ResolvesRequest (platform : Platform) (hmac : Json → Sig) (app : Application Sig)
    (call : VoteCall) (request : OverrideRequest Sig) : Prop where
  found : app.requests.find call.overrideId = some request
  pending : request.status = .pending
  resolved : ∃ row, (serveCastVote platform hmac app call).next.requests.find call.overrideId =
    some row ∧ row.status ≠ .pending

/-- What start-up has to find in Redis: metadata of the device that name its owner. -/
def Announced (platform : Platform) (found : Registry) (deviceId : DeviceId) (owner : UserId) :
    Prop :=
  readOwner platform found deviceId = .ok (some owner)

theorem Wired.readOwner (wired : Wired built found app) (platform : Platform)
    (deviceId : DeviceId) :
    readOwner platform app.registry deviceId = readOwner platform found deviceId := by
  unfold App.readOwner textOf
  rw [wired.metadata]

/-- **A vote that resolves** hands its result over exactly if start-up found the owner announced. -/
theorem serveCastVote_handedOnce_iff (wired : Wired built found app) {call : VoteCall}
    {request : OverrideRequest Sig} (resolves : ResolvesRequest platform hmac app call request)
    (owner : UserId) :
    HandedOnce (serveCastVote platform hmac app call).handed
        (topicOverrideResult owner request.deviceId) ↔
      Announced platform found request.deviceId owner := by
  rcases serveCastVote_cases platform hmac app call with ⟨error, same⟩ |
    ⟨pending, after, requests, approved, extraSeconds, cast, here, reads, same⟩
  · obtain ⟨row, still, resolved⟩ := resolves.resolved
    rw [same] at still
    obtain rfl : request = row := Option.some.inj (resolves.found.symm.trans still)
    exact absurd resolves.pending resolved
  · obtain rfl : request = pending := Option.some.inj (resolves.found.symm.trans here)
    have clients : ({ app with requests } : Application Sig).clients = ⟨none, some built⟩ :=
      wired.clients
    rw [same, Announced, ← wired.readOwner platform]
    exact deliverResult_handedOnce_iff clients reads after _ _ _ _ owner

/-- **What is delivered.** In every state that the application reaches from start-up: a call of
`process_usage_event` that returns has not handed its message over, and a vote that resolves a
request of a registered device has exactly if Redis held, at start-up, metadata of the device that
name its owner. -/
theorem delivered_iff (reached : Reached platform hmac built found app) :
    (∀ device call outcome, (serveUsageEvent app device call).answer = .ok outcome →
      ¬ HandedOnce (serveUsageEvent app device call).handed
        (topicEnforce device.userId device.id)) ∧
    ∀ call request row, ResolvesRequest platform hmac app call request →
      app.registry.devices.find request.deviceId = some row →
      (HandedOnce (serveCastVote platform hmac app call).handed
          (topicOverrideResult row.userId request.deviceId) ↔
        Announced platform found request.deviceId row.userId) := by
  have wired := reached.wired
  constructor
  · intro device call outcome _
    rw [serveUsageEvent_hands_nothing (by rw [wired.clients])]
    exact not_handedOnce_nil _
  · intro call request row resolves _
    exact serveCastVote_handedOnce_iff wired resolves row.userId

/-! ### A family with one tablet -/

section Fixtures

def somePlatform : Platform where
  floats := .fraction
  format
    | .str text => text
    | _ => ""
  format_str _ := rfl

/-- No rows; Redis holds a budget of the tablet for the day, and nothing else. -/
def cachedRegistry : Registry where
  devices := .empty
  usageEvents := .empty
  budgets := .empty
  redis key :=
    if key = budgetCacheText tablet.id someDay then
      some "\x7b\"total_budget_seconds\": 7200, \"used_seconds\": 600\x7d"
    else none

theorem cachedRegistry_sound : Sound cachedRegistry :=
  ⟨fun _ member => (List.not_mem_nil member).elim, List.nodup_nil⟩

def someTablet : DeviceRegisterRequest where
  name := "Tablet"
  type := "tablet"
  priority := 1
  knownType := by decide
  inRange := by decide

/-- The surroundings of a registration at nine. -/
def atNine : Surroundings where
  now := someTime 9 0
  databaseNow := someTime 9 0
  uuid := tablet.id
  eventId := 1
  accepts := true
  commits := true
  redis := .up
  secondRedis := .up

/-- A request for ten minutes, at noon. -/
def noonRequest : CreateCall where
  deviceId := tablet.id
  requestedSeconds := 600
  checkedAt := someTime 12 0
  id := "request"
  insertedAt := someTime 12 0

/-- The parent's approval of it. -/
def noonApproval : VoteCall where
  overrideId := "request"
  voter := .parent
  approve := true
  localTime := timeOfDay 12 30
  patternAt := someTime 12 30
  cachedBudget := none
  evaluatedAt := someTime 12 30
  storedAt := someTime 12 30
  publishedAt := someTime 12 30
  metaUserId := none

/-- Eleven in the evening of the next day. -/
def nextEvening : UtcTime where
  micros := (someTime 23 0).micros + dayMicros
  inRange := by decide

/-- An hour of videos then. -/
def bedtimeVideos : UsageCall where
  appCategory := "entertainment"
  rawSeconds := 3600
  today := nextDay
  timestamp := nextEvening
  publishedAt := nextEvening
  uuid _ := "row"

/-- The tablet is registered, and has asked for ten minutes. -/
def tabletApp : Application Unit :=
  run (serveApp somePlatform fun _ => ()) (lifespan paho cachedRegistry cachedRegistry_sound .empty)
    [.register tablet.userId someTablet atNine, .create noonRequest]

theorem tabletApp_reached : Reached somePlatform (fun _ => ()) paho cachedRegistry tabletApp :=
  ⟨cachedRegistry_sound, .empty, _, rfl⟩

/-- The engine blocks the videos and returns. -/
theorem bedtimeVideos_returns :
    ∃ outcome, (serveUsageEvent tabletApp tablet bedtimeVideos).answer = .ok outcome := by
  have returned :
      (serveUsageEvent tabletApp tablet bedtimeVideos).answer.toOption.isSome = true := by
    decide +kernel
  cases answer : (serveUsageEvent tabletApp tablet bedtimeVideos).answer with
  | ok outcome => exact ⟨outcome, rfl⟩
  | error error =>
    rw [answer] at returned
    cases returned

/-- The approval resolves the request. -/
theorem noonApproval_resolves : ∃ request,
    ResolvesRequest somePlatform (fun _ => ()) tabletApp noonApproval request ∧
      request.deviceId = tablet.id := by
  have asked : (tabletApp.requests.find "request").any (fun request =>
      request.status = .pending ∧ request.deviceId = tablet.id) = true := by
    decide +kernel
  have settled : ((serveCastVote somePlatform (fun _ => ()) tabletApp
      noonApproval).next.requests.find "request").any (fun row =>
        row.status ≠ .pending) = true := by
    decide +kernel
  obtain ⟨request, found, pending, device⟩ : ∃ request,
      tabletApp.requests.find "request" = some request ∧ request.status = .pending ∧
        request.deviceId = tablet.id := by
    simpa [Option.any_eq_true] using asked
  obtain ⟨row, after, resolved⟩ : ∃ row, (serveCastVote somePlatform (fun _ => ()) tabletApp
      noonApproval).next.requests.find "request" = some row ∧ row.status ≠ .pending := by
    simpa [Option.any_eq_true] using settled
  exact ⟨request, ⟨found, pending, row, after, resolved⟩, device⟩

/-- The tablet is registered to the family. -/
theorem tablet_registered : ∃ row, tabletApp.registry.devices.find tablet.id = some row ∧
    row.userId = tablet.userId := by
  have listed : (tabletApp.registry.devices.find tablet.id).any (fun row =>
      row.userId = tablet.userId) = true := by
    decide +kernel
  simpa [Option.any_eq_true] using listed

end Fixtures

/-- At this state: the verdict on the videos is not delivered, and the result of the vote would have
been if the tablet had been announced. -/
theorem delivered_iff_tabletApp :
    ¬ HandedOnce (serveUsageEvent tabletApp tablet bedtimeVideos).handed
        (topicEnforce tablet.userId tablet.id) ∧
      (HandedOnce (serveCastVote somePlatform (fun _ => ()) tabletApp noonApproval).handed
          (topicOverrideResult tablet.userId tablet.id) ↔
        Announced somePlatform cachedRegistry tablet.id tablet.userId) := by
  obtain ⟨outcome, returned⟩ := bedtimeVideos_returns
  obtain ⟨request, resolves, device⟩ := noonApproval_resolves
  obtain ⟨row, registered, owner⟩ := tablet_registered
  have delivered := delivered_iff tabletApp_reached
  refine ⟨delivered.1 tablet bedtimeVideos outcome returned, ?_⟩
  rw [← device, ← owner]
  exact delivered.2 noonApproval request row resolves (device ▸ registered)

/-- **Both messages are dropped**: the call returns and the vote resolves the request of a
registered device, and nothing is handed to paho. -/
theorem messages_dropped :
    ((∃ outcome, (serveUsageEvent tabletApp tablet bedtimeVideos).answer = .ok outcome) ∧
      (serveUsageEvent tabletApp tablet bedtimeVideos).handed = []) ∧
    (∃ request, ResolvesRequest somePlatform (fun _ => ()) tabletApp noonApproval request ∧
      request.deviceId = tablet.id) ∧
    (∃ row, tabletApp.registry.devices.find tablet.id = some row ∧ row.userId = tablet.userId) ∧
    (serveCastVote somePlatform (fun _ => ()) tabletApp noonApproval).handed = [] := by
  have enforcement : (serveUsageEvent tabletApp tablet bedtimeVideos).handed.isEmpty = true := by
    decide +kernel
  have result : (serveCastVote somePlatform (fun _ => ()) tabletApp
      noonApproval).handed.isEmpty = true := by
    decide +kernel
  exact ⟨⟨bedtimeVideos_returns, List.isEmpty_iff.mp enforcement⟩, noonApproval_resolves,
    tablet_registered, List.isEmpty_iff.mp result⟩

end ScreenSync.App
