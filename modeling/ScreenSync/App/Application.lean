/-
**The application.**

The state that the modules share once they are put together: the tables, the text keys of Redis and
the MQTT clients of the process. `lifespan` asks `get_mqtt_client` for a client and leaves the
wrapper that the engine publishes through as it is.

The shared `RedisClient` is taken as its class defines it: `get` returns the text of a key, `set`
swallows the `DataError` that a dictionary raises, and there is no `delete`.

* `registerDevice`, `heartbeat` — requests of the registry, for which the application is sound
  (`Sound`) and keeps the metadata keys (`Keeps`).
* `serveUsageEvent`, `serveCreate`, `serveCastVote` — the engine and the override service on the
  state of the application, with what they hand to paho.
* `serveApp` — one call of any of them.
-/

import ScreenSync.App.Wire
import ScreenSync.Rest.Service

namespace ScreenSync.App

open ScreenSync.Foundation ScreenSync.Shared ScreenSync.Decision ScreenSync.Override ScreenSync.Rest

/-! ### The state -/

/-- What the schema of registration and the tables of the engine see to. -/
structure Sound (r : Registry) : Prop where
  priorities : ∀ row ∈ r.devices.rows, 1 ≤ row.priority
  budgetIds : (r.budgets.rows.map Budget.id).Nodup

/-- The columns of a registered device that the engine reads. -/
def deviceOf (row : DeviceRow) (positive : 1 ≤ row.priority) : Device where
  id := row.id
  userId := row.userId
  priority := row.priority.toNat
  isOnline := row.isOnline
  priority_pos := by omega

/-- The database, as the engine and the override service see it. -/
def databaseOf (r : Registry) (sound : Sound r) : Database where
  devices :=
    { rows := r.devices.rows.attach.map fun row =>
        deviceOf row.1 (sound.priorities row.1 row.2)
      unique := by
        rw [List.map_map]
        have same : r.devices.rows.attach.map (Device.id ∘ fun row =>
            deviceOf row.1 (sound.priorities row.1 row.2)) = r.devices.rows.map DeviceRow.id :=
          List.attach_map_val (f := DeviceRow.id)
        rw [same]
        exact r.devices.unique }
  budgets := r.budgets
  budgetIds := sound.budgetIds

/-- The state of the application. -/
structure Application (Sig : Type) where
  registry : Registry
  sound : Sound registry
  requests : Table (@OverrideRequest.id Sig)
  clients : MqttClients

variable {Sig : Type}

namespace Application

def database (app : Application Sig) : Database := databaseOf app.registry app.sound

def overrideStore (app : Application Sig) : OverrideStore Sig := ⟨app.database, app.requests⟩

/-- The application with other budgets. -/
def withBudgets (app : Application Sig) (db : Database) : Application Sig :=
  { app with
    registry := { app.registry with budgets := db.budgets }
    sound := ⟨app.sound.priorities, db.budgetIds⟩ }

end Application

/-- The start of `lifespan`, over what the database and Redis hold; `built` is the client that
`_build_client` connects. -/
def lifespan (built : PahoClient) (registry : Registry) (sound : Sound registry)
    (requests : Table (@OverrideRequest.id Sig)) : Application Sig where
  registry
  sound
  requests
  clients := (getMqttClient (some built) .loaded).2

/-! ### The registry -/

def metaKey (deviceId : DeviceId) : String := "device:meta:" ++ deviceId

theorem metaKey_ne_onlineKey (first second : DeviceId) : metaKey first ≠ onlineKey second := by
  intro same
  have start := congrArg (fun key => key.toList.take 8) same
  simp [metaKey, onlineKey] at start

theorem metaKey_ne_batteryKey (first second : DeviceId) : metaKey first ≠ batteryKey second := by
  intro same
  have start := congrArg (fun key => key.toList.take 8) same
  simp [metaKey, batteryKey] at start

/-- What a request of the registry leaves as it is. -/
structure Keeps (r next : Registry) : Prop where
  sound : Sound r → Sound next
  metadata : ∀ deviceId, next.redis (metaKey deviceId) = r.redis (metaKey deviceId)

theorem Keeps.refl (r : Registry) : Keeps r r := ⟨id, fun _ => rfl⟩

theorem Keeps.trans {r between next : Registry} (first : Keeps r between)
    (second : Keeps between next) : Keeps r next :=
  ⟨second.sound ∘ first.sound, fun deviceId =>
    (second.metadata deviceId).trans (first.metadata deviceId)⟩

/-- A session that keeps these, answering or not. -/
def Keeping {α : Type} (r : Registry) (session : RestSession α) : Prop :=
  Session.Triple (Keeps r) session (fun _ => Keeps r) (Keeps r)

variable {r : Registry}

theorem setex_keeping (link : RedisLink) {key : String} (other : ∀ deviceId, metaKey deviceId ≠ key)
    (value : String) : Keeping r (setex link key value) := by
  cases link with
  | up =>
    refine .of_modify fun now keeps => keeps.trans ⟨fun sound => ?_, fun deviceId => ?_⟩
    · exact ⟨sound.priorities, sound.budgetIds⟩
    · exact Function.update_of_ne (other deviceId) _ _
  | null => exact .of_pure fun _ => id
  | down => exact .of_throw fun _ => id

theorem insertDevice_keeping (accepts : Bool) {row : DeviceRow} (positive : 1 ≤ row.priority) :
    Keeping r (insertDevice accepts row) := by
  intro now keeps
  simp only [insertDevice, Session.exec_bind, Session.exec_get]
  by_cases fresh : now.devices.find row.id = none ∧ accepts = true
  · rw [dif_pos fresh]
    refine keeps.trans ⟨fun sound => ⟨fun other member => ?_, sound.budgetIds⟩, fun _ => rfl⟩
    rcases List.mem_append.mp member with before | last
    · exact sound.priorities other before
    · exact (List.mem_singleton.mp last) ▸ positive
  · rw [dif_neg fresh]
    exact keeps

theorem updateDevice_keeps (deviceId : DeviceId) {values : DeviceRow → DeviceRow}
    (keeps : ∀ row, (values row).id = row.id)
    (priority : ∀ row, (values row).priority = row.priority) (r : Registry) :
    Keeps r (updateDevice deviceId values keeps r) := by
  refine ⟨fun sound => ⟨fun other member => ?_, sound.budgetIds⟩, fun _ => rfl⟩
  obtain ⟨row, inside, rfl⟩ := List.mem_map.mp member
  split
  · exact (priority row).symm ▸ sound.priorities row inside
  · exact sound.priorities row inside

theorem getDeviceForUser_keeping (deviceId : DeviceId) (user : UserId) :
    Keeping r (getDeviceForUser deviceId user) := by
  intro now keeps
  simp only [getDeviceForUser, Session.exec_bind, Session.exec_get]
  cases now.devices.find deviceId with
  | none => exact keeps
  | some device =>
    by_cases owner : device.userId = user
    · simp only [owner, ne_eq, not_true_eq_false, if_false]
      exact keeps
    · simp only [owner, ne_eq, not_false_eq_true, if_true]
      exact keeps

theorem registerDevice_keeping (around : Surroundings) (user : UserId) (name deviceType : String)
    {priority : Int} (positive : 1 ≤ priority) :
    Keeping r (registerDevice around user name deviceType priority) :=
  (insertDevice_keeping around.accepts positive).bind fun _ => .of_pure fun _ => id

theorem heartbeat_keeping (around : Surroundings) (deviceId : DeviceId) (user : UserId)
    (battery : Option Int) : Keeping r (heartbeat around deviceId user battery) := by
  refine (getDeviceForUser_keeping deviceId user).bind fun device => ?_
  have kept : ∀ now, Keeps now (beatDevice device.id around.now now) :=
    updateDevice_keeps _ _ fun _ => rfl
  have updated : Keeping r
      (modify (beatDevice device.id around.now) : RestSession PUnit) :=
    .of_modify fun now keeps => keeps.trans (kept now)
  refine updated.bind fun _ => ?_
  refine (setex_keeping around.redis (fun other => metaKey_ne_onlineKey other _) "1").bind
    fun _ => ?_
  cases battery with
  | none => exact .of_pure fun _ => id
  | some level =>
    refine (setex_keeping around.secondRedis (fun other => metaKey_ne_batteryKey other _) _).bind
      fun _ => ?_
    exact .of_pure fun _ => id

/-- A request keeps what its session keeps, committed or rolled back. -/
theorem getDb_keeps {α : Type} {commits : Bool} {session : RestSession α}
    (keeping : Keeping r session) : Keeps r (getDb commits session r).2 := by
  have outcome := keeping r (.refl r)
  have rolledBack : ∀ {next : Registry}, Keeps r next → Keeps r { r with redis := next.redis } :=
    fun keeps => ⟨fun sound => ⟨sound.priorities, sound.budgetIds⟩, keeps.metadata⟩
  unfold getDb
  split at outcome
  · rename_i answer next executed
    rw [executed]
    dsimp only
    split
    · exact outcome
    · exact rolledBack outcome
  · rename_i error next executed
    rw [executed]
    exact rolledBack outcome

/-- A body of the registration route. -/
structure DeviceRegisterRequest where
  name : String
  type : String
  priority : Int
  knownType : type ∈ ["phone", "tablet", "laptop"]
  inRange : 1 ≤ priority ∧ priority ≤ 10

/-- One request of the registry. -/
def serveRegistry (app : Application Sig) (commits : Bool) {α : Type} (session : RestSession α)
    (keeping : Keeping app.registry session) : Application Sig :=
  { app with
    registry := (getDb commits session app.registry).2
    sound := (getDb_keeps keeping).sound app.sound }

/-! ### The engine -/

/-- What a call of the engine or the override service may raise. -/
inductive AppError
  | raised (error : PyError)
  | attributeError
  | keyError
  | jsonDecodeError

/-- The answer of a call, what it has handed to paho, and the state it leaves. -/
structure Served (Sig α : Type) where
  answer : Except AppError α
  handed : List Handed
  next : Application Sig

/-- The text of `_budget_cache_key`. -/
def budgetCacheText (deviceId : DeviceId) (date : Date) : String :=
  "budget:" ++ deviceId ++ ":" ++ date.isoformat

/-- The text of a key, unless it is missing or empty. -/
def textOf (redis : String → Option String) (key : String) : Option String :=
  (redis key).filter fun text => text ≠ ""

/-- `process_usage_event`. A text in the cache has no item `remaining_seconds`, and a charge is
committed before the `delete` that `RedisClient` does not have. -/
def serveUsageEvent (app : Application Sig) (device : Device) (call : UsageCall) :
    Served Sig UsageOutcome :=
  match textOf app.registry.redis (budgetCacheText device.id call.today) with
  | some _ => ⟨.error (.raised .typeError), [], app⟩
  | none =>
    match ensureBudget device ⟨app.database, fun _ => none⟩ call with
    | .error error => ⟨.error (.raised error), [], app⟩
    | .ok (budget, store) =>
      let (outcome, charged) := answerUsage device store budget call
      let next := app.withBudgets charged.db
      if outcome.action ≠ .block then ⟨.error .attributeError, [], next⟩
      else
        let handed := sendViaWrapper app.clients outcome.published
        if handed.all Handed.taken then ⟨.ok outcome, handed, next⟩
        else ⟨.error (.raised .typeError), handed, next⟩

/-! ### The override service -/

/-- What the override service takes from the language: the texts of floats, and how an f-string
writes a decoded value. -/
structure Platform where
  floats : JsonText.FloatText
  format : Json → String
  format_str : ∀ text, format (.str text) = text

/-- The cached budget that the pattern validator reads. -/
def readCachedBudget (platform : Platform) (r : Registry) (deviceId : DeviceId) (date : Date) :
    Except AppError (Option (Dict Json)) :=
  match textOf r.redis (budgetCacheText deviceId date) with
  | none => .ok none
  | some raw =>
    match JsonText.loads platform.floats raw with
    | none => .error .jsonDecodeError
    | some (.obj budget) => .ok (some budget)
    | some _ => .error .attributeError

/-- The owner that `_publish_override_result` reads in the metadata of a device. -/
def readOwner (platform : Platform) (r : Registry) (deviceId : DeviceId) :
    Except AppError (Option UserId) :=
  match textOf r.redis (metaKey deviceId) with
  | none => .ok none
  | some raw =>
    match JsonText.loads platform.floats raw with
    | none => .error .jsonDecodeError
    | some (.obj metadata) =>
      match Dict.get metadata "user_id" with
      | none => .error .keyError
      | some userId => .ok (some (platform.format userId))
    | some _ => .error (.raised .typeError)

/-- What the vote hands over, on the owner it has read. The `await` of what `publish` returns, which
is `None`, raises. -/
def deliverResult (platform : Platform) (app : Application Sig) (request : OverrideRequest Sig)
    (owner : Except AppError (Option UserId)) (message : Option Message) :
    Served Sig (OverrideRequest Sig) :=
  match owner, message with
  | .error error, _ => ⟨.error error, [], app⟩
  | .ok _, none => ⟨.ok request, [], app⟩
  | .ok _, some message =>
    let (handed, clients) := sendDumped platform.floats none app.clients message
    ⟨.error (.raised .typeError), handed, { app with clients }⟩

/-- `cast_vote`. The metadata is read after the commit. -/
def serveCastVote (platform : Platform) (hmac : Json → Sig) (app : Application Sig)
    (call : VoteCall) : Served Sig (OverrideRequest Sig) :=
  match selectPending app.requests call.overrideId with
  | .error error => ⟨.error (.raised error), [], app⟩
  | .ok override =>
    match readCachedBudget platform app.registry override.deviceId call.patternAt.date with
    | .error error => ⟨.error error, [], app⟩
    | .ok cachedBudget =>
      let owner := readOwner platform app.registry override.deviceId
      let metaUserId := owner.toOption.join
      match castVote hmac app.overrideStore { call with cachedBudget, metaUserId } with
      | .error error => ⟨.error (.raised error), [], app⟩
      | .ok (request, message, store) =>
        deliverResult platform { app with requests := store.requests } request owner message

/-- `create_override_request`. -/
def serveCreate (app : Application Sig) (call : CreateCall) : Application Sig :=
  match createOverrideRequest app.overrideStore call with
  | .error _ => app
  | .ok (_, store) => { app with requests := store.requests }

/-! ### Calls -/

inductive AppCall
  | register (user : UserId) (request : DeviceRegisterRequest) (around : Surroundings)
  | heartbeat (user : UserId) (deviceId : DeviceId) (battery : Option Int) (around : Surroundings)
  | usage (device : Device) (call : UsageCall)
  | create (call : CreateCall)
  | vote (call : VoteCall)

/-- The application after a call. -/
def serveApp (platform : Platform) (hmac : Json → Sig) (app : Application Sig) :
    AppCall → Application Sig
  | .register user request around =>
    serveRegistry app around.commits
      (registerDevice around user request.name request.type request.priority)
      (registerDevice_keeping around user request.name request.type request.inRange.1)
  | .heartbeat user deviceId battery around =>
    serveRegistry app around.commits (heartbeat around deviceId user battery)
      (heartbeat_keeping around deviceId user battery)
  | .usage device call => (serveUsageEvent app device call).next
  | .create call => serveCreate app call
  | .vote call => (serveCastVote platform hmac app call).next

end ScreenSync.App
