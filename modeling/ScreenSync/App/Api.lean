/-
**The HTTP interface.**

The routers that `main.py` mounts, `auth_service/oauth.py` and `device_registry/router.py`, and what
FastAPI does around a route. It reads the body, solves the dependencies, `get_current_user` among
them, then validates the body, runs the route and sends its answer; the session is committed after
that, so a commit that fails takes back what has been answered.

* `Request`, `serveRequest` — one request, from its headers and its body on.
* `caller` — whom a token speaks for, from the token alone.
* `registry_guarded` — every run: what is registered is well-formed, and a request changes nothing
  but what belongs to the user its token speaks for.
* `strangers_untold` — every run: the device requests of others can be left out.
-/

import ScreenSync.App.Application
import ScreenSync.Auth.Login
import ScreenSync.Rest.Privacy

namespace ScreenSync.App

open ScreenSync.Foundation ScreenSync.Shared ScreenSync.Auth ScreenSync.Rest

/-! ### Bodies -/

/-- The body of a request. -/
inductive Body
  | empty
  | json (value : Json)
  /-- The text is not JSON. -/
  | notJson
  /-- Reading it raises something else: the bytes are no text. -/
  | unreadable
  /-- The content type is not that of JSON. -/
  | bytes

/-- What the client is told of a request that is not answered. -/
inductive Failure
  | http (statusCode : Nat) (detail : String)
  | requestValidation (fields : List String)
  | serverError
  deriving DecidableEq

/-- The exception handlers. -/
def ofApi : ApiError → Failure
  | .http statusCode detail => .http statusCode detail
  | .integrityError => .serverError
  | .connectionError => .serverError

def ofAuth : AuthError → Failure
  | .http statusCode detail => .http statusCode detail
  | .requestValidation fields => .requestValidation fields
  | .integrityError => .serverError
  | .passwordSizeError => .serverError

/-- A body that is not that of the model. -/
def wholeBody : Failure := .requestValidation ["body"]

/-- `request.json()`. -/
def parseBody : Body → Except Failure Body
  | .notJson => .error wholeBody
  | .unreadable => .error (.http 400 "There was an error parsing the body")
  | body => .ok body

/-- The entries of the body, where it is an object. -/
def Body.entries : Body → Except Failure (Dict Json)
  | .json (.obj entries) => .ok entries
  | _ => .error wholeBody

/-- `int` fields read what pydantic's lax mode takes for an integer. -/
structure LaxInt where
  toInt : Json → Option Int
  toInt_int : ∀ value, toInt (.int value) = some value

/-- A `str` field. -/
def text : Json → Option String
  | .str value => some value
  | _ => none

/-- The names of the fields that did not validate. -/
def invalid {α : Type} (name : String) : Option α → List String
  | none => [name]
  | some _ => []

/-- The fields of `DeviceRegisterRequest`. -/
def deviceRegisterRequest (lax : LaxInt) (entries : Dict Json) :
    Except Failure DeviceRegisterRequest :=
  let name := (entries.get "name").bind text
  let type := (entries.get "type").bind text
  let priority := (entries.get "priority").elim (some 5) lax.toInt
  let fields := invalid "name" name ++
    invalid "type" (type.filter fun value => value ∈ ["phone", "tablet", "laptop"]) ++
    invalid "priority" (priority.filter fun value => 1 ≤ value ∧ value ≤ 10)
  match name, type, priority with
  | some name, some type, some priority =>
    if valid : type ∈ ["phone", "tablet", "laptop"] ∧ 1 ≤ priority ∧ priority ≤ 10 then
      .ok { name, type, priority, knownType := valid.1, inRange := valid.2 }
    else .error (.requestValidation fields)
  | _, _, _ => .error (.requestValidation fields)

/-- `HeartbeatRequest`. -/
def heartbeatRequest (lax : LaxInt) (deviceId : DeviceId) (entries : Dict Json) :
    Except Failure RestCall :=
  match entries.get "battery" with
  | none => .ok (.heartbeat deviceId none)
  | some .null => .ok (.heartbeat deviceId none)
  | some value =>
    match (lax.toInt value).filter fun battery => 0 ≤ battery ∧ battery ≤ 100 with
    | none => .error (.requestValidation ["battery"])
    | some battery => .ok (.heartbeat deviceId (some battery))

/-! ### Requests -/

/-- The routes of `device_registry/router.py`. -/
inductive DeviceRoute
  | register (body : Body)
  | heartbeat (deviceId : DeviceId) (body : Body)
  | listDevices
  | deregister (deviceId : DeviceId)

/-- What a registration draws, and whether its commit goes through. -/
structure Draws where
  random : BitVec 128
  salt : String
  commits : Bool

/-- A request, with what it meets: the clock readings of the token check and of the answer, and the
surroundings of the session. -/
inductive Request
  | registerUser (body : Body) (draws : Draws)
  | login (username password : String) (issued : Nat)
  | device (authorization : Option String) (route : DeviceRoute) (checked : Nat)
    (answered : UtcTime) (around : Surroundings)

/-- What the client is answered. -/
inductive ApiAnswer
  /-- `UserOut`. -/
  | user (id : UserId) (email : String)
  | token (answer : LoginAnswer)
  /-- `DeviceOut`: all the columns. -/
  | device (device : DeviceRow)
  | heartbeat (deviceId : DeviceId) (isOnline : Bool) (timestamp : UtcTime)
  | devices (devices : List DeviceRow)
  | noContent

/-- The two services. -/
structure Site where
  users : Users
  registry : Registry

/-- The scheme and the parameter of an `Authorization` header: `partition(" ")`. -/
def schemeParam (header : String) : String × String :=
  (String.ofList (header.toList.takeWhile (· ≠ ' ')),
    String.ofList ((header.toList.dropWhile (· ≠ ' ')).drop 1))

/-- `OAuth2PasswordBearer`. -/
def bearerToken : Option String → Except AuthError String
  | none => .error (unauthorized notAuthenticated)
  | some header =>
    if (schemeParam header).1.toLower ≠ "bearer" then .error (unauthorized notAuthenticated)
    else .ok (schemeParam header).2

/-- The body of a route that has one. -/
def DeviceRoute.parse : DeviceRoute → Except Failure Unit
  | .register body => (parseBody body).map fun _ => ()
  | .heartbeat _ body => (parseBody body).map fun _ => ()
  | .listDevices => .ok ()
  | .deregister _ => .ok ()

/-- The call of the service that a route makes. -/
def DeviceRoute.validate (lax : LaxInt) : DeviceRoute → Except Failure RestCall
  | .register body => do
    let device ← body.entries.bind (deviceRegisterRequest lax)
    return .registerDevice device.name device.type device.priority
  | .heartbeat deviceId body => body.entries.bind (heartbeatRequest lax deviceId)
  | .listDevices => .ok .listDevices
  | .deregister deviceId => .ok (.deregisterDevice deviceId)

/-- The response models. -/
def DeviceRoute.respond (answered : UtcTime) : DeviceRoute → RestAnswer → ApiAnswer
  | .heartbeat .., .device device => .heartbeat device.id device.isOnline answered
  | _, .device device => .device device
  | _, .devices devices => .devices devices
  | _, _ => .noContent

section Serve

variable (libraries : Libraries) (settings : Settings) (lax : LaxInt)

/-- The fields of `UserRegisterRequest`, up to the check of the address. -/
def userRegisterRequest (draws : Draws) (entries : Dict Json) : Except Failure RegisterCall :=
  let email := (entries.get "email").bind text
  let password := (entries.get "password").bind text
  match email, password with
  | some email, some password =>
    .ok { email, password, random := draws.random, salt := draws.salt, commits := draws.commits }
  | _, _ => .error (.requestValidation
      (invalid "email" (email.bind (emailStr libraries.email)) ++ invalid "password" password))

/-- `POST /auth/register`. -/
def serveRegisterUser (site : Site) (body : Body) (draws : Draws) :
    Except Failure ApiAnswer × Site :=
  match (parseBody body).bind fun body =>
      body.entries.bind (userRegisterRequest libraries draws) with
  | .error failure => (.error failure, site)
  | .ok call =>
    (match ((register libraries call).exec site.users).1 with
      | .ok user => .ok (.user user.id user.email)
      | .error error => .error (ofAuth error),
    { site with users := (serveRegister libraries site.users call).2 })

/-- `POST /auth/login`. -/
def serveLogin (site : Site) (username password : String) (issued : Nat) :
    Except Failure ApiAnswer :=
  match login libraries settings site.users issued username password with
  | .ok answer => .ok (.token answer)
  | .error error => .error (ofAuth error)

/-- The dependency `CurrentUser` of a request. -/
def currentUser (users : Users) (authorization : Option String) (checked : Nat) :
    Except Failure User :=
  match (bearerToken authorization).bind (getCurrentUser libraries settings users checked) with
  | .ok user => .ok user
  | .error error => .error (ofAuth error)

/-- `solve_dependencies`, for a device request: the user and the call that its route is given. -/
def solveDependencies (users : Users) (authorization : Option String) (route : DeviceRoute)
    (checked : Nat) : Except Failure (User × RestCall) := do
  route.parse
  let user ← currentUser libraries settings users authorization checked
  let call ← route.validate lax
  return (user, call)

/-- A device request. -/
def serveDevice (site : Site) (authorization : Option String) (route : DeviceRoute)
    (checked : Nat) (answered : UtcTime) (around : Surroundings) :
    Except Failure ApiAnswer × Site :=
  match solveDependencies libraries settings lax site.users authorization route checked with
  | .error failure => (.error failure, site)
  | .ok (user, call) =>
    (match ((restSession user.id around call).exec site.registry).1 with
      | .ok answer => .ok (route.respond answered answer)
      | .error error => .error (ofApi error),
    { site with registry := (serveRest user.id site.registry (call, around)).2 })

/-- One request. -/
def serveRequest (site : Site) : Request → Except Failure ApiAnswer × Site
  | .registerUser body draws => serveRegisterUser libraries site body draws
  | .login username password issued =>
    (serveLogin libraries settings site username password issued, site)
  | .device authorization route checked answered around =>
    serveDevice libraries settings lax site authorization route checked answered around

def siteStep (site : Site) (request : Request) : Site :=
  (serveRequest libraries settings lax site request).2

/-- Whom a token speaks for, from the token and the clock alone. -/
def caller (authorization : Option String) (checked : Nat) : Option UserId :=
  match (bearerToken authorization).bind (decodeToken libraries settings checked) with
  | .ok userId => some userId
  | .error _ => none

end Serve

variable {libraries : Libraries} {settings : Settings} {lax : LaxInt} {users : Users}
  {site : Site} {authorization : Option String} {checked : Nat} {route : DeviceRoute} {user : User}
  {call : RestCall}

/-- The user of a request is the one its token speaks for. -/
theorem caller_of_currentUser
    (found : currentUser libraries settings users authorization checked = .ok user) :
    caller libraries settings authorization checked = some user.id ∧
      users.byId.find user.id = some user := by
  unfold currentUser at found
  unfold caller
  cases bearer : bearerToken authorization with
  | error error => simp [bearer, Except.bind] at found
  | ok token =>
    simp only [bearer, Except.bind, getCurrentUser] at found ⊢
    cases decoded : decodeToken libraries settings checked token with
    | error error => simp [decoded] at found
    | ok userId =>
      simp only [decoded] at found ⊢
      cases stored : users.byId.find userId with
      | none => simp [stored] at found
      | some row =>
        obtain rfl : row = user := by simpa [stored] using found
        have here : row.id = userId := (Table.find_eq_some.mp stored).2
        exact ⟨congrArg some here.symm, here ▸ stored⟩

/-- A request that gets to its route has a user, and a call that its body validates to. -/
theorem solveDependencies_ok
    (admitted : solveDependencies libraries settings lax users authorization route checked =
      .ok (user, call)) :
    currentUser libraries settings users authorization checked = .ok user ∧
      route.validate lax = .ok call := by
  unfold solveDependencies at admitted
  cases parsed : route.parse with
  | error failure => simp [parsed, Bind.bind, Except.bind] at admitted
  | ok _ =>
    cases found : currentUser libraries settings users authorization checked with
    | error failure => simp [parsed, found, Bind.bind, Except.bind] at admitted
    | ok someone =>
      cases valid : route.validate lax with
      | error failure => simp [parsed, found, valid, Bind.bind, Except.bind] at admitted
      | ok validated =>
        simp only [parsed, found, valid, Bind.bind, Except.bind, Pure.pure, Except.pure,
          Except.ok.injEq, Prod.mk.injEq] at admitted
        exact ⟨congrArg Except.ok admitted.1, congrArg Except.ok admitted.2⟩

/-! ### What is registered -/

/-- The row that a call makes. -/
def Registers (user : UserId) (row : DeviceRow) : RestCall → Prop
  | .registerDevice _ deviceType priority =>
    row.userId = user ∧ row.type = deviceType ∧ row.priority = priority
  | _ => False

/-- **What a body validates to.** -/
theorem validate_registers {owner : UserId} {row : DeviceRow}
    (valid : route.validate lax = .ok call) (registers : Registers owner row call) :
    ∃ body : DeviceRegisterRequest,
      row.userId = owner ∧ row.type = body.type ∧ row.priority = body.priority := by
  cases route with
  | listDevices =>
    cases valid
    exact registers.elim
  | deregister deviceId =>
    cases valid
    exact registers.elim
  | heartbeat deviceId body =>
    simp only [DeviceRoute.validate] at valid
    cases entries : body.entries with
    | error failure => simp [entries, Except.bind] at valid
    | ok fields =>
      simp only [entries, Except.bind, heartbeatRequest] at valid
      split at valid
      · cases valid
        exact registers.elim
      · cases valid
        exact registers.elim
      · split at valid
        · cases valid
        · cases valid
          exact registers.elim
  | register body =>
    simp only [DeviceRoute.validate] at valid
    cases device : body.entries.bind (deviceRegisterRequest lax) with
    | error failure =>
      rw [device] at valid
      cases valid
    | ok device' =>
      rw [device] at valid
      cases valid
      exact ⟨device', registers⟩

section Rows

variable {r : Registry} {ok : DeviceRow → Prop}

/-- A property of every device row. -/
def Rows (ok : DeviceRow → Prop) (r : Registry) : Prop := ∀ row ∈ r.devices.rows, ok row

/-- A session that keeps it, answering or not. -/
def KeepsRows {α : Type} (ok : DeviceRow → Prop) (session : RestSession α) : Prop :=
  Session.Triple (Rows ok) session (fun _ => Rows ok) (Rows ok)

theorem getDeviceForUser_keepsRows (deviceId : DeviceId) (user : UserId) :
    KeepsRows ok (getDeviceForUser deviceId user) := by
  intro now rows
  simp only [getDeviceForUser, Session.exec_bind, Session.exec_get]
  cases now.devices.find deviceId with
  | none => exact rows
  | some device =>
    by_cases owner : device.userId = user
    · simp only [owner, ne_eq, not_true_eq_false, if_false]
      exact rows
    · simp only [owner, ne_eq, not_false_eq_true, if_true]
      exact rows

theorem redisCommand_keepsRows (link : RedisLink)
    (effect : (String → Option String) → String → Option String) :
    KeepsRows ok (redisCommand link effect) := by
  cases link with
  | up => exact .of_modify fun _ => id
  | null => exact .of_pure fun _ => id
  | down => exact .of_throw fun _ => id

/-- **A request registers one row at most**, and a heartbeat leaves what it keeps of the others. -/
theorem restSession_keepsRows {user : UserId} (around : Surroundings)
    (beats : ∀ now row, ok row → ok (beat now row))
    (registers : ∀ row, Registers user row call → ok row) :
    KeepsRows ok (restSession user around call) := by
  have answered : ∀ {α : Type} (a : α), KeepsRows ok (pure a) := fun _ => .of_pure fun _ => id
  have map : ∀ {α β : Type} {session : RestSession α} (f : α → β), KeepsRows ok session →
      KeepsRows ok (f <$> session) := by
    intro α β session f kept
    rw [map_eq_pure_bind]
    exact kept.bind fun _ => answered _
  cases call with
  | registerDevice name deviceType priority =>
    have inserts : ∀ row, ok row → KeepsRows ok (insertDevice around.accepts row) := by
      intro row made now rows
      simp only [insertDevice, Session.exec_bind, Session.exec_get]
      by_cases fresh : now.devices.find row.id = none ∧ around.accepts = true
      · rw [dif_pos fresh]
        intro other member
        rcases List.mem_append.mp member with before | last
        · exact rows other before
        · exact (List.mem_singleton.mp last) ▸ made
      · rw [dif_neg fresh]
        exact rows
    exact map _ ((inserts _ (registers _ ⟨rfl, rfl, rfl⟩)).bind fun _ => answered _)
  | heartbeat deviceId battery =>
    refine map _ ((getDeviceForUser_keepsRows deviceId user).bind fun device => ?_)
    have updates : KeepsRows ok (modify (beatDevice device.id around.now)) := by
      refine .of_modify fun now rows other member => ?_
      obtain ⟨row, inside, rfl⟩ := List.mem_map.mp member
      split
      · exact beats _ _ (rows row inside)
      · exact rows row inside
    refine updates.bind fun _ => (redisCommand_keepsRows _ _).bind fun _ => ?_
    cases battery with
    | none => exact answered _
    | some level => exact (redisCommand_keepsRows _ _).bind fun _ => answered _
  | listDevices =>
    have lists : KeepsRows ok (listDevices user) := fun _ rows => rows
    exact map _ lists
  | deregisterDevice deviceId =>
    have deletes : KeepsRows ok (deregisterDevice around deviceId user) := by
      refine (getDeviceForUser_keepsRows deviceId user).bind fun device => ?_
      have gone : KeepsRows ok (modify (deleteDevice device.id)) :=
        .of_modify fun now rows other member => rows other (List.mem_filter.mp member).1
      exact gone.bind fun _ => redisCommand_keepsRows _ _
    exact deletes.bind fun _ => answered _
  | recordUsage deviceId appCategory durationSeconds =>
    refine map _ ?_
    intro now rows
    simp only [recordUsage, Session.exec_bind, Session.exec_get]
    cases now.devices.find deviceId with
    | none => exact rows
    | some device =>
      by_cases owner : device.userId = user
      · have records : ∀ row, KeepsRows ok (insertUsageEvent around.accepts row) := by
          intro row now rows
          simp only [insertUsageEvent, Session.exec_bind, Session.exec_get]
          by_cases fresh : now.usageEvents.find row.id = none ∧ around.accepts = true
          · rw [dif_pos fresh]
            exact rows
          · rw [dif_neg fresh]
            exact rows
        simp only [owner, ne_eq, not_true_eq_false, if_false]
        exact ((records _).bind fun _ => answered _) now rows
      · simp only [owner, ne_eq, not_false_eq_true, if_true]
        exact rows
  | dailySummary targetDate =>
    have sums : KeepsRows ok (dailySummary user targetDate) := fun _ rows => rows
    exact map _ sums

theorem serveRest_keepsRows {user : UserId} {around : Surroundings}
    (beats : ∀ now row, ok row → ok (beat now row))
    (registers : ∀ row, Registers user row call → ok row) (rows : Rows ok r) :
    Rows ok (serveRest user r (call, around)).2 := by
  have kept := restSession_keepsRows around beats registers r rows
  unfold serveRest Rest.getDb
  generalize (restSession user around call).exec r = outcome at kept ⊢
  obtain ⟨answer | answer, next⟩ := outcome
  · exact rows
  · cases around.commits with
    | true => exact kept
    | false => exact rows

end Rows

/-! ### Every run -/

/-- What holds of a registered device: it belongs to a user, and its columns are those of a body
that validates. -/
structure WellFormedRow (users : Users) (row : DeviceRow) : Prop where
  owner : ∃ user ∈ users.byId.rows, user.id = row.userId
  knownType : row.type ∈ ["phone", "tablet", "laptop"]
  inRange : 1 ≤ row.priority ∧ row.priority ≤ 10

def WellFormed (site : Site) : Prop := Rows (WellFormedRow site.users) site.registry

theorem WellFormedRow.mono {later : Users} {row : DeviceRow} (wellFormed : WellFormedRow users row)
    (more : users.byId.rows ⊆ later.byId.rows) : WellFormedRow later row where
  owner := by
    obtain ⟨user, member, owner⟩ := wellFormed.owner
    exact ⟨user, more member, owner⟩
  knownType := wellFormed.knownType
  inRange := wellFormed.inRange

/-- What a request may do to the registry: nothing, or something to what belongs to the registered
user that its token speaks for. -/
inductive Permitted (libraries : Libraries) (settings : Settings) (site next : Site) :
    Request → Prop
  | nothing {request : Request} (same : next.registry = site.registry) :
    Permitted libraries settings site next request
  | own {authorization : Option String} {route : DeviceRoute} {checked : Nat} {answered : UtcTime}
    {around : Surroundings} {user : User}
    (token : caller libraries settings authorization checked = some user.id)
    (registered : site.users.byId.find user.id = some user)
    (untouched : Untouched user.id site.registry next.registry) :
    Permitted libraries settings site next
      (.device authorization route checked answered around)

/-- What a device request leaves. -/
theorem serveDevice_cases (libraries : Libraries) (settings : Settings) (lax : LaxInt)
    (site : Site) (authorization : Option String) (route : DeviceRoute) (checked : Nat)
    (answered : UtcTime) (around : Surroundings) :
    (serveDevice libraries settings lax site authorization route checked answered around).2 = site ∨
      ∃ user call, solveDependencies libraries settings lax site.users authorization route checked =
          .ok (user, call) ∧
        (serveDevice libraries settings lax site authorization route checked answered around).2 =
          { site with registry := (serveRest user.id site.registry (call, around)).2 } := by
  unfold serveDevice
  cases admitted :
      solveDependencies libraries settings lax site.users authorization route checked with
  | error failure => exact .inl rfl
  | ok both => exact .inr ⟨both.1, both.2, rfl, rfl⟩

/-- A registration of a user touches the users only, and keeps those there are. -/
theorem serveRegisterUser_cases (libraries : Libraries) (site : Site) (body : Body)
    (draws : Draws) :
    (serveRegisterUser libraries site body draws).2.registry = site.registry ∧
      site.users.byId.rows ⊆ (serveRegisterUser libraries site body draws).2.users.byId.rows := by
  unfold serveRegisterUser
  cases (parseBody body).bind fun body =>
      body.entries.bind (userRegisterRequest libraries draws) with
  | error failure => exact ⟨rfl, List.Subset.refl _⟩
  | ok call =>
    exact ⟨rfl, (registered_extends site.users [call]).subset⟩

theorem siteStep_permitted (site : Site) (request : Request) :
    Permitted libraries settings site (siteStep libraries settings lax site request) request := by
  cases request with
  | registerUser body draws => exact .nothing (serveRegisterUser_cases libraries site body draws).1
  | login username password issued => exact .nothing rfl
  | device authorization route checked answered around =>
    show Permitted libraries settings site (serveDevice _ _ _ _ _ _ _ _ _).2 _
    rcases serveDevice_cases libraries settings lax site authorization route checked answered
      around with same | ⟨user, call, admitted, next⟩
    · rw [same]
      exact .nothing rfl
    · rw [next]
      obtain ⟨token, registered⟩ := caller_of_currentUser (solveDependencies_ok admitted).1
      exact .own token registered (serveRest_confined user.id site.registry (call, around)).1

theorem siteStep_wellFormed (wellFormed : WellFormed site) (request : Request) :
    WellFormed (siteStep libraries settings lax site request) := by
  cases request with
  | registerUser body draws =>
    obtain ⟨registry, users⟩ := serveRegisterUser_cases libraries site body draws
    intro row member
    refine (wellFormed row ?_).mono users
    rw [← registry]
    exact member
  | login username password issued => exact wellFormed
  | device authorization route checked answered around =>
    show WellFormed (serveDevice _ _ _ _ _ _ _ _ _).2
    rcases serveDevice_cases libraries settings lax site authorization route checked answered
      around with same | ⟨user, call, admitted, next⟩
    · rw [same]
      exact wellFormed
    · rw [next]
      obtain ⟨found, valid⟩ := solveDependencies_ok admitted
      have stored := (caller_of_currentUser found).2
      refine serveRest_keepsRows (fun _ row kept => ?_) (fun row registers => ?_) wellFormed
      · exact ⟨kept.owner, kept.knownType, kept.inRange⟩
      · obtain ⟨body, owner, type, priority⟩ := validate_registers valid registers
        exact ⟨⟨user, (Table.find_eq_some.mp stored).1, owner.symm⟩, type ▸ body.knownType,
          priority ▸ body.inRange⟩

/-- **What comes in over HTTP.** After any requests, well-formed or not, every registered device
belongs to a user and has the columns of a body that validates; and each request on the way has
changed nothing in the registry but what belongs to the registered user its token speaks for. -/
theorem registry_guarded (libraries : Libraries) (settings : Settings) (lax : LaxInt) (site : Site)
    (wellFormed : WellFormed site) (requests : List Request) :
    WellFormed (run (siteStep libraries settings lax) site requests) ∧
      ∀ before request after, requests = before ++ request :: after →
        Permitted libraries settings (run (siteStep libraries settings lax) site before)
          (run (siteStep libraries settings lax) site (before ++ [request])) request := by
  constructor
  · have kept : ∀ now request, WellFormed now →
        WellFormed (siteStep libraries settings lax now request) :=
      fun _ request held => siteStep_wellFormed held request
    exact run_invariant _ kept wellFormed requests
  · intro before request after _
    rw [run_concat]
    exact siteStep_permitted _ request

/-! ### The requests of others -/

/-- The device id that a request draws. -/
def drawnBy : Request → Option DeviceId
  | .device _ (.register _) _ _ around => some around.uuid
  | _ => none

/-- A device request draws what its call does. -/
theorem validate_draws (authorization : Option String) (checked : Nat) (answered : UtcTime)
    (around : Surroundings) (valid : route.validate lax = .ok call) :
    (∀ id ∈ drawnDevice (call, around),
      id ∈ drawnBy (.device authorization route checked answered around)) ∧
        drawnEvent (call, around) = none := by
  cases route with
  | listDevices =>
    cases valid
    exact ⟨nofun, rfl⟩
  | deregister deviceId =>
    cases valid
    exact ⟨nofun, rfl⟩
  | register body =>
    simp only [DeviceRoute.validate] at valid
    cases device : body.entries.bind (deviceRegisterRequest lax) with
    | error failure =>
      rw [device] at valid
      cases valid
    | ok device' =>
      rw [device] at valid
      cases valid
      exact ⟨fun _ drawn => drawn, rfl⟩
  | heartbeat deviceId body =>
    simp only [DeviceRoute.validate] at valid
    cases entries : body.entries with
    | error failure => simp [entries, Except.bind] at valid
    | ok fields =>
      simp only [entries, Except.bind, heartbeatRequest] at valid
      split at valid
      · cases valid
        exact ⟨nofun, rfl⟩
      · cases valid
        exact ⟨nofun, rfl⟩
      · split at valid
        · cases valid
        · cases valid
          exact ⟨nofun, rfl⟩

/-- The device ids that the requests draw are new, and no two of them draw the same. -/
structure Unclashing (site : Site) (requests : List Request) : Prop where
  distinct : (requests.filterMap drawnBy).Nodup
  vacant : Vacant (requests.filterMap drawnBy) [] site.registry

theorem siteStep_vacant {deviceIds : List DeviceId} (vacant : Vacant deviceIds [] site.registry)
    {request : Request} (apart : ∀ id ∈ drawnBy request, id ∉ deviceIds) :
    Vacant deviceIds [] (siteStep libraries settings lax site request).registry := by
  cases request with
  | registerUser body draws =>
    show Vacant deviceIds [] (serveRegisterUser libraries site body draws).2.registry
    rw [(serveRegisterUser_cases libraries site body draws).1]
    exact vacant
  | login username password issued => exact vacant
  | device authorization route checked answered around =>
    show Vacant deviceIds [] (serveDevice _ _ _ _ _ _ _ _ _).2.registry
    rcases serveDevice_cases libraries settings lax site authorization route checked answered
      around with same | ⟨user, call, admitted, next⟩
    · rw [same]
      exact vacant
    · rw [next]
      obtain ⟨draws, -⟩ := validate_draws authorization checked answered around
        (solveDependencies_ok admitted).2
      exact serveRest_vacant user.id vacant (fun id drawn => apart id (draws id drawn))
        fun _ _ => List.not_mem_nil

/-- What belongs to a user, and who the users are. -/
def siteView (user : UserId) (site : Site) : Users × OwnView :=
  (site.users, ownView user site.registry)

/-- The requests that are kept: the registrations, the logins, and the device requests whose token
speaks for the user. -/
def concerns (libraries : Libraries) (settings : Settings) (user : UserId) : Request → Bool
  | .registerUser .. => true
  | .login .. => true
  | .device authorization _ checked _ _ =>
    caller libraries settings authorization checked = some user

def Failure.blur : Failure → Failure
  | .http statusCode detail =>
    if statusCode = 403 ∨ statusCode = 404 then .http 404 "" else .http statusCode detail
  | failure => failure

theorem blur_ofApi (error : ApiError) : (ofApi error).blur = ofApi error.blur := by
  cases error with
  | http statusCode detail =>
    unfold ofApi Failure.blur ApiError.blur
    dsimp only
    split <;> rfl
  | integrityError => rfl
  | connectionError => rfl

/-- What the client is told, when somebody else's device and nobody's are not told apart. -/
def replied (libraries : Libraries) (settings : Settings) (lax : LaxInt) (site : Site)
    (request : Request) : Except Failure ApiAnswer :=
  (serveRequest libraries settings lax site request).1.mapError Failure.blur

/-- **A device request of the user**, on two sites that show the user the same. -/
theorem serveDevice_twin {s t : Site} {owner : UserId} {authorization : Option String}
    {route : DeviceRoute} {checked : Nat} {answered : UtcTime} {around : Surroundings}
    (mine : caller libraries settings authorization checked = some owner)
    (same : siteView owner s = siteView owner t)
    (new : Vacant (drawnBy (.device authorization route checked answered around)).toList []
      s.registry)
    (new' : Vacant (drawnBy (.device authorization route checked answered around)).toList []
      t.registry) :
    replied libraries settings lax s (.device authorization route checked answered around) =
        replied libraries settings lax t (.device authorization route checked answered around) ∧
      siteView owner (siteStep libraries settings lax s
          (.device authorization route checked answered around)) =
        siteView owner (siteStep libraries settings lax t
          (.device authorization route checked answered around)) := by
  obtain ⟨users, views⟩ := Prod.mk.inj same
  simp only [replied, siteStep, serveRequest, serveDevice]
  rw [← users]
  cases admitted : solveDependencies libraries settings lax s.users authorization route checked with
  | error failure => exact ⟨rfl, same⟩
  | ok both =>
    obtain ⟨user, call⟩ := both
    obtain ⟨found, valid⟩ := solveDependencies_ok admitted
    have owns : user.id = owner :=
      Option.some.inj ((caller_of_currentUser found).1.symm.trans mine)
    subst owns
    obtain ⟨draws, records⟩ := validate_draws authorization checked answered around valid
    have drawsNew : ∀ r : Registry,
        Vacant (drawnBy (.device authorization route checked answered around)).toList [] r →
          DrawsNew (call, around) r := by
      intro r vacant
      refine ⟨fun id drawn => ?_, fun id drawn => ?_⟩
      · exact vacant.devices id (Option.mem_toList.mpr (draws id (Option.mem_toList.mp drawn)))
      · rw [records] at drawn
        cases drawn
    constructor
    · have both := restSession_twin around call s.registry s.registry t.registry
        ⟨⟨rfl, drawsNew _ new, drawsNew _ new'⟩, alike_start views⟩
      dsimp only
      generalize (restSession user.id around call).exec s.registry = left at both ⊢
      generalize (restSession user.id around call).exec t.registry = right at both ⊢
      obtain ⟨a | a, s'⟩ := left <;> obtain ⟨b | b, t'⟩ := right
      · show Except.error (ofApi a).blur = Except.error (ofApi b).blur
        rw [blur_ofApi, blur_ofApi, both.1]
      · exact both.elim
      · exact both.elim
      · obtain ⟨⟨rfl, -⟩, -⟩ := both
        rfl
    · exact congrArg (Prod.mk s.users) (serveRest_twin (drawsNew _ new) (drawsNew _ new') views).2

/-- **What a user can tell of strangers.** Whatever device requests come in under the tokens of
others, under forged ones and under none, they can be left out of a run: the user has the same and
is answered the same. -/
theorem strangers_untold (libraries : Libraries) (settings : Settings) (lax : LaxInt)
    (user : UserId) (site : Site) (requests : List Request)
    (unclashing : Unclashing site requests) :
    siteView user (run (siteStep libraries settings lax) site requests) =
        siteView user (run (siteStep libraries settings lax) site
          (requests.filter (concerns libraries settings user))) ∧
      heard (siteStep libraries settings lax) (replied libraries settings lax)
          (concerns libraries settings user) site requests =
        heard (siteStep libraries settings lax) (replied libraries settings lax)
          (concerns libraries settings user) site
          (requests.filter (concerns libraries settings user)) := by
  have later : ∀ site request requests, Unclashing site (request :: requests) →
      Unclashing (siteStep libraries settings lax site request) requests := by
    intro site request requests fits
    refine
      ⟨fits.distinct.sublist (drawn_tail _ _ _), siteStep_vacant ?_ (drawn_apart fits.distinct)⟩
    exact fits.vacant.sublist (drawn_tail _ _ _) (List.Sublist.refl _)
  have skipped : ∀ site request requests, Unclashing site (request :: requests) →
      Unclashing site requests := by
    intro site request requests fits
    exact ⟨fits.distinct.sublist (drawn_tail _ _ _),
      fits.vacant.sublist (drawn_tail _ _ _) (List.Sublist.refl _)⟩
  have stays : ∀ site request requests, Unclashing site (request :: requests) →
      concerns libraries settings user request = false →
        siteView user (siteStep libraries settings lax site request) = siteView user site := by
    intro site request requests _ other
    cases request with
    | registerUser body draws => cases other
    | login username password issued => cases other
    | device authorization route checked answered around =>
      show siteView user (serveDevice _ _ _ _ _ _ _ _ _).2 = _
      rcases serveDevice_cases libraries settings lax site authorization route checked answered
        around with same | ⟨someone, call, admitted, next⟩
      · rw [same]
      · rw [next]
        have token := (caller_of_currentUser (solveDependencies_ok admitted).1).1
        have apart : user ≠ someone.id := by
          rintro rfl
          exact of_decide_eq_false other token
        exact congrArg (Prod.mk site.users) (ownView_of_untouched apart
          (serveRest_confined someone.id site.registry (call, around)).1)
  have follows : ∀ s t request requests, Unclashing s (request :: requests) →
      Unclashing t (request :: requests) → concerns libraries settings user request = true →
      siteView user s = siteView user t →
      replied libraries settings lax s request = replied libraries settings lax t request ∧
        siteView user (siteStep libraries settings lax s request) =
          siteView user (siteStep libraries settings lax t request) := by
    intro s t request requests fits fits' own same
    obtain ⟨users, views⟩ := Prod.mk.inj same
    cases request with
    | registerUser body draws =>
      simp only [replied, siteStep, serveRequest, serveRegisterUser]
      rw [users]
      cases (parseBody body).bind
        fun body => body.entries.bind (userRegisterRequest libraries draws) with
      | error failure => exact ⟨rfl, same⟩
      | ok call => exact ⟨rfl, congrArg (Prod.mk _) views⟩
    | login username password issued =>
      refine ⟨?_, same⟩
      simp only [replied, serveRequest, serveLogin]
      rw [users]
    | device authorization route checked answered around =>
      have new : ∀ site, Unclashing site (.device authorization route checked answered around ::
          requests) → Vacant (drawnBy (.device authorization route checked answered around)).toList
            [] site.registry := by
        intro site fits
        refine ⟨fun id drawn => ?_, nofun⟩
        exact fits.vacant.devices id (mem_drawn_head (Option.mem_toList.mp drawn))
      exact serveDevice_twin (of_decide_eq_true own) same (new s fits) (new t fits')
  exact run_purge _ _ _ later skipped stays follows unclashing unclashing rfl

/-! ### Two parents -/

section Fixtures

def dad : User := ⟨"00000000-0000-4000-8000-000000000001", "dad@home.org", "secret"⟩

/-- Two users, and no device yet. -/
def twoParents : Site where
  users := (Users.empty.insert mum (by decide)).insert dad (by decide)
  registry := noDevices

/-- Tokens are good for the second they are issued in. -/
def briefSettings : Settings := ⟨"change-me-in-production", 0⟩

/-- The header of a token of a user. -/
def bearer (user : User) : Option String :=
  some ("Bearer " ++ createAccessToken someLibraries briefSettings 0 user.id)

/-- Integer fields take integers. -/
def plainInt : LaxInt where
  toInt
    | .int value => some value
    | _ => none
  toInt_int _ := rfl

/-- Mum registers a tablet. Dad tries to remove it, somebody without a token lists devices, and
somebody registers a console. -/
def strangersAround : List Request :=
  [.device (bearer mum)
      (.register (.json (.obj [("name", .str "Tablet"), ("type", .str "tablet")]))) 0
      (someTime 12 0) (undisturbed "tablet" 0),
    .device (bearer dad) (.deregister "tablet") 0 (someTime 12 0) (undisturbed "" 0),
    .device none .listDevices 0 (someTime 12 0) (undisturbed "" 0),
    .device (bearer dad) (.register (.json (.obj [("name", .str "Console"),
      ("type", .str "console")]))) 0 (someTime 12 0) (undisturbed "console" 0),
    .device (bearer mum) (.heartbeat "tablet" (.json (.obj [("battery", .int 80)]))) 0
      (someTime 12 0) (undisturbed "" 0)]

end Fixtures

theorem registry_guarded_parents :
    WellFormed (run (siteStep someLibraries briefSettings plainInt) twoParents strangersAround) ∧
      ∀ before request after, strangersAround = before ++ request :: after →
        Permitted someLibraries briefSettings
          (run (siteStep someLibraries briefSettings plainInt) twoParents before)
          (run (siteStep someLibraries briefSettings plainInt) twoParents (before ++ [request]))
          request :=
  registry_guarded someLibraries briefSettings plainInt twoParents nofun strangersAround

theorem strangers_untold_mum :
    siteView mum.id (run (siteStep someLibraries briefSettings plainInt) twoParents
          strangersAround) =
        siteView mum.id (run (siteStep someLibraries briefSettings plainInt) twoParents
          (strangersAround.filter (concerns someLibraries briefSettings mum.id))) ∧
      heard (siteStep someLibraries briefSettings plainInt)
          (replied someLibraries briefSettings plainInt)
          (concerns someLibraries briefSettings mum.id) twoParents strangersAround =
        heard (siteStep someLibraries briefSettings plainInt)
          (replied someLibraries briefSettings plainInt)
          (concerns someLibraries briefSettings mum.id) twoParents
          (strangersAround.filter (concerns someLibraries briefSettings mum.id)) :=
  strangers_untold someLibraries briefSettings plainInt mum.id twoParents strangersAround
    { distinct := by decide
      vacant := ⟨fun _ _ => ⟨rfl, nofun, nofun, rfl, rfl⟩, nofun⟩ }

-- Each of the tokens speaks for its user.
example : (strangersAround.map (concerns someLibraries briefSettings mum.id)) =
      [true, false, false, false, true] ∧
    caller someLibraries briefSettings (bearer dad) 0 = some dad.id := by
  decide +kernel

end ScreenSync.App
