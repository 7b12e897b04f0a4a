/-
**The device registry and the usage service.**

`device_registry/service.py` and `usage_ingestion/service.py` over the three tables they reach and
the Redis keys of the device state. A call runs in a database session: `getDb` commits what an
answering call has done and rolls a raising one back; what it has done to Redis stays either way.

* `registerDevice`, `heartbeat`, `listDevices`, `deregisterDevice` — the registry, on raw device
  ids.
* `recordUsage`, `dailySummary` — the usage of a user's devices.
* `serveRest` — one request of a user.
-/

import ScreenSync.Foundation.Session
import ScreenSync.Shared.Database

namespace ScreenSync.Rest

open ScreenSync.Foundation ScreenSync.Shared

/-! ### Tables -/

/-- A row of `devices`, with all its columns. -/
structure DeviceRow where
  id : DeviceId
  userId : UserId
  name : String
  type : String
  priority : Int
  lastHeartbeat : Option UtcTime
  isOnline : Bool
  registeredAt : UtcTime
  deriving DecidableEq

/-- A row of `usage_events`. -/
structure UsageEvent where
  id : Int
  deviceId : DeviceId
  appCategory : String
  durationSeconds : Int
  recordedAt : UtcTime
  deriving DecidableEq

/-- The tables, and the text keys of Redis. -/
structure Registry where
  devices : Table DeviceRow.id
  usageEvents : Table UsageEvent.id
  budgets : Table Budget.key
  redis : String → Option String

/-! ### What a call may raise -/

/-- `HTTPException`, and what the database and Redis raise. -/
inductive ApiError
  | http (statusCode : Nat) (detail : String)
  | integrityError
  | connectionError
  deriving DecidableEq

def deviceNotFound (deviceId : DeviceId) : ApiError :=
  .http 404 ("Device '" ++ deviceId ++ "' not found.")

def forbidden (detail : String) : ApiError := .http 403 detail

def insufficientPermissions : String := "Insufficient permissions"

/-! ### Surroundings of a call -/

/-- What becomes of a Redis command. -/
inductive RedisLink
  | up
  /-- Redis is disabled: the commands of `NullRedis` do nothing. -/
  | null
  | down

/-- What a call meets with: its clock and that of the database, the keys drawn for a new row,
whether the database accepts its statements and its commit, and what becomes of its Redis
commands. -/
structure Surroundings where
  now : UtcTime
  databaseNow : UtcTime
  uuid : DeviceId
  eventId : Int
  accepts : Bool
  commits : Bool
  redis : RedisLink
  secondRedis : RedisLink

abbrev RestSession (α : Type) := Session ApiError Registry α

/-- A Redis command. -/
def redisCommand (link : RedisLink) (effect : (String → Option String) → String → Option String) :
    RestSession Unit :=
  match link with
  | .up => modify fun r => { r with redis := effect r.redis }
  | .null => pure ()
  | .down => throw .connectionError

/-- `setex`; no key expires. -/
def setex (link : RedisLink) (key value : String) : RestSession Unit :=
  redisCommand link fun redis => Function.update redis key (some value)

/-- `INSERT INTO devices`. -/
def insertDevice (accepts : Bool) (row : DeviceRow) : RestSession Unit := do
  let r ← get
  if fresh : r.devices.find row.id = none ∧ accepts = true then
    set { r with devices := r.devices.insert row fresh.1 }
  else throw .integrityError

/-- `INSERT INTO usage_events`. -/
def insertUsageEvent (accepts : Bool) (row : UsageEvent) : RestSession Unit := do
  let r ← get
  if fresh : r.usageEvents.find row.id = none ∧ accepts = true then
    set { r with usageEvents := r.usageEvents.insert row fresh.1 }
  else throw .integrityError

/-- `UPDATE devices SET … WHERE id = …`. -/
def updateDevice (deviceId : DeviceId) (values : DeviceRow → DeviceRow)
    (keeps : ∀ row, (values row).id = row.id) (r : Registry) : Registry :=
  { r with devices := r.devices.updateWhere (fun row => row.id = deviceId) values keeps }

/-- `db.delete(device)`, which cascades to the budgets and the usage events of the device. -/
def deleteDevice (deviceId : DeviceId) (r : Registry) : Registry :=
  { r with
    devices := r.devices.deleteWhere fun row => row.id = deviceId
    usageEvents := r.usageEvents.deleteWhere fun row => row.deviceId = deviceId
    budgets := r.budgets.deleteWhere fun row => row.deviceId = deviceId }

/-- `get_db`. -/
def getDb {α : Type} (commits : Bool) (call : RestSession α) (r : Registry) :
    Except ApiError α × Registry :=
  match call.exec r with
  | (.ok answer, next) =>
    if commits then (.ok answer, next)
    else (.error .integrityError, { r with redis := next.redis })
  | (.error error, next) => (.error error, { r with redis := next.redis })

/-! ### `device_registry/service.py` -/

def onlineKey (deviceId : DeviceId) : String := "device:online:" ++ deviceId

def batteryKey (deviceId : DeviceId) : String := "device:battery:" ++ deviceId

def getDeviceForUser (deviceId : DeviceId) (userId : UserId) : RestSession DeviceRow := do
  let r ← get
  match r.devices.find deviceId with
  | none => throw (deviceNotFound deviceId)
  | some device =>
    if device.userId ≠ userId then throw (forbidden "Device belongs to another user")
    else return device

/-- `register_device`. -/
def registerDevice (around : Surroundings) (user : UserId) (name deviceType : String)
    (priority : Int) : RestSession DeviceRow := do
  let device : DeviceRow :=
    { id := around.uuid
      userId := user
      name
      type := deviceType
      priority
      isOnline := true
      lastHeartbeat := some around.now
      registeredAt := around.databaseNow }
  insertDevice around.accepts device
  return device

/-- The columns a heartbeat sets. -/
def beat (now : UtcTime) (device : DeviceRow) : DeviceRow :=
  { device with isOnline := true, lastHeartbeat := some now }

/-- `UPDATE devices SET is_online = true, last_heartbeat = now WHERE id = …`. -/
def beatDevice (deviceId : DeviceId) (now : UtcTime) : Registry → Registry :=
  updateDevice deviceId (beat now) fun _ => rfl

/-- `heartbeat`. -/
def heartbeat (around : Surroundings) (deviceId : DeviceId) (user : UserId)
    (battery : Option Int) : RestSession DeviceRow := do
  let device ← getDeviceForUser deviceId user
  modify (beatDevice device.id around.now)
  setex around.redis (onlineKey deviceId) "1"
  match battery with
  | none => pure ()
  | some level => setex around.secondRedis (batteryKey deviceId) level.repr
  return beat around.now device

/-- `list_devices`. -/
def listDevices (user : UserId) : RestSession (List DeviceRow) := do
  let r ← get
  let devices := r.devices.rows.filter fun device => device.userId = user
  return devices.mergeSort fun first second => first.registeredAt ≤ second.registeredAt

/-- `deregister_device`. -/
def deregisterDevice (around : Surroundings) (deviceId : DeviceId) (user : UserId) :
    RestSession Unit := do
  let device ← getDeviceForUser deviceId user
  modify (deleteDevice device.id)
  redisCommand around.redis fun redis =>
    Function.update (Function.update redis (onlineKey deviceId) none) (batteryKey deviceId) none

/-! ### `usage_ingestion/service.py` -/

/-- The `UsageEvent` of a report. -/
def newUsageEvent (around : Surroundings) (deviceId : DeviceId) (appCategory : String)
    (durationSeconds : Int) : UsageEvent where
  id := around.eventId
  deviceId
  appCategory
  durationSeconds
  recordedAt := around.databaseNow

/-- `record_usage`. -/
def recordUsage (around : Surroundings) (deviceId : DeviceId) (appCategory : String)
    (durationSeconds : Int) (user : UserId) : RestSession UsageEvent := do
  let r ← get
  match r.devices.find deviceId with
  | none => throw (deviceNotFound deviceId)
  | some device =>
    if device.userId ≠ user then throw (forbidden insufficientPermissions)
    else
      let event := newUsageEvent around deviceId appCategory durationSeconds
      insertUsageEvent around.accepts event
      return event

/-- What `daily_summary` adds up for a device. -/
structure DeviceUsage where
  total : Int
  byCategory : Dict Int

structure DailySummaryItem where
  deviceId : DeviceId
  deviceName : String
  date : Date
  totalSeconds : Int
  byCategory : Dict Int

/-- 23:59:59 of a date. -/
def lastSecond (date : Date) : UtcTime where
  micros := date.days * dayMicros + 86399000000
  inRange := by
    have days := date.inRange
    have full : (date.days + 1) * dayMicros ≤ calendarDays * dayMicros :=
      Nat.mul_le_mul_right _ days
    have part : 86399000000 < dayMicros := by decide
    rw [Nat.add_mul, Nat.one_mul] at full
    omega

/-- One turn of the loop over the events. -/
def addUsage (perDevice : Dict DeviceUsage) (e : UsageEvent) : Dict DeviceUsage :=
  let data := (perDevice.get e.deviceId).getD ⟨0, []⟩
  perDevice.set e.deviceId
    { total := data.total + e.durationSeconds
      byCategory := data.byCategory.set e.appCategory
        ((data.byCategory.get e.appCategory).getD 0 + e.durationSeconds) }

/-- `daily_summary`. -/
def dailySummary (user : UserId) (targetDate : Date) : RestSession (List DailySummaryItem) := do
  let r ← get
  let devices := r.devices.rows.filter fun device => device.userId = user
  let events := r.usageEvents.rows.filter fun e =>
    e.deviceId ∈ devices.map DeviceRow.id ∧ UtcTime.midnight targetDate ≤ e.recordedAt ∧
      e.recordedAt ≤ lastSecond targetDate
  let perDevice := events.foldl addUsage []
  return perDevice.map fun (deviceId, data) =>
    { deviceId
      deviceName := match devices.find? fun device => device.id = deviceId with
        | some device => device.name
        | none => "Unknown"
      date := targetDate
      totalSeconds := data.total
      byCategory := data.byCategory }

/-! ### Requests -/

inductive RestCall
  | registerDevice (name deviceType : String) (priority : Int)
  | heartbeat (deviceId : DeviceId) (battery : Option Int)
  | listDevices
  | deregisterDevice (deviceId : DeviceId)
  | recordUsage (deviceId : DeviceId) (appCategory : String) (durationSeconds : Int)
  | dailySummary (targetDate : Date)

inductive RestAnswer
  | device (device : DeviceRow)
  | devices (devices : List DeviceRow)
  | event (event : UsageEvent)
  | summary (items : List DailySummaryItem)
  | noContent

/-- What a request does in its session. -/
def restSession (user : UserId) (around : Surroundings) : RestCall → RestSession RestAnswer
  | .registerDevice name deviceType priority =>
    .device <$> registerDevice around user name deviceType priority
  | .heartbeat deviceId battery => .device <$> heartbeat around deviceId user battery
  | .listDevices => .devices <$> listDevices user
  | .deregisterDevice deviceId => do
    deregisterDevice around deviceId user
    return .noContent
  | .recordUsage deviceId appCategory durationSeconds =>
    .event <$> recordUsage around deviceId appCategory durationSeconds user
  | .dailySummary targetDate => .summary <$> dailySummary user targetDate

/-- One request of a user. -/
def serveRest (user : UserId) (r : Registry) (request : RestCall × Surroundings) :
    Except ApiError RestAnswer × Registry :=
  getDb request.2.commits (restSession user request.2 request.1) r

end ScreenSync.Rest
