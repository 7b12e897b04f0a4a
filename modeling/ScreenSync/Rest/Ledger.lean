/-
**The books of usage.**

What users and devices do over REST and MQTT is a ledger: a device is an account of the user who
registered it, a usage report is posted to it, and deregistration closes it. Requests that raise or
are rolled back, reports for somebody else's device and messages without a positive number of
seconds are not in the books.

* `transactionOf` — what a request or a message comes to in the books, from itself alone.
* `Booked.serve` — the tables are what the books say, after every request and message.
* `summaries_booked` — the daily summaries are the statements of the accounts: nothing that was
  reported is lost, counted twice, or counted for another device, date or category.
-/

import ScreenSync.Foundation.Ledger
import ScreenSync.Rest.Categories
import ScreenSync.Rest.Privacy
import ScreenSync.Rest.Summary

namespace ScreenSync.Rest

open ScreenSync.Foundation ScreenSync.Shared

/-! ### Requests and messages -/

/-- A request of a user, or a message that the broker delivers. -/
inductive UsageOp
  | rest (user : UserId) (call : RestCall) (around : Surroundings)
  | message (message : MqttMessage) (around : Surroundings)

/-- What is posted for a report. -/
structure UsageEntry where
  category : String
  seconds : Int
  recordedAt : UtcTime
  deriving DecidableEq

def entryOf (row : UsageEvent) : UsageEntry := ⟨row.appCategory, row.durationSeconds, row.recordedAt⟩

/-- Devices as accounts of their users. -/
abbrev UsageLedger : Type := Ledger DeviceId UserId UsageEntry

section Books

variable (conversions : Conversions)

def serveUsage (r : Registry) : UsageOp → Registry
  | .rest user call around => (serveRest user r (call, around)).2
  | .message message around => onMessage conversions around message r

/-- The transaction of a usage message. -/
def messageTransaction (userId : UserId) (deviceId : DeviceId) (payload : Dict Json)
    (around : Surroundings) : Option (Transaction DeviceId UserId UsageEntry) := do
  let (category, seconds) ← usageReport conversions payload
  let appCategory ← conversions.bindText category
  if 0 < seconds ∧ around.accepts = true ∧ around.commits = true then
    some (.posted deviceId userId ⟨appCategory, seconds, around.databaseNow⟩)
  else none

/-- What a request or a message comes to in the books. -/
def transactionOf : UsageOp → Option (Transaction DeviceId UserId UsageEntry)
  | .rest user call around =>
    match call with
    | .registerDevice _ _ _ =>
      if around.accepts = true ∧ around.commits = true then some (.opened around.uuid user)
      else none
    | .recordUsage deviceId appCategory durationSeconds =>
      if around.accepts = true ∧ around.commits = true then
        some (.posted deviceId user ⟨appCategory, durationSeconds, around.databaseNow⟩)
      else none
    | .deregisterDevice deviceId =>
      -- the keys are deleted before the commit
      if around.commits = true ∧ around.redis matches .up | .null then some (.closed deviceId user)
      else none
    | .heartbeat _ _ | .listDevices | .dailySummary _ => none
  | .message message around =>
    (usageMessage message).bind fun (userId, deviceId, payload) =>
      messageTransaction conversions userId deviceId payload around

/-- Enter what an operation comes to. -/
def bookUsage (ledger : UsageLedger) (op : UsageOp) : UsageLedger :=
  (transactionOf conversions op).elim ledger ledger.enter

end Books

/-- The key that the database draws for a usage event. -/
def eventDrawn : UsageOp → Option Int
  | .rest _ call around => drawnEvent (call, around)
  | .message _ around => some around.eventId

/-! ### What the tables say -/

/-- The usage events of a device. -/
def eventsOf (r : Registry) (deviceId : DeviceId) : List UsageEvent :=
  r.usageEvents.rows.filter fun row => row.deviceId = deviceId

/-- The account of a device, as the tables have it. -/
def accountOf (r : Registry) (deviceId : DeviceId) : Option (Account UserId UsageEntry) :=
  (r.devices.find deviceId).map fun device => ⟨device.userId, (eventsOf r deviceId).map entryOf⟩

/-- The tables are what the books say, and every usage event is of a registered device. -/
structure Booked (r : Registry) (ledger : UsageLedger) : Prop where
  accounts : ∀ deviceId, ledger deviceId = accountOf r deviceId
  registered : ∀ row ∈ r.usageEvents.rows, ∃ device, r.devices.find row.deviceId = some device

variable {conversions : Conversions} {r next : Registry} {ledger : UsageLedger}

theorem Booked.owner (booked : Booked r ledger) (deviceId : DeviceId) :
    (ledger deviceId).map Account.owner = (r.devices.find deviceId).map DeviceRow.userId := by
  rw [booked.accounts, accountOf, Option.map_map]
  rfl

theorem Booked.owns_iff (booked : Booked r ledger) (user : UserId) (deviceId : DeviceId) :
    (ledger deviceId).map Account.owner = some user ↔ Owns user r deviceId := by
  rw [booked.owner, Option.map_eq_some_iff]
  rfl

/-- What leaves owners and events alone leaves the books alone. -/
theorem Booked.unrecorded (booked : Booked r ledger) (same : Unrecorded r next) :
    Booked next ledger := by
  have owners : ∀ deviceId, (next.devices.find deviceId).map DeviceRow.userId =
      (r.devices.find deviceId).map DeviceRow.userId := by
    intro deviceId
    refine Option.ext fun user => ?_
    rw [Option.map_eq_some_iff, Option.map_eq_some_iff]
    exact same.2 user deviceId
  constructor
  · intro deviceId
    rw [booked.accounts]
    unfold accountOf eventsOf
    rw [same.1]
    have owner := owners deviceId
    cases here : r.devices.find deviceId with
    | none =>
      rw [here, Option.map_none, Option.map_eq_none_iff] at owner
      rw [owner]
    | some device =>
      rw [here, Option.map_some, Option.map_eq_some_iff] at owner
      obtain ⟨row, found, own⟩ := owner
      rw [found, Option.map_some, Option.map_some, own]
  · intro row member
    rw [same.1] at member
    obtain ⟨device, found⟩ := booked.registered row member
    have owner := owners row.deviceId
    rw [found, Option.map_some, Option.map_eq_some_iff] at owner
    obtain ⟨other, there, -⟩ := owner
    exact ⟨other, there⟩

/-! ### One write -/

variable {user : UserId} {deviceId : DeviceId}

/-- **A registration opens an account.** -/
theorem Booked.opened (booked : Booked r ledger) {row : DeviceRow}
    (fresh : r.devices.find row.id = none) :
    Booked { r with devices := r.devices.insert row fresh }
      (ledger.enter (.opened row.id row.userId)) := by
  have free : ledger row.id = none := by
    rw [booked.accounts, accountOf, fresh]
    rfl
  rw [Ledger.enter_opened free]
  constructor
  · intro deviceId
    rw [Ledger.write_apply]
    show _ = ((r.devices.insert row fresh).find deviceId).map fun device =>
      (⟨device.userId, (eventsOf r deviceId).map entryOf⟩ : Account UserId UsageEntry)
    rw [Table.find_insert]
    by_cases here : deviceId = row.id
    · rw [if_pos here, if_pos here.symm, here]
      -- a usage event of the device would be one of a device that is registered
      have none : eventsOf r row.id = [] := by
        refine List.filter_eq_nil_iff.mpr fun event member own => ?_
        obtain ⟨device, found⟩ := booked.registered event member
        rw [of_decide_eq_true own, fresh] at found
        cases found
      rw [none]
      rfl
    · rw [if_neg here, if_neg (Ne.symm here)]
      exact booked.accounts deviceId
  · intro event member
    obtain ⟨device, found⟩ := booked.registered event member
    show ∃ device, (r.devices.insert row fresh).find event.deviceId = some device
    rw [Table.find_insert]
    split
    · exact ⟨row, rfl⟩
    · exact ⟨device, found⟩

/-- **A report is posted to the account of its device.** -/
theorem Booked.posted (booked : Booked r ledger) {row : UsageEvent}
    (owns : Owns user r row.deviceId) (stored : Stored r row next) :
    Booked next (ledger.enter (.posted row.deviceId user (entryOf row))) := by
  obtain ⟨device, found, owner⟩ := owns
  have account := booked.accounts row.deviceId
  rw [accountOf, found, Option.map_some] at account
  rw [Ledger.enter_posted account owner]
  have events : ∀ deviceId, eventsOf next deviceId =
      eventsOf r deviceId ++ if row.deviceId = deviceId then [row] else [] := by
    intro deviceId
    unfold eventsOf
    rw [stored.2, List.filter_append]
    congr 1
    simp only [List.filter_cons, List.filter_nil, decide_eq_true_eq]
  constructor
  · intro deviceId
    rw [Ledger.write_apply]
    unfold accountOf
    rw [events, stored.1]
    by_cases here : deviceId = row.deviceId
    · rw [if_pos here, if_pos here.symm, here, found, List.map_append]
      rfl
    · rw [if_neg here, if_neg (Ne.symm here), List.append_nil]
      exact booked.accounts deviceId
  · intro event member
    rw [stored.2] at member
    rw [stored.1]
    rcases List.mem_append.mp member with before | added
    · exact booked.registered event before
    · rw [List.mem_singleton.mp added]
      exact ⟨device, found⟩

/-- **A deregistration closes the account.** -/
theorem Booked.closed (booked : Booked r ledger) (owns : Owns user r deviceId) :
    Booked (deleteDevice deviceId r) (ledger.enter (.closed deviceId user)) := by
  obtain ⟨device, found, owner⟩ := owns
  have account := booked.accounts deviceId
  rw [accountOf, found, Option.map_some] at account
  rw [Ledger.enter_closed account owner]
  constructor
  · intro other
    rw [Ledger.write_apply]
    show _ = ((r.devices.deleteWhere fun row => row.id = deviceId).find other).map fun device =>
      (⟨device.userId, (eventsOf (deleteDevice deviceId r) other).map entryOf⟩ :
        Account UserId UsageEntry)
    rw [Table.find_deleteWhere]
    by_cases here : other = deviceId
    · rw [if_pos here, here, found]
      simp [(Table.find_eq_some.mp found).2]
    · have events : eventsOf (deleteDevice deviceId r) other = eventsOf r other := by
        show (r.usageEvents.rows.filter _).filter _ = r.usageEvents.rows.filter _
        refine filter_filter_of_kept fun row _ own => ?_
        have own : row.deviceId = other := of_decide_eq_true own
        exact decide_eq_true fun same => here (own.symm.trans same)
      rw [if_neg here, events, booked.accounts, accountOf]
      cases there : r.devices.find other with
      | none => rfl
      | some row =>
        have kept : ¬ row.id = deviceId := (Table.find_eq_some.mp there).2 ▸ here
        simp [kept]
  · intro event member
    obtain ⟨left, apart⟩ := List.mem_filter.mp member
    obtain ⟨row, there⟩ := booked.registered event left
    have apart : ¬ event.deviceId = deviceId := of_decide_eq_true apart
    refine ⟨row, ?_⟩
    show (r.devices.deleteWhere _).find event.deviceId = some row
    have kept : ¬ row.id = deviceId := (Table.find_eq_some.mp there).2 ▸ apart
    rw [Table.find_deleteWhere, there]
    simp [kept]

/-! ### One request, one message -/

/-- What a request does to the tables is what its session does, if that is committed. -/
theorem getDb_map {α β : Type} (commits : Bool) (f : α → β) (session : RestSession α)
    (r : Registry) : (getDb commits (f <$> session) r).2 = (getDb commits session r).2 := by
  have mapped : (f <$> session).exec r = ((session.exec r).1.map f, (session.exec r).2) := by
    rw [map_eq_pure_bind, Session.exec_bind]
    generalize session.exec r = outcome
    obtain ⟨answer | answer, next⟩ := outcome <;> rfl
  unfold getDb
  rw [mapped]
  generalize session.exec r = outcome
  obtain ⟨answer | answer, next⟩ := outcome
  · rfl
  · cases commits <;> rfl

/-- A session that leaves owners and events alone does so committed or rolled back. -/
theorem Booked.getDb {α : Type} (booked : Booked r ledger) {session : RestSession α}
    (kept : Session.Triple (Unrecorded r) session (fun _ => Unrecorded r) (Unrecorded r))
    (commits : Bool) : Booked (Rest.getDb commits session r).2 ledger := by
  have after := kept r (.refl r)
  unfold Rest.getDb
  generalize session.exec r = outcome at after ⊢
  obtain ⟨answer | answer, next⟩ := outcome
  · exact booked.unrecorded (.refl r)
  · cases commits with
    | true => exact booked.unrecorded after
    | false => exact booked.unrecorded (.refl r)

/-- An operation that comes to a transaction under a condition. -/
theorem bookUsage_ite {op : UsageOp} {condition : Prop} [Decidable condition]
    {transaction : Transaction DeviceId UserId UsageEntry}
    (comes : transactionOf conversions op = if condition then some transaction else none) :
    bookUsage conversions ledger op = if condition then ledger.enter transaction else ledger := by
  unfold bookUsage
  rw [comes]
  split <;> rfl

/-- A report of a user is posted, or left out because the device is not the user's. -/
theorem Booked.recordUsage (booked : Booked r ledger) (user : UserId) (deviceId : DeviceId)
    (appCategory : String) (durationSeconds : Int) {around : Surroundings}
    (fresh : r.usageEvents.find around.eventId = none) :
    Booked (serveRest user r (.recordUsage deviceId appCategory durationSeconds, around)).2
      (bookUsage conversions ledger
        (.rest user (.recordUsage deviceId appCategory durationSeconds) around)) := by
  rw [bookUsage_ite rfl]
  show Booked (Rest.getDb around.commits (RestAnswer.event <$> _) r).2 _
  rw [getDb_map]
  by_cases owns : Owns user r deviceId
  · rw [recordUsage_owned owns]
    rcases insertUsageEvent_stored around (newUsageEvent around deviceId appCategory
      durationSeconds) r with ⟨same, refused⟩ | ⟨accepted, -, stored⟩
    · have left : ¬ (around.accepts = true ∧ around.commits = true) := fun all =>
        refused ⟨fresh, all⟩
      rw [if_neg left]
      exact same.symm ▸ booked
    · rw [if_pos accepted.2]
      exact booked.posted owns stored
  · have refused : ledger.enter (.posted deviceId user
        ⟨appCategory, durationSeconds, around.databaseNow⟩) = ledger :=
      Ledger.enter_refused fun allowed => owns ((booked.owns_iff user deviceId).mp allowed)
    rw [recordUsage_refused owns, refused, ite_self]
    exact booked

/-- A registration that is committed opens an account, unless the id is taken. -/
theorem Booked.registerDevice (booked : Booked r ledger) (user : UserId) (name deviceType : String)
    (priority : Int) (around : Surroundings) :
    Booked (serveRest user r (.registerDevice name deviceType priority, around)).2
      (bookUsage conversions ledger
        (.rest user (.registerDevice name deviceType priority) around)) := by
  rw [bookUsage_ite rfl]
  show Booked (Rest.getDb around.commits (RestAnswer.device <$> _) r).2 _
  rw [getDb_map]
  unfold Rest.getDb Rest.registerDevice insertDevice
  simp only [Session.exec_bind, Session.exec_get]
  by_cases fresh : r.devices.find around.uuid = none ∧ around.accepts = true
  · rw [dif_pos fresh]
    cases commits : around.commits with
    | true =>
      rw [if_pos ⟨fresh.2, rfl⟩]
      exact booked.opened fresh.1
    | false =>
      rw [if_neg fun all => Bool.false_ne_true all.2]
      exact booked
  · rw [dif_neg fresh]
    by_cases accepted : around.accepts = true ∧ around.commits = true
    · have taken : ledger.enter (.opened around.uuid user) = ledger := by
        refine Ledger.enter_refused fun free => fresh ⟨?_, accepted.1⟩
        rw [Ledger.Allowed, booked.accounts, accountOf, Option.map_eq_none_iff] at free
        exact free
      rw [if_pos accepted, taken]
      exact booked
    · rw [if_neg accepted]
      exact booked

/-- A deregistration that is committed closes the account, if it is one of the user's. -/
theorem Booked.deregisterDevice (booked : Booked r ledger) (user : UserId) (deviceId : DeviceId)
    (around : Surroundings) :
    Booked (serveRest user r (.deregisterDevice deviceId, around)).2
      (bookUsage conversions ledger (.rest user (.deregisterDevice deviceId) around)) := by
  rw [bookUsage_ite rfl]
  by_cases owns : Owns user r deviceId
  · have closed := booked.closed owns
    have uncached : ∀ redis : String → Option String,
        Booked { deleteDevice deviceId r with redis } (ledger.enter (.closed deviceId user)) :=
      fun _ => closed.unrecorded ⟨rfl, fun _ _ => Iff.rfl⟩
    obtain ⟨device, found, owner⟩ := owns
    have here : device.id = deviceId := (Table.find_eq_some.mp found).2
    unfold serveRest restSession Rest.getDb Rest.deregisterDevice getDeviceForUser
    simp only [Session.exec_bind, Session.exec_get, found, owner, ne_eq, not_true_eq_false,
      if_false, Session.exec_pure, Session.exec_modify, here]
    unfold redisCommand
    cases around.redis with
    | up =>
      cases around.commits with
      | true => exact uncached _
      | false => exact booked.unrecorded ⟨rfl, fun _ _ => Iff.rfl⟩
    | null =>
      cases around.commits with
      | true => exact closed
      | false => exact booked
    | down =>
      rw [if_neg (by simp)]
      exact booked
  · have refused : ledger.enter (.closed deviceId user) = ledger :=
      Ledger.enter_refused fun allowed => owns ((booked.owns_iff user deviceId).mp allowed)
    rw [refused, ite_self]
    unfold serveRest restSession Rest.getDb Rest.deregisterDevice getDeviceForUser
    simp only [Session.exec_bind, Session.exec_get]
    cases found : r.devices.find deviceId with
    | none => exact booked
    | some device =>
      have apart : device.userId ≠ user := fun owner => owns ⟨device, found, owner⟩
      simp only [ne_eq, apart, not_false_eq_true, if_true]
      exact booked

/-- A request that concerns neither owners nor events. -/
theorem Booked.other (booked : Booked r ledger) {user : UserId} {call : RestCall}
    {around : Surroundings} (nothing : transactionOf conversions (.rest user call around) = none)
    (kept : Session.Triple (Unrecorded r) (restSession user around call) (fun _ => Unrecorded r)
      (Unrecorded r)) :
    Booked (serveRest user r (call, around)).2
      (bookUsage conversions ledger (.rest user call around)) := by
  unfold bookUsage
  rw [nothing]
  exact booked.getDb kept around.commits

theorem Unrecorded.trans {before : Registry} (first : Unrecorded before r)
    (second : Unrecorded r next) : Unrecorded before next :=
  ⟨second.1.trans first.1, fun user deviceId =>
    (second.2 user deviceId).trans (first.2 user deviceId)⟩

theorem redisCommand_unrecorded (r : Registry) (link : RedisLink)
    (effect : (String → Option String) → String → Option String) :
    Session.Triple (Unrecorded r) (redisCommand link effect) (fun _ => Unrecorded r)
      (Unrecorded r) := by
  cases link with
  | up => exact .of_modify fun _ same => ⟨same.1, same.2⟩
  | null => exact .of_pure fun _ => id
  | down => exact .of_throw fun _ => id

theorem heartbeat_unrecorded (r : Registry) (around : Surroundings) (deviceId : DeviceId)
    (user : UserId) (battery : Option Int) :
    Session.Triple (Unrecorded r) (heartbeat around deviceId user battery) (fun _ => Unrecorded r)
      (Unrecorded r) := by
  have looks : Session.Triple (Unrecorded r) (getDeviceForUser deviceId user)
      (fun _ => Unrecorded r) (Unrecorded r) := by
    intro now same
    simp only [getDeviceForUser, Session.exec_bind, Session.exec_get]
    cases found : now.devices.find deviceId with
    | none => exact same
    | some device =>
      by_cases owner : device.userId = user
      · simp only [owner, ne_eq, not_true_eq_false, if_false]
        exact same
      · simp only [owner, ne_eq, not_false_eq_true, if_true]
        exact same
  refine looks.bind fun device => ?_
  have owner : ∀ row, (beat around.now row).userId = row.userId := fun _ => rfl
  have beats : Session.Triple (Unrecorded r)
      (modify (beatDevice device.id around.now) : RestSession PUnit) (fun _ => Unrecorded r)
      (Unrecorded r) :=
    .of_modify fun now same => same.trans (updateDevice_unrecorded device.id _ owner now)
  refine beats.bind fun _ => ?_
  refine (redisCommand_unrecorded r around.redis _).bind fun _ => ?_
  cases battery with
  | none => exact .of_pure fun _ => id
  | some level =>
    exact (redisCommand_unrecorded r around.secondRedis _).bind fun _ => .of_pure fun _ => id

/-- **A request is booked.** -/
theorem Booked.rest (booked : Booked r ledger) (user : UserId) (call : RestCall)
    (around : Surroundings)
    (fresh : ∀ eventId ∈ drawnEvent (call, around), r.usageEvents.find eventId = none) :
    Booked (serveRest user r (call, around)).2
      (bookUsage conversions ledger (.rest user call around)) := by
  cases call with
  | registerDevice name deviceType priority =>
    exact booked.registerDevice user name deviceType priority around
  | heartbeat deviceId battery =>
    refine booked.other rfl ?_
    show Session.Triple _ (RestAnswer.device <$> _) _ _
    rw [map_eq_pure_bind]
    exact (heartbeat_unrecorded r around deviceId user battery).bind fun _ => .of_pure fun _ => id
  | listDevices => exact booked.other rfl fun _ same => same
  | deregisterDevice deviceId => exact booked.deregisterDevice user deviceId around
  | recordUsage deviceId appCategory durationSeconds =>
    exact booked.recordUsage user deviceId appCategory durationSeconds (fresh _ rfl)
  | dailySummary targetDate => exact booked.other rfl fun _ same => same

/-- What a usage message comes to is the row that it asks for. -/
theorem messageTransaction_of_row {userId : UserId} {payload : Dict Json} {around : Surroundings}
    {row : UsageEvent} (asks : UsageRow conversions around userId deviceId payload r row) :
    messageTransaction conversions userId deviceId payload around =
      some (.posted row.deviceId userId (entryOf row)) := by
  have report : usageReport conversions payload =
      some ((payload.get "category").getD (.str "other"), row.durationSeconds) := by
    unfold usageReport
    rw [asks.seconds]
    rfl
  unfold messageTransaction
  rw [report]
  show (conversions.bindText _).bind _ = _
  rw [asks.category, Option.bind_some, if_pos ⟨asks.positive, asks.accepted⟩, asks.device,
    entryOf, asks.rest.2]

/-- And a message that comes to a posting asks for a row, if the device is the user's. -/
theorem row_of_messageTransaction {userId : UserId} {payload : Dict Json} {around : Surroundings}
    {transaction : Transaction DeviceId UserId UsageEntry}
    (comes : messageTransaction conversions userId deviceId payload around = some transaction) :
    ∃ entry, transaction = .posted deviceId userId entry ∧
      (Owns userId r deviceId → r.usageEvents.find around.eventId = none →
        ∃ row, UsageRow conversions around userId deviceId payload r row) := by
  unfold messageTransaction usageReport at comes
  simp only [Option.bind_eq_bind, Option.bind_eq_some_iff, Option.map_eq_some_iff] at comes
  obtain ⟨_, ⟨seconds, converted, rfl⟩, appCategory, bound, comes⟩ := comes
  split at comes
  · rename_i accepted
    obtain rfl := Option.some.inj comes
    refine ⟨_, rfl, fun owns fresh => ⟨newUsageEvent around deviceId appCategory seconds, ?_⟩⟩
    exact
      { category := bound
        seconds := converted
        positive := accepted.1
        owner := owns
        device := rfl
        fresh := fresh
        accepted := accepted.2
        rest := ⟨rfl, rfl⟩ }
  · cases comes

/-- **A message is booked.** -/
theorem Booked.message (booked : Booked r ledger) (message : MqttMessage) (around : Surroundings)
    (fresh : r.usageEvents.find around.eventId = none) :
    Booked (onMessage conversions around message r)
      (bookUsage conversions ledger (.message message around)) := by
  show Booked _ (((usageMessage message).bind _).elim ledger ledger.enter)
  rcases onMessage_cases conversions around message r with
    ⟨userId, deviceId, payload, usage, handled⟩ | ⟨other, unrecorded⟩
  · rw [handled, usage, Option.bind_some]
    show Booked _ ((messageTransaction conversions userId deviceId payload around).elim ledger
      ledger.enter)
    rcases handleUsage_effect conversions around userId deviceId payload r with
      ⟨same, nothing⟩ | ⟨row, asks, stored⟩
    · rw [same]
      cases comes : messageTransaction conversions userId deviceId payload around with
      | none => exact booked
      | some transaction =>
        obtain ⟨entry, rfl, asks⟩ := row_of_messageTransaction (r := r) comes
        have refused : ledger.enter (.posted deviceId userId entry) = ledger := by
          refine Ledger.enter_refused fun allowed => ?_
          obtain ⟨row, asked⟩ := asks ((booked.owns_iff userId deviceId).mp allowed) fresh
          exact nothing row asked
        show Booked r (ledger.enter (.posted deviceId userId entry))
        rw [refused]
        exact booked
    · rw [messageTransaction_of_row asks]
      exact booked.posted (asks.device ▸ asks.owner) stored
  · rw [other]
    exact booked.unrecorded unrecorded

/-! ### Runs -/

variable {eventIds : List Int} {op : UsageOp} {ops : List UsageOp}

/-- The keys that an operation does not draw stay free. -/
theorem serveUsage_vacant (vacant : Vacant [] eventIds r)
    (apart : ∀ id ∈ eventDrawn op, id ∉ eventIds) :
    Vacant [] eventIds (serveUsage conversions r op) := by
  cases op with
  | rest user call around =>
    exact serveRest_vacant user vacant (fun _ _ => List.not_mem_nil) apart
  | message message around =>
    refine ⟨fun _ inside => absurd inside List.not_mem_nil, fun id inside => ?_⟩
    have free := vacant.events id inside
    rcases onMessage_cases conversions around message r with
      ⟨userId, deviceId, payload, usage, handled⟩ | ⟨other, unrecorded⟩
    · show (onMessage conversions around message r).usageEvents.find id = none
      rw [handled]
      rcases handleUsage_effect conversions around userId deviceId payload r with
        ⟨same, -⟩ | ⟨row, asks, stored⟩
      · rw [same]
        exact free
      · refine Table.find_eq_none.mpr fun event member same => ?_
        rw [stored.2] at member
        rcases List.mem_append.mp member with before | added
        · exact Table.find_eq_none.mp free event before same
        · rw [List.mem_singleton.mp added, asks.rest.1] at same
          exact apart _ rfl (same ▸ inside)
    · show (onMessage conversions around message r).usageEvents.find id = none
      rw [unrecorded.1]
      exact free

/-- **An operation is booked.** -/
theorem Booked.serve (booked : Booked r ledger)
    (fresh : ∀ eventId ∈ eventDrawn op, r.usageEvents.find eventId = none) :
    Booked (serveUsage conversions r op) (bookUsage conversions ledger op) := by
  cases op with
  | rest user call around => exact booked.rest user call around fresh
  | message message around => exact booked.message message around (fresh _ rfl)

/-- **A run is booked.** -/
theorem Booked.run (booked : Booked r ledger) (distinct : (ops.filterMap eventDrawn).Nodup)
    (vacant : Vacant [] (ops.filterMap eventDrawn) r) :
    Booked (Foundation.run (serveUsage conversions) r ops)
      (Foundation.run (bookUsage conversions) ledger ops) := by
  induction ops generalizing r ledger with
  | nil => exact booked
  | cons op ops ih =>
    have next : Booked (serveUsage conversions r op) (bookUsage conversions ledger op) :=
      booked.serve fun eventId drawn => vacant.events eventId (mem_drawn_head drawn)
    have rest := vacant.sublist (List.Sublist.refl []) (drawn_tail eventDrawn op ops)
    exact ih next (distinct.sublist (drawn_tail eventDrawn op ops))
      (serveUsage_vacant rest (drawn_apart distinct))

/-! ### Statements -/

/-- The entries of an account in the window of a date. -/
def entriesIn (date : Date) (holds : Account UserId UsageEntry) : List UsageEntry :=
  holds.entries.filter fun entry => InWindow date entry.recordedAt

/-- A summary is the statement of a user's accounts for a date: one item for each account with an
entry in the window, under each category the seconds of its entries, and in total those of all. -/
structure Statement (ledger : UsageLedger) (user : UserId) (date : Date)
    (items : List DailySummaryItem) : Prop where
  oneEach : (items.map DailySummaryItem.deviceId).Nodup
  accounts : ∀ deviceId, deviceId ∈ items.map DailySummaryItem.deviceId ↔
    ∃ holds, ledger deviceId = some holds ∧ holds.owner = user ∧ entriesIn date holds ≠ []
  amounts : ∀ item ∈ items, ∀ holds, ledger item.deviceId = some holds →
    item.totalSeconds = ((entriesIn date holds).map UsageEntry.seconds).sum ∧
      ∀ category, item.byCategory.get category =
        let named := (entriesIn date holds).filter fun entry => entry.category = category
        if named = [] then none else some (named.map UsageEntry.seconds).sum

/-- The events of a device that a summary adds up, as entries, are those of its account. -/
theorem entriesIn_accountOf {date : Date} {holds : Account UserId UsageEntry}
    (account : accountOf r deviceId = some holds) (owns : Owns user r deviceId) :
    entriesIn date holds =
      (ofKey UsageEvent.deviceId (dailyEvents user date r) deviceId).map entryOf := by
  have selected : ofKey UsageEvent.deviceId (dailyEvents user date r) deviceId =
      (eventsOf r deviceId).filter fun e => InWindow date e.recordedAt := by
    unfold ofKey dailyEvents userEvents eventsOf
    rw [List.filter_filter, List.filter_filter, List.filter_filter]
    refine List.filter_congr fun e _ => ?_
    rw [← Bool.decide_and, ← Bool.decide_and, ← Bool.decide_and, decide_eq_decide, mem_userDevices]
    constructor
    · intro all
      exact ⟨all.1.2, all.1.1⟩
    · rintro ⟨inside, rfl⟩
      exact ⟨⟨rfl, inside⟩, owns⟩
  unfold accountOf at account
  obtain ⟨device, -, rfl⟩ := Option.map_eq_some_iff.mp account
  unfold entriesIn
  rw [selected, List.filter_map]
  rfl

theorem Booked.statement (booked : Booked r ledger) (user : UserId) (date : Date) :
    Statement ledger user date (summaryItems user date r) where
  oneEach := (summaryItems_addsUp user date r).oneEach
  accounts deviceId := by
    have counted : deviceId ∈ (summaryItems user date r).map DailySummaryItem.deviceId ↔
        Owns user r deviceId ∧
          ofKey UsageEvent.deviceId (dailyEvents user date r) deviceId ≠ [] := by
      rw [mem_ids_summaryItems]
      refine and_congr_right fun owns => ?_
      have member : ∀ {e : UsageEvent},
          e ∈ ofKey UsageEvent.deviceId (dailyEvents user date r) deviceId ↔
            ((e ∈ r.usageEvents.rows ∧ Owns user r e.deviceId) ∧ InWindow date e.recordedAt) ∧
              e.deviceId = deviceId := by
        intro e
        rw [← mem_userEvents, ← mem_dailyEvents]
        unfold ofKey
        rw [List.mem_filter, decide_eq_true_eq]
      constructor
      · rintro ⟨e, row, rfl, inside⟩
        exact List.ne_nil_of_mem (member.mpr ⟨⟨⟨row, owns⟩, inside⟩, rfl⟩)
      · intro some
        obtain ⟨e, inside⟩ := List.exists_mem_of_ne_nil _ some
        obtain ⟨⟨⟨row, -⟩, inside⟩, here⟩ := member.mp inside
        exact ⟨e, row, here, inside⟩
    rw [counted]
    constructor
    · rintro ⟨owns, some⟩
      obtain ⟨holds, account, owner⟩ :=
        Option.map_eq_some_iff.mp ((booked.owns_iff user deviceId).mpr owns)
      refine ⟨holds, account, owner, ?_⟩
      rw [booked.accounts] at account
      rw [entriesIn_accountOf account owns]
      exact fun none => some (List.map_eq_nil_iff.mp none)
    · rintro ⟨holds, account, owner, some⟩
      have owns : Owns user r deviceId := by
        rw [← booked.owns_iff, account, Option.map_some, owner]
      rw [booked.accounts] at account
      rw [entriesIn_accountOf account owns] at some
      exact ⟨owns, fun none => some (List.map_eq_nil_iff.mpr none)⟩
  amounts item member holds account := by
    have owns := (mem_ids_summaryItems.mp (List.mem_map_of_mem member)).1
    rw [booked.accounts] at account
    obtain ⟨total, byCategory⟩ := DeviceUsage.mk.inj (item_usage member)
    rw [entriesIn_accountOf account owns, total, byCategory]
    constructor
    · rw [List.map_map]
      rfl
    · intro category
      rw [get_tally]
      have named : ∀ events : List UsageEvent,
          (events.map entryOf).filter (fun entry => entry.category = category) =
            (ofKey UsageEvent.appCategory events category).map entryOf := by
        intro events
        rw [List.filter_map]
        rfl
      simp only [named, List.map_eq_nil_iff, List.map_map]
      rfl

/-- **The summaries are the statements of the accounts.** Whatever users and devices have done since
before anybody registered a device: the summary of a user and a date is the statement of that user's
accounts. The keys of the usage events are distinct. -/
theorem summaries_booked (conversions : Conversions) (ops : List UsageOp)
    (distinct : (ops.filterMap eventDrawn).Nodup) (user : UserId) (date : Date) :
    ∃ items,
      (dailySummary user date).exec (run (serveUsage conversions) noDevices ops) =
        (.ok items, run (serveUsage conversions) noDevices ops) ∧
      Statement (run (bookUsage conversions) (fun _ => none) ops) user date items := by
  have start : Booked noDevices fun _ => none := ⟨fun _ => rfl, nofun⟩
  have vacant : Vacant [] (ops.filterMap eventDrawn) noDevices :=
    ⟨fun _ inside => absurd inside List.not_mem_nil, fun _ _ => rfl⟩
  exact ⟨_, exec_dailySummary user date _, (start.run distinct vacant).statement user date⟩

/-- A user registers a tablet, which reports over REST and MQTT; somebody else reports for it, and
it reports no seconds. -/
def tabletReports : List UsageOp :=
  [.rest "ann" (.registerDevice "Tablet" "tablet" 5) (undisturbed "tablet" 0),
    .rest "ann" (.recordUsage "tablet" "games" 60) (undisturbed "" 1),
    .rest "bob" (.recordUsage "tablet" "games" 600) (undisturbed "" 2),
    .message ⟨"screensync/ann/tablet/usage/report", some (.obj [("secs", .int 30)])⟩
      (undisturbed "" 3),
    .message ⟨"screensync/ann/tablet/usage/report", some (.obj [("secs", .int 0)])⟩
      (undisturbed "" 4)]

theorem summaries_booked_tablet :
    ∃ items,
      (dailySummary "ann" someDay).exec (run (serveUsage .strict) noDevices tabletReports) =
        (.ok items, run (serveUsage .strict) noDevices tabletReports) ∧
      Statement (run (bookUsage .strict) (fun _ => none) tabletReports) "ann" someDay items :=
  summaries_booked .strict tabletReports (by decide) "ann" someDay

end ScreenSync.Rest
