/-
**Tenant isolation.**

What a user's requests can reach. `foreignView user r` is all that belongs to devices of other
users: their rows, their usage events and budgets, and the Redis keys of their state.

* `foreignView_insertDevice`, `foreignView_updateDevice`, `foreignView_deleteDevice`,
  `foreignView_insertUsageEvent`, `foreignView_redis` — a write that is for a device of the user, or
  for a new one, does not touch it.
* `restSession_confined` — the triple of each request: it leaves the view alone and answers with
  what belongs to the user.
* `tenant_isolation` — the same for every run of requests, raising ones included.
-/

import ScreenSync.Foundation.Run
import ScreenSync.Rest.Service

namespace ScreenSync.Rest

open ScreenSync.Foundation ScreenSync.Shared

/-! ### What belongs to others -/

section View

variable (user : UserId) (r : Registry)

def foreignDevices : List DeviceRow := r.devices.rows.filter fun device => device.userId ≠ user

/-- The id is that of another user's device. -/
def Foreign (deviceId : DeviceId) : Prop := deviceId ∈ (foreignDevices user r).map DeviceRow.id

instance (deviceId : DeviceId) : Decidable (Foreign user r deviceId) :=
  inferInstanceAs (Decidable (_ ∈ _))

/-- The id is that of a device of the user. -/
def Owns (deviceId : DeviceId) : Prop :=
  ∃ device, r.devices.find deviceId = some device ∧ device.userId = user

/-- What belongs to the devices of other users. The cache is what the two keys of such a device
hold. -/
structure ForeignView where
  devices : List DeviceRow
  usageEvents : List UsageEvent
  budgets : List Budget
  cache : DeviceId → Option (Option String × Option String)

def foreignView : ForeignView where
  devices := foreignDevices user r
  usageEvents := r.usageEvents.rows.filter fun e => Foreign user r e.deviceId
  budgets := r.budgets.rows.filter fun b => Foreign user r b.deviceId
  cache deviceId := if Foreign user r deviceId then
    some (r.redis (onlineKey deviceId), r.redis (batteryKey deviceId)) else none

end View

variable {user : UserId} {r next : Registry} {deviceId : DeviceId}

theorem Owns.not_foreign (owns : Owns user r deviceId) : ¬ Foreign user r deviceId := by
  obtain ⟨device, found, owner⟩ := owns
  obtain ⟨inside, here⟩ := Table.find_eq_some.mp found
  intro foreign
  obtain ⟨other, member, same⟩ := List.mem_map.mp foreign
  obtain ⟨listed, apart⟩ := List.mem_filter.mp member
  rw [r.devices.eq_of_key_eq listed inside (same.trans here.symm)] at apart
  simp [owner] at apart

/-- What is foreign depends on the view alone. -/
theorem foreign_congr (same : foreignDevices user next = foreignDevices user r)
    (deviceId : DeviceId) : Foreign user next deviceId ↔ Foreign user r deviceId := by
  rw [Foreign, Foreign, same]

/-- A change that leaves the foreign devices alone is judged by the other parts of the view. -/
theorem foreignView_eq (devices : foreignDevices user next = foreignDevices user r)
    (usageEvents : next.usageEvents.rows.filter (fun e => Foreign user r e.deviceId) =
      r.usageEvents.rows.filter fun e => Foreign user r e.deviceId)
    (budgets : next.budgets.rows.filter (fun b => Foreign user r b.deviceId) =
      r.budgets.rows.filter fun b => Foreign user r b.deviceId)
    (redis : ∀ deviceId, Foreign user r deviceId →
      next.redis (onlineKey deviceId) = r.redis (onlineKey deviceId) ∧
        next.redis (batteryKey deviceId) = r.redis (batteryKey deviceId)) :
    foreignView user next = foreignView user r := by
  simp only [foreignView, foreign_congr devices, devices, usageEvents, budgets,
    ForeignView.mk.injEq, true_and]
  funext deviceId
  split
  · rename_i foreign
    rw [(redis deviceId foreign).1, (redis deviceId foreign).2]
  · rfl

/-! ### Writes -/

theorem foreignView_insertDevice {row : DeviceRow} (owner : row.userId = user)
    (fresh : r.devices.find row.id = none) :
    foreignView user { r with devices := r.devices.insert row fresh } = foreignView user r := by
  refine foreignView_eq ?_ rfl rfl fun _ _ => ⟨rfl, rfl⟩
  simp [foreignDevices, Table.insert, List.filter_append, owner]

/-- The rows a filter keeps, after a rewrite that leaves them alone. -/
theorem filter_map_of_kept {ρ : Type} {rows : List ρ} {keep : ρ → Bool} {f : ρ → ρ}
    (same : ∀ row ∈ rows, keep (f row) = keep row ∧ (keep row = true → f row = row)) :
    (rows.map f).filter keep = rows.filter keep := by
  induction rows with
  | nil => rfl
  | cons row later ih =>
    obtain ⟨⟨kept, alone⟩, rest⟩ := List.forall_mem_cons.mp same
    rw [List.map_cons, List.filter_cons, List.filter_cons, kept, ih rest]
    split
    · rename_i keeps
      rw [alone keeps]
    · rfl

theorem foreignView_updateDevice (owns : Owns user r deviceId) {values : DeviceRow → DeviceRow}
    (keeps : ∀ row, (values row).id = row.id) (owner : ∀ row, (values row).userId = row.userId) :
    foreignView user (updateDevice deviceId values keeps r) = foreignView user r := by
  refine foreignView_eq (filter_map_of_kept fun row member => ?_) rfl rfl fun _ _ => ⟨rfl, rfl⟩
  by_cases aimed : row.id = deviceId
  · rw [if_pos aimed, owner]
    refine ⟨rfl, fun apart => absurd ?_ owns.not_foreign⟩
    exact List.mem_map.mpr ⟨row, List.mem_filter.mpr ⟨member, apart⟩, aimed⟩
  · rw [if_neg aimed]
    exact ⟨rfl, fun _ => rfl⟩

/-- The rows a filter keeps, after a deletion of others. -/
theorem filter_filter_of_kept {ρ : Type} {rows : List ρ} {keep stay : ρ → Bool}
    (stays : ∀ row ∈ rows, keep row = true → stay row = true) :
    (rows.filter stay).filter keep = rows.filter keep := by
  rw [List.filter_filter]
  refine List.filter_congr fun row member => ?_
  cases kept : keep row with
  | false => rfl
  | true => rw [stays row member kept]; rfl

theorem foreignView_deleteDevice (owns : Owns user r deviceId) :
    foreignView user (deleteDevice deviceId r) = foreignView user r := by
  refine foreignView_eq ?_ ?_ ?_ fun _ _ => ⟨rfl, rfl⟩
  · refine filter_filter_of_kept fun row member apart => ?_
    have other : row.id ≠ deviceId := by
      rintro rfl
      exact owns.not_foreign (List.mem_map_of_mem (List.mem_filter.mpr ⟨member, apart⟩))
    simpa using other
  · refine filter_filter_of_kept fun row _ foreign => ?_
    have other : row.deviceId ≠ deviceId := by
      rintro rfl
      exact owns.not_foreign (of_decide_eq_true foreign)
    simpa using other
  · refine filter_filter_of_kept fun row _ foreign => ?_
    have other : row.deviceId ≠ deviceId := by
      rintro rfl
      exact owns.not_foreign (of_decide_eq_true foreign)
    simpa using other

theorem foreignView_insertUsageEvent {row : UsageEvent} (owns : Owns user r row.deviceId)
    (fresh : r.usageEvents.find row.id = none) :
    foreignView user { r with usageEvents := r.usageEvents.insert row fresh } =
      foreignView user r := by
  refine foreignView_eq rfl ?_ rfl fun _ _ => ⟨rfl, rfl⟩
  simp [Table.insert, List.filter_append, owns.not_foreign]

/-! ### Redis keys -/

theorem onlineKey_ne {first second : DeviceId} (apart : first ≠ second) :
    onlineKey first ≠ onlineKey second := fun same =>
  apart ((String.append_right_inj _).mp same)

theorem batteryKey_ne {first second : DeviceId} (apart : first ≠ second) :
    batteryKey first ≠ batteryKey second := fun same =>
  apart ((String.append_right_inj _).mp same)

theorem onlineKey_ne_batteryKey (first second : DeviceId) :
    onlineKey first ≠ batteryKey second := by
  intro same
  have start := congrArg (fun key => key.toList.take 8) same
  simp [onlineKey, batteryKey] at start

/-- A command on the keys of a device that is not foreign. -/
theorem foreignView_redis (own : ¬ Foreign user r deviceId) {redis : String → Option String}
    (others : ∀ key, key ≠ onlineKey deviceId → key ≠ batteryKey deviceId →
      redis key = r.redis key) : foreignView user { r with redis } = foreignView user r := by
  refine foreignView_eq rfl rfl rfl fun other foreign => ?_
  have apart : other ≠ deviceId := by
    rintro rfl
    exact own foreign
  exact ⟨others _ (onlineKey_ne apart) (onlineKey_ne_batteryKey _ _),
    others _ (onlineKey_ne_batteryKey _ _).symm (batteryKey_ne apart)⟩

/-! ### Sessions -/

/-- The tables and keys of others are as they were. -/
def Untouched (user : UserId) (r next : Registry) : Prop :=
  foreignView user next = foreignView user r

theorem Untouched.foreign_iff (untouched : Untouched user r next) (deviceId : DeviceId) :
    Foreign user next deviceId ↔ Foreign user r deviceId :=
  foreign_congr (congrArg ForeignView.devices untouched) deviceId

theorem redisCommand_untouched (own : ¬ Foreign user r deviceId) (link : RedisLink)
    {effect : (String → Option String) → String → Option String}
    (others : ∀ redis key, key ≠ onlineKey deviceId → key ≠ batteryKey deviceId →
      effect redis key = redis key) :
    Session.Triple (Untouched user r) (redisCommand link effect) (fun _ => Untouched user r)
      (Untouched user r) := by
  cases link with
  | up =>
    refine .of_modify fun now untouched => ?_
    have still : ¬ Foreign user now deviceId := by
      rw [untouched.foreign_iff]
      exact own
    exact (foreignView_redis still (others now.redis)).trans untouched
  | null => exact .of_pure fun _ => id
  | down => exact .of_throw fun _ => id

theorem setex_untouched (own : ¬ Foreign user r deviceId) (link : RedisLink) {key : String}
    (target : key = onlineKey deviceId ∨ key = batteryKey deviceId) (value : String) :
    Session.Triple (Untouched user r) (setex link key value) (fun _ => Untouched user r)
      (Untouched user r) := by
  refine redisCommand_untouched own link fun redis other online battery => ?_
  rw [Function.update_of_ne]
  rintro rfl
  exact target.elim online battery

theorem getDeviceForUser_owns (deviceId : DeviceId) (user : UserId) (r : Registry) :
    Session.Triple (fun now => now = r) (getDeviceForUser deviceId user)
      (fun device now => now = r ∧ r.devices.find deviceId = some device ∧ device.userId = user)
      (Untouched user r) := by
  rintro now rfl
  simp only [getDeviceForUser, Session.exec_bind, Session.exec_get]
  cases found : now.devices.find deviceId with
  | none => exact rfl
  | some device =>
    by_cases owner : device.userId = user
    · simp only [owner, ne_eq, not_true_eq_false, if_false]
      exact ⟨rfl, rfl, owner⟩
    · simp only [owner, ne_eq, not_false_eq_true, if_true]
      exact rfl

/-! ### Answers -/

/-- What is answered belongs to the user. -/
def RestAnswer.BelongsTo (user : UserId) (r : Registry) : RestAnswer → Prop
  | .device row => row.userId = user
  | .devices rows => ∀ row ∈ rows, row.userId = user
  | .event row => Owns user r row.deviceId
  | .summary items => ∀ item ∈ items, Owns user r item.deviceId
  | .noContent => True

/-- The triple of a session that is confined to the user: it starts from `r`, leaves what belongs to
others alone, and answers as `answers` says. -/
def Confined {α : Type} (user : UserId) (r : Registry) (session : RestSession α)
    (answers : α → Prop) : Prop :=
  Session.Triple (fun now => now = r) session (fun a next => Untouched user r next ∧ answers a)
    (Untouched user r)

theorem Confined.map {α β : Type} {session : RestSession α} {answers : α → Prop}
    {wanted : β → Prop} (confined : Confined user r session answers) {f : α → β}
    (holds : ∀ a, answers a → wanted (f a)) : Confined user r (f <$> session) wanted := by
  rw [map_eq_pure_bind]
  refine confined.bind fun a => .of_pure ?_
  exact fun _ both => ⟨both.1, holds a both.2⟩

/-! ### Requests -/

theorem insertDevice_untouched (accepts : Bool) {row : DeviceRow} (owner : row.userId = user) :
    Session.Triple (fun now => now = r) (insertDevice accepts row) (fun _ => Untouched user r)
      (Untouched user r) := by
  rintro now rfl
  simp only [insertDevice, Session.exec_bind, Session.exec_get]
  by_cases fresh : now.devices.find row.id = none ∧ accepts = true
  · rw [dif_pos fresh]
    exact foreignView_insertDevice owner fresh.1
  · rw [dif_neg fresh]
    exact rfl

theorem insertUsageEvent_untouched (accepts : Bool) {row : UsageEvent}
    (owns : Owns user r row.deviceId) :
    Session.Triple (fun now => now = r) (insertUsageEvent accepts row)
      (fun _ => Untouched user r) (Untouched user r) := by
  rintro now rfl
  simp only [insertUsageEvent, Session.exec_bind, Session.exec_get]
  by_cases fresh : now.usageEvents.find row.id = none ∧ accepts = true
  · rw [dif_pos fresh]
    exact foreignView_insertUsageEvent owns fresh.1
  · rw [dif_neg fresh]
    exact rfl

theorem registerDevice_confined (around : Surroundings) (user : UserId) (name deviceType : String)
    (priority : Int) (r : Registry) :
    Confined user r (registerDevice around user name deviceType priority)
      fun device => device.userId = user := by
  refine (insertDevice_untouched around.accepts rfl).bind fun _ => .of_pure ?_
  exact fun _ untouched => ⟨untouched, rfl⟩

/-- A write that follows a look at the device. -/
theorem modify_untouched {f : Registry → Registry} {checked : Prop}
    (kept : Untouched user r (f r)) :
    Session.Triple (fun now => now = r ∧ checked) (modify f : RestSession PUnit)
      (fun _ => Untouched user r) (Untouched user r) := by
  apply Session.Triple.of_modify
  rintro now ⟨rfl, -⟩
  exact kept

theorem heartbeat_confined (around : Surroundings) (deviceId : DeviceId) (user : UserId)
    (battery : Option Int) (r : Registry) :
    Confined user r (heartbeat around deviceId user battery)
      fun device => device.userId = user := by
  refine (getDeviceForUser_owns deviceId user r).bind fun device => ?_
  by_cases owner : r.devices.find deviceId = some device ∧ device.userId = user
  · have owns : Owns user r deviceId := ⟨device, owner⟩
    have here : device.id = deviceId := (Table.find_eq_some.mp owner.1).2
    have updated : Untouched user r (beatDevice device.id around.now r) := by
      have kept : ∀ row, (beat around.now row).userId = row.userId := fun _ => rfl
      exact foreignView_updateDevice (here.symm ▸ owns) _ kept
    refine (modify_untouched updated).bind fun _ => ?_
    refine (setex_untouched owns.not_foreign around.redis (.inl rfl) "1").bind fun _ => ?_
    cases battery with
    | none => exact .of_pure fun _ untouched => ⟨untouched, owner.2⟩
    | some level =>
      refine (setex_untouched owns.not_foreign around.secondRedis (.inr rfl) _).bind fun _ => ?_
      exact .of_pure fun _ untouched => ⟨untouched, owner.2⟩
  · intro now both
    exact absurd both.2 owner

theorem deregisterDevice_confined (around : Surroundings) (deviceId : DeviceId) (user : UserId)
    (r : Registry) :
    Confined user r (deregisterDevice around deviceId user) fun _ => True := by
  refine (getDeviceForUser_owns deviceId user r).bind fun device => ?_
  by_cases owner : r.devices.find deviceId = some device ∧ device.userId = user
  · have owns : Owns user r deviceId := ⟨device, owner⟩
    have here : device.id = deviceId := (Table.find_eq_some.mp owner.1).2
    have deleted : Untouched user r (deleteDevice device.id r) :=
      foreignView_deleteDevice (here.symm ▸ owns)
    refine (modify_untouched deleted).bind fun _ => ?_
    refine (redisCommand_untouched owns.not_foreign around.redis ?_).mono (fun _ => id)
      (fun _ _ untouched => ⟨untouched, trivial⟩) fun _ => id
    intro redis key online battery
    rw [Function.update_of_ne battery, Function.update_of_ne online]
  · intro now both
    exact absurd both.2 owner

theorem listDevices_confined (user : UserId) (r : Registry) :
    Confined user r (listDevices user) fun devices => ∀ device ∈ devices, device.userId = user := by
  refine .get_bind (.of_pure ?_)
  rintro now rfl
  refine ⟨rfl, fun device member => ?_⟩
  simpa using (List.mem_filter.mp (List.mem_mergeSort.mp member)).2

theorem recordUsage_confined (around : Surroundings) (deviceId : DeviceId) (appCategory : String)
    (durationSeconds : Int) (user : UserId) (r : Registry) :
    Confined user r (recordUsage around deviceId appCategory durationSeconds user)
      fun event => Owns user r event.deviceId := by
  refine .get_bind ?_
  cases found : r.devices.find deviceId with
  | none => exact .of_throw fun _ same => congrArg (foreignView user) same
  | some device =>
    by_cases owner : device.userId = user
    · simp only [owner, ne_eq, not_true_eq_false, if_false]
      have owns : Owns user r deviceId := ⟨device, found, owner⟩
      refine (insertUsageEvent_untouched around.accepts owns).bind fun _ => .of_pure ?_
      exact fun _ untouched => ⟨untouched, owns⟩
    · simp only [owner, ne_eq, not_false_eq_true, if_true]
      exact .of_throw fun _ same => congrArg (foreignView user) same

/-- The summary has entries only for the devices of its events. -/
theorem mem_foldl_addUsage {events : List UsageEvent} {perDevice : Dict DeviceUsage}
    {entry : String × DeviceUsage} (member : entry ∈ events.foldl addUsage perDevice) :
    entry ∈ perDevice ∨ ∃ e ∈ events, e.deviceId = entry.1 := by
  induction events generalizing perDevice with
  | nil => exact .inl member
  | cons e later ih =>
    rcases ih member with there | ⟨other, inside, same⟩
    · rcases Dict.mem_set there with rfl | before
      · exact .inr ⟨e, List.mem_cons_self, rfl⟩
      · exact .inl before
    · exact .inr ⟨other, List.mem_cons_of_mem _ inside, same⟩

theorem dailySummary_confined (user : UserId) (targetDate : Date) (r : Registry) :
    Confined user r (dailySummary user targetDate) fun items =>
      ∀ item ∈ items, Owns user r item.deviceId := by
  refine .get_bind (.of_pure ?_)
  rintro now rfl
  refine ⟨rfl, fun item member => ?_⟩
  obtain ⟨entry, inside, rfl⟩ := List.mem_map.mp member
  rcases mem_foldl_addUsage inside with none | ⟨e, counted, same⟩
  · cases none
  · have listed := (List.mem_filter.mp counted).2
    simp only [Bool.decide_and, Bool.and_eq_true, decide_eq_true_eq] at listed
    obtain ⟨device, own, here⟩ := List.mem_map.mp listed.1
    obtain ⟨row, owner⟩ := List.mem_filter.mp own
    refine ⟨device, Table.find_eq_some.mpr ⟨row, here.trans same⟩, by simpa using owner⟩

/-- **Every request is confined to its user.** -/
theorem restSession_confined (user : UserId) (around : Surroundings) (call : RestCall)
    (r : Registry) :
    Confined user r (restSession user around call) (RestAnswer.BelongsTo user r) := by
  cases call with
  | registerDevice name deviceType priority =>
    exact (registerDevice_confined around user name deviceType priority r).map fun _ => id
  | heartbeat deviceId battery =>
    exact (heartbeat_confined around deviceId user battery r).map fun _ => id
  | listDevices => exact (listDevices_confined user r).map fun _ => id
  | deregisterDevice deviceId =>
    refine (deregisterDevice_confined around deviceId user r).bind fun _ => .of_pure ?_
    exact fun _ => id
  | recordUsage deviceId appCategory durationSeconds =>
    exact (recordUsage_confined around deviceId appCategory durationSeconds user r).map fun _ => id
  | dailySummary targetDate => exact (dailySummary_confined user targetDate r).map fun _ => id

/-- Rolling the tables back leaves the keys of others alone as well. -/
theorem Untouched.rolledBack (untouched : Untouched user r next) :
    Untouched user r { r with redis := next.redis } := by
  refine foreignView_eq rfl rfl rfl fun deviceId foreign => ?_
  have cached := congrFun (congrArg ForeignView.cache untouched) deviceId
  have still := (untouched.foreign_iff deviceId).mpr foreign
  simp only [foreignView, if_pos still, if_pos foreign, Option.some.injEq, Prod.mk.injEq] at cached
  exact cached

theorem serveRest_confined (user : UserId) (r : Registry) (request : RestCall × Surroundings) :
    Untouched user r (serveRest user r request).2 ∧
      ∀ answer, (serveRest user r request).1 = .ok answer → answer.BelongsTo user r := by
  have confined := restSession_confined user request.2 request.1 r r rfl
  unfold serveRest getDb
  generalize (restSession user request.2 request.1).exec r = outcome at confined ⊢
  obtain ⟨answer | answer, next⟩ := outcome
  · exact ⟨Untouched.rolledBack confined, fun _ same => by cases same⟩
  · cases request.2.commits with
    | true =>
      refine ⟨confined.1, fun given same => ?_⟩
      cases same
      exact confined.2
    | false => exact ⟨Untouched.rolledBack confined.1, fun _ same => by cases same⟩

/-- **Tenant isolation.** After any requests of a user, raising ones included, all that belongs to
the devices of other users is as it was, and every answer on the way belongs to the user. -/
theorem tenant_isolation (user : UserId) (r : Registry)
    (requests : List (RestCall × Surroundings)) :
    foreignView user (run (fun r request => (serveRest user r request).2) r requests) =
        foreignView user r ∧
      ∀ before request after, requests = before ++ request :: after → ∀ answer,
        (serveRest user (run (fun r request => (serveRest user r request).2) r before)
            request).1 = .ok answer →
          answer.BelongsTo user
            (run (fun r request => (serveRest user r request).2) r before) := by
  constructor
  · have kept : ∀ now request, foreignView user now = foreignView user r →
        foreignView user (serveRest user now request).2 = foreignView user r :=
      fun now request same => (serveRest_confined user now request).1.trans same
    exact run_invariant _ kept rfl requests
  · intro before request after _ answer answered
    exact (serveRest_confined user _ request).2 answer answered

end ScreenSync.Rest
