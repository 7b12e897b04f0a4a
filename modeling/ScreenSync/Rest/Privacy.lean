/-
**What a user can tell of others.**

`ownView user r` is all that belongs to a user's devices: their rows, usage events and budgets, and
the Redis keys of their state. Nothing else of the registry enters what the user's requests answer
and do, but for one thing: a device of somebody else is forbidden, and one that nobody has is not
found. `ApiError.blur` takes these two answers for one.

* `ownView_insertDevice`, `ownView_beatDevice`, `ownView_deleteDevice`, `ownView_insertUsageEvent`,
  `ownView_redis` — a write for a device of the user is a write to the view.
* `restSession_twin` — a request, from two registries with the same view: the answers are the same
  up to `blur`, and so are the views.
* `ownView_of_untouched` — a request of somebody else leaves the view alone.
* `others_untold` — so the requests of others can be left out of a run: the user has the same and is
  answered the same. The ids that the requests draw are new.
-/

import ScreenSync.Foundation.Purge
import ScreenSync.Foundation.Twin
import ScreenSync.Rest.Isolation

namespace ScreenSync.Rest

open ScreenSync.Foundation ScreenSync.Shared

/-! ### What belongs to a user -/

section View

variable (user : UserId) (r : Registry)

def ownDevices : List DeviceRow := r.devices.rows.filter fun device => device.userId = user

/-- The id is that of a device of the user. -/
def OwnId (deviceId : DeviceId) : Prop := deviceId ∈ (ownDevices user r).map DeviceRow.id

instance (deviceId : DeviceId) : Decidable (OwnId user r deviceId) :=
  inferInstanceAs (Decidable (_ ∈ _))

/-- What belongs to the devices of a user. -/
structure OwnView where
  devices : List DeviceRow
  usageEvents : List UsageEvent
  budgets : List Budget
  cache : DeviceId → Option (Option String × Option String)

def ownView : OwnView where
  devices := ownDevices user r
  usageEvents := r.usageEvents.rows.filter fun e => OwnId user r e.deviceId
  budgets := r.budgets.rows.filter fun b => OwnId user r b.deviceId
  cache deviceId := if OwnId user r deviceId then
    some (r.redis (onlineKey deviceId), r.redis (batteryKey deviceId)) else none

end View

variable {user other : UserId} {r s t next : Registry} {deviceId : DeviceId}

/-- A view is judged part by part. -/
theorem ownView_eq {view : OwnView} (devices : ownDevices user r = view.devices)
    (usageEvents : r.usageEvents.rows.filter (fun e => OwnId user r e.deviceId) = view.usageEvents)
    (budgets : r.budgets.rows.filter (fun b => OwnId user r b.deviceId) = view.budgets)
    (cache : ∀ deviceId, (if OwnId user r deviceId then
      some (r.redis (onlineKey deviceId), r.redis (batteryKey deviceId)) else none) =
        view.cache deviceId) : ownView user r = view := by
  obtain ⟨_, _, _, _⟩ := view
  cases devices
  cases usageEvents
  cases budgets
  cases (funext cache : _ = _)
  rfl

theorem ownId_iff : OwnId user r deviceId ↔ Owns user r deviceId := by
  unfold OwnId ownDevices Owns
  simp only [List.mem_map, List.mem_filter, decide_eq_true_eq, Table.find_eq_some]
  constructor
  · rintro ⟨device, ⟨member, owner⟩, here⟩
    exact ⟨device, ⟨member, here⟩, owner⟩
  · rintro ⟨device, ⟨member, here⟩, owner⟩
    exact ⟨device, ⟨member, owner⟩, here⟩

/-- What a user owns depends on the view alone. -/
theorem owns_congr (same : ownView user s = ownView user t) (deviceId : DeviceId) :
    Owns user s deviceId ↔ Owns user t deviceId := by
  rw [← ownId_iff, ← ownId_iff, OwnId, OwnId]
  rw [show ownDevices user s = ownDevices user t from congrArg OwnView.devices same]

/-- So does the row of a device of the user. -/
theorem find_congr (same : ownView user s = ownView user t) {device : DeviceRow}
    (owner : device.userId = user) :
    s.devices.find deviceId = some device ↔ t.devices.find deviceId = some device := by
  have listed : ∀ r : Registry, r.devices.find deviceId = some device ↔
      device ∈ (ownView user r).devices ∧ device.id = deviceId := by
    intro r
    rw [Table.find_eq_some]
    show _ ↔ device ∈ r.devices.rows.filter (fun row => row.userId = user) ∧ _
    rw [List.mem_filter, and_iff_left (decide_eq_true owner)]
  rw [listed, listed, same]

/-! ### Requests of others -/

/-- **A request of somebody else** leaves the view alone. -/
theorem ownView_of_untouched (apart : user ≠ other) (untouched : Untouched other r next) :
    ownView user next = ownView user r := by
  have foreign : ∀ r : Registry,
      ownDevices user r = (foreignDevices other r).filter fun device => device.userId = user := by
    intro r
    unfold ownDevices foreignDevices
    rw [List.filter_filter]
    refine List.filter_congr fun row _ => ?_
    by_cases owner : row.userId = user
    · simp [owner, apart]
    · simp [owner]
  have devices : ownDevices user next = ownDevices user r := by
    rw [foreign, foreign, show foreignDevices other next = foreignDevices other r from
      congrArg ForeignView.devices untouched]
  have own : ∀ deviceId, OwnId user next deviceId ↔ OwnId user r deviceId := by
    intro deviceId
    rw [OwnId, OwnId, devices]
  have others : ∀ deviceId, OwnId user r deviceId → Foreign other r deviceId := by
    intro deviceId inside
    obtain ⟨device, member, here⟩ := List.mem_map.mp inside
    obtain ⟨listed, owner⟩ := List.mem_filter.mp member
    refine List.mem_map.mpr ⟨device, List.mem_filter.mpr ⟨listed, ?_⟩, here⟩
    have owner : device.userId = user := of_decide_eq_true owner
    exact decide_eq_true (owner ▸ apart)
  -- a part of the view is a part of what is foreign to the other user
  have part : ∀ {ρ : Type} (device : ρ → DeviceId) {rows rows' : List ρ},
      rows'.filter (fun row => Foreign other next (device row)) =
        rows.filter (fun row => Foreign other r (device row)) →
      rows'.filter (fun row => OwnId user next (device row)) =
        rows.filter fun row => OwnId user r (device row) := by
    intro ρ device rows rows' same
    have narrow : ∀ (rows : List ρ) (r : Registry),
        (∀ deviceId, OwnId user r deviceId → Foreign other r deviceId) →
        rows.filter (fun row => OwnId user r (device row)) =
          (rows.filter fun row => Foreign other r (device row)).filter
            fun row => OwnId user r (device row) := by
      intro rows r inside
      refine (filter_filter_of_kept fun row _ owned => ?_).symm
      exact decide_eq_true (inside _ (of_decide_eq_true owned))
    have still : ∀ deviceId, OwnId user next deviceId → Foreign other next deviceId := by
      intro deviceId inside
      exact (untouched.foreign_iff deviceId).mpr (others deviceId ((own deviceId).mp inside))
    rw [narrow rows' next still, same, narrow rows r others]
    exact List.filter_congr fun row _ => decide_eq_decide.mpr (own _)
  refine ownView_eq devices (part UsageEvent.deviceId (congrArg ForeignView.usageEvents untouched))
    (part Budget.deviceId (congrArg ForeignView.budgets untouched)) fun deviceId => ?_
  have cached := congrFun (congrArg ForeignView.cache untouched) deviceId
  show _ = if OwnId user r deviceId then _ else none
  by_cases inside : OwnId user r deviceId
  · have foreign := others deviceId inside
    rw [if_pos ((own deviceId).mpr inside), if_pos inside]
    simp only [foreignView, if_pos foreign,
      if_pos ((untouched.foreign_iff deviceId).mpr foreign)] at cached
    exact cached
  · rw [if_neg inside, if_neg fun there => inside ((own deviceId).mp there)]

/-! ### Writes for the user -/

/-- Nothing is about a device of this id. -/
structure Unused (deviceId : DeviceId) (r : Registry) : Prop where
  device : r.devices.find deviceId = none
  usageEvents : ∀ e ∈ r.usageEvents.rows, e.deviceId ≠ deviceId
  budgets : ∀ b ∈ r.budgets.rows, b.deviceId ≠ deviceId
  redis : r.redis (onlineKey deviceId) = none ∧ r.redis (batteryKey deviceId) = none

/-- **A heartbeat.** -/
theorem ownView_beatDevice (user : UserId) (deviceId : DeviceId) (now : UtcTime) (r : Registry) :
    ownView user (beatDevice deviceId now r) =
      { ownView user r with
        devices := (ownView user r).devices.map fun row =>
          if row.id = deviceId then beat now row else row } := by
  have devices : ownDevices user (beatDevice deviceId now r) =
      (ownDevices user r).map fun row => if row.id = deviceId then beat now row else row := by
    show (r.devices.rows.map _).filter _ = (r.devices.rows.filter _).map _
    rw [List.filter_map]
    refine congrArg (List.map _) (List.filter_congr fun row _ => ?_)
    rw [Function.comp_apply]
    split <;> rfl
  have own : ∀ id, OwnId user (beatDevice deviceId now r) id ↔ OwnId user r id := by
    intro id
    unfold OwnId
    rw [devices, List.map_map]
    have ids : DeviceRow.id ∘ (fun row => if row.id = deviceId then beat now row else row) =
        DeviceRow.id := by
      funext row
      rw [Function.comp_apply]
      split <;> rfl
    rw [ids]
  have rows : ∀ {ρ : Type} (device : ρ → DeviceId) (rows : List ρ),
      rows.filter (fun row => OwnId user (beatDevice deviceId now r) (device row)) =
        rows.filter fun row => OwnId user r (device row) :=
    fun device rows => List.filter_congr fun row _ => decide_eq_decide.mpr (own _)
  exact ownView_eq devices (rows UsageEvent.deviceId _) (rows Budget.deviceId _) fun id =>
    if_congr (own id) rfl rfl

/-- **A deletion.** -/
theorem ownView_deleteDevice (user : UserId) (deviceId : DeviceId) (r : Registry) :
    ownView user (deleteDevice deviceId r) =
      { devices := (ownView user r).devices.filter fun row => row.id ≠ deviceId
        usageEvents := (ownView user r).usageEvents.filter fun e => e.deviceId ≠ deviceId
        budgets := (ownView user r).budgets.filter fun b => b.deviceId ≠ deviceId
        cache := Function.update (ownView user r).cache deviceId none } := by
  have devices : ownDevices user (deleteDevice deviceId r) =
      (ownDevices user r).filter fun row => row.id ≠ deviceId := by
    show (r.devices.rows.filter _).filter _ = (r.devices.rows.filter _).filter _
    rw [List.filter_filter, List.filter_filter]
    refine List.filter_congr fun row _ => ?_
    rw [Bool.and_comm]
  have own : ∀ id, OwnId user (deleteDevice deviceId r) id ↔ OwnId user r id ∧ id ≠ deviceId := by
    intro id
    unfold OwnId
    rw [devices]
    simp only [List.mem_map, List.mem_filter, decide_eq_true_eq]
    constructor
    · rintro ⟨row, ⟨member, apart⟩, rfl⟩
      exact ⟨⟨row, member, rfl⟩, apart⟩
    · rintro ⟨⟨row, member, rfl⟩, apart⟩
      exact ⟨row, ⟨member, apart⟩, rfl⟩
  -- rows that point at a device
  have rows : ∀ {ρ : Type} (device : ρ → DeviceId) (rows : List ρ),
      (rows.filter fun row => ¬ device row = deviceId).filter (fun row =>
          OwnId user (deleteDevice deviceId r) (device row)) =
        (rows.filter fun row => OwnId user r (device row)).filter
          fun row => device row ≠ deviceId := by
    intro ρ device rows
    rw [List.filter_filter, List.filter_filter]
    refine List.filter_congr fun row _ => ?_
    by_cases apart : device row = deviceId <;> simp [own, apart]
  refine ownView_eq devices (rows UsageEvent.deviceId r.usageEvents.rows)
    (rows Budget.deviceId r.budgets.rows) fun id => ?_
  show _ = Function.update (ownView user r).cache deviceId none id
  rw [Function.update_apply]
  split
  · rename_i inside
    obtain ⟨before, apart⟩ := (own id).mp inside
    rw [if_neg apart]
    exact (if_pos before).symm
  · rename_i outside
    split
    · rfl
    · rename_i apart
      exact (if_neg fun before => outside ((own id).mpr ⟨before, apart⟩)).symm

/-- **A registration.** -/
theorem ownView_insertDevice {row : DeviceRow} (owner : row.userId = user)
    (unused : Unused row.id r) (fresh : r.devices.find row.id = none) :
    ownView user { r with devices := r.devices.insert row fresh } =
      { ownView user r with
        devices := (ownView user r).devices ++ [row]
        cache := Function.update (ownView user r).cache row.id (some (none, none)) } := by
  have devices : ownDevices user { r with devices := r.devices.insert row fresh } =
      ownDevices user r ++ [row] := by
    show (r.devices.rows ++ [row]).filter _ = _
    rw [List.filter_append]
    congr 1
    exact List.filter_cons_of_pos (decide_eq_true owner)
  have own : ∀ id, OwnId user { r with devices := r.devices.insert row fresh } id ↔
      OwnId user r id ∨ id = row.id := by
    intro id
    unfold OwnId
    rw [devices, List.map_append, List.mem_append, List.map_singleton, List.mem_singleton]
  have rows : ∀ {ρ : Type} (device : ρ → DeviceId) {rows : List ρ},
      (∀ other ∈ rows, device other ≠ row.id) →
      rows.filter (fun other =>
          OwnId user { r with devices := r.devices.insert row fresh } (device other)) =
        rows.filter fun other => OwnId user r (device other) := by
    intro ρ device rows apart
    refine List.filter_congr fun other member => decide_eq_decide.mpr ?_
    rw [own, or_iff_left (apart other member)]
  refine ownView_eq devices (rows UsageEvent.deviceId unused.usageEvents)
    (rows Budget.deviceId unused.budgets) fun id => ?_
  show (if OwnId user { r with devices := r.devices.insert row fresh } id then
    some (r.redis (onlineKey id), r.redis (batteryKey id)) else none) =
      Function.update (ownView user r).cache row.id (some (none, none)) id
  rw [Function.update_apply]
  by_cases here : id = row.id
  · rw [if_pos ((own id).mpr (.inr here)), if_pos here, here, unused.redis.1, unused.redis.2]
  · rw [if_neg here]
    exact if_congr ((own id).trans (or_iff_left here)) rfl rfl

/-- **A usage event.** -/
theorem ownView_insertUsageEvent {row : UsageEvent} (owns : Owns user r row.deviceId)
    (fresh : r.usageEvents.find row.id = none) :
    ownView user { r with usageEvents := r.usageEvents.insert row fresh } =
      { ownView user r with usageEvents := (ownView user r).usageEvents ++ [row] } := by
  have events : (r.usageEvents.rows ++ [row]).filter (fun e => OwnId user r e.deviceId) =
      r.usageEvents.rows.filter (fun e => OwnId user r e.deviceId) ++ [row] := by
    rw [List.filter_append]
    congr 1
    exact List.filter_cons_of_pos (decide_eq_true (ownId_iff.mpr owns))
  exact ownView_eq rfl events rfl fun _ => rfl

/-- **A command on the keys of a device.** -/
theorem ownView_redis (owns : Owns user r deviceId) {redis : String → Option String}
    (others : ∀ key, key ≠ onlineKey deviceId → key ≠ batteryKey deviceId →
      redis key = r.redis key) :
    ownView user { r with redis } =
      { ownView user r with
        cache := Function.update (ownView user r).cache deviceId
          (some (redis (onlineKey deviceId), redis (batteryKey deviceId))) } := by
  refine ownView_eq rfl rfl rfl fun id => ?_
  show (if OwnId user r id then some (redis (onlineKey id), redis (batteryKey id)) else none) =
    Function.update (ownView user r).cache deviceId _ id
  rw [Function.update_apply]
  split
  · rename_i inside
    split
    · rename_i here
      rw [here]
    · rename_i apart
      rw [others _ (onlineKey_ne apart) (onlineKey_ne_batteryKey _ _),
        others _ (onlineKey_ne_batteryKey _ _).symm (batteryKey_ne apart)]
      exact (if_pos inside).symm
  · rename_i outside
    have apart : id ≠ deviceId := by
      rintro rfl
      exact outside (ownId_iff.mpr owns)
    rw [if_neg apart]
    exact (if_neg outside).symm

/-- On the keys of a device that is not the user's. -/
theorem ownView_redis_other (foreign : ¬ Owns user r deviceId) {redis : String → Option String}
    (others : ∀ key, key ≠ onlineKey deviceId → key ≠ batteryKey deviceId →
      redis key = r.redis key) : ownView user { r with redis } = ownView user r := by
  refine ownView_eq rfl rfl rfl fun id => ?_
  refine ite_congr rfl (fun inside => ?_) fun _ => rfl
  have apart : id ≠ deviceId := by
    rintro rfl
    exact foreign (ownId_iff.mp inside)
  show some (redis (onlineKey id), redis (batteryKey id)) = _
  rw [others _ (onlineKey_ne apart) (onlineKey_ne_batteryKey _ _),
    others _ (onlineKey_ne_batteryKey _ _).symm (batteryKey_ne apart)]

/-! ### Two runs of a request -/

/-- The answers for a device of somebody else and for none, taken for one. -/
def ApiError.blur : ApiError → ApiError
  | .http statusCode detail =>
    if statusCode = 403 ∨ statusCode = 404 then .http 404 "" else .http statusCode detail
  | error => error

/-- The two registries show the user the same, and hold the same under the keys of the devices that
the user had before. -/
structure Alike (user : UserId) (before s t : Registry) : Prop where
  view : ownView user s = ownView user t
  redis : ∀ deviceId, Owns user before deviceId →
    s.redis (onlineKey deviceId) = t.redis (onlineKey deviceId) ∧
      s.redis (batteryKey deviceId) = t.redis (batteryKey deviceId)

variable {before : Registry}

theorem alike_start (same : ownView user s = ownView user t) : Alike user s s t where
  view := same
  redis deviceId owns := by
    have cached := congrFun (congrArg OwnView.cache same) deviceId
    have owns' := (owns_congr same deviceId).mp owns
    simp only [ownView, if_pos (ownId_iff.mpr owns), if_pos (ownId_iff.mpr owns'),
      Option.some.injEq, Prod.mk.injEq] at cached
    exact cached

/-- **Rolling the tables back.** -/
theorem Alike.rolledBack (alike : Alike user before s t) (same : ownView user before = ownView user r) :
    ownView user { before with redis := s.redis } = ownView user { r with redis := t.redis } := by
  have own : ∀ deviceId, OwnId user before deviceId ↔ OwnId user r deviceId :=
    fun deviceId => ownId_iff.trans ((owns_congr same deviceId).trans ownId_iff.symm)
  refine ownView_eq (congrArg OwnView.devices same) (congrArg OwnView.usageEvents same)
    (congrArg OwnView.budgets same) fun deviceId => ?_
  refine (if_congr (own deviceId) rfl rfl).trans ?_
  refine ite_congr rfl (fun inside => ?_) fun _ => rfl
  obtain ⟨online, battery⟩ := alike.redis deviceId (ownId_iff.mp ((own deviceId).mpr inside))
  show some (s.redis (onlineKey deviceId), s.redis (batteryKey deviceId)) = _
  rw [online, battery]

/-- Both runs of a request answer the same, or raise the same up to `blur`. -/
def InStep {α : Type} (user : UserId) (before : Registry) (pre : Registry → Registry → Prop)
    (session : RestSession α) (post : α → Prop) : Prop :=
  Session.Twin pre session session (fun a b s t => (a = b ∧ post a) ∧ Alike user before s t)
    fun e f s t => e.blur = f.blur ∧ Alike user before s t

theorem inStep_pure {α : Type} {post : α → Prop} {a : α} (holds : post a) :
    InStep user before (Alike user before) (pure a) post :=
  .of_pure fun _ _ alike => ⟨⟨rfl, holds⟩, alike⟩

theorem inStep_throw {α : Type} {pre : Registry → Registry → Prop} {post : α → Prop} (e : ApiError)
    (alike : ∀ s t, pre s t → Alike user before s t) :
    InStep user before pre (throw e) post :=
  .of_throw fun s t holds => ⟨rfl, alike s t holds⟩

/-- **Sequencing**: the second session starts from what the first one answers. -/
theorem InStep.bind {α β : Type} {pre : Registry → Registry → Prop} {session : RestSession α}
    {post : α → Prop} {f : α → RestSession β} {after : β → Prop}
    (first : InStep user before pre session post)
    (rest : ∀ a, post a → InStep user before (Alike user before) (f a) after) :
    InStep user before pre (session >>= f) after := by
  refine Session.Twin.bind first fun a b s t both => ?_
  obtain ⟨⟨rfl, holds⟩, alike⟩ := both
  exact rest a holds s t alike

/-- A command on the keys of a device that the user had. -/
theorem inStep_redisCommand (owns : Owns user before deviceId) (link : RedisLink)
    {effect : (String → Option String) → String → Option String}
    (others : ∀ redis key, key ≠ onlineKey deviceId → key ≠ batteryKey deviceId →
      effect redis key = redis key)
    (own : ∀ redis redis', redis (onlineKey deviceId) = redis' (onlineKey deviceId) →
      redis (batteryKey deviceId) = redis' (batteryKey deviceId) →
        effect redis (onlineKey deviceId) = effect redis' (onlineKey deviceId) ∧
          effect redis (batteryKey deviceId) = effect redis' (batteryKey deviceId)) :
    InStep user before (Alike user before) (redisCommand link effect) fun _ => True := by
  cases link with
  | null => exact inStep_pure trivial
  | down => exact inStep_throw _ fun _ _ => id
  | up =>
    refine .of_modify fun s t alike => ⟨⟨rfl, trivial⟩, ?_, fun id mine => ?_⟩
    · obtain ⟨online, battery⟩ := alike.redis deviceId owns
      obtain ⟨online', battery'⟩ := own s.redis t.redis online battery
      by_cases still : Owns user s deviceId
      · have still' := (owns_congr alike.view deviceId).mp still
        rw [ownView_redis still (others s.redis), ownView_redis still' (others t.redis), alike.view,
          online', battery']
      · have still' := fun there => still ((owns_congr alike.view deviceId).mpr there)
        rw [ownView_redis_other still (others s.redis), ownView_redis_other still' (others t.redis),
          alike.view]
    · show effect s.redis _ = effect t.redis _ ∧ effect s.redis _ = effect t.redis _
      by_cases here : id = deviceId
      · subst here
        obtain ⟨online, battery⟩ := alike.redis id mine
        exact own s.redis t.redis online battery
      · rw [others _ _ (onlineKey_ne here) (onlineKey_ne_batteryKey _ _),
          others _ _ (onlineKey_ne here) (onlineKey_ne_batteryKey _ _),
          others _ _ (onlineKey_ne_batteryKey _ _).symm (batteryKey_ne here),
          others _ _ (onlineKey_ne_batteryKey _ _).symm (batteryKey_ne here)]
        exact alike.redis id mine

theorem inStep_setex (owns : Owns user before deviceId) (link : RedisLink) {key : String}
    (target : key = onlineKey deviceId ∨ key = batteryKey deviceId) (value : String) :
    InStep user before (Alike user before) (setex link key value) fun _ => True := by
  refine inStep_redisCommand owns link (fun redis other online battery => ?_)
    fun redis redis' online battery => ?_
  · rw [Function.update_of_ne]
    rintro rfl
    exact target.elim online battery
  · simp only [Function.update_apply]
    exact ⟨by split <;> [rfl; exact online], by split <;> [rfl; exact battery]⟩

/-- A device of the user is found in both, and any other one in neither. -/
theorem inStep_getDeviceForUser (deviceId : DeviceId) (before : Registry) :
    InStep user before (fun s t => s = before ∧ Alike user before s t)
      (getDeviceForUser deviceId user) fun device =>
        before.devices.find deviceId = some device ∧ device.userId = user := by
  rintro s t ⟨rfl, alike⟩
  -- what becomes of a device that is not the user's
  have refused : ∀ r : Registry, ¬ Owns user r deviceId →
      ∃ e : ApiError, (getDeviceForUser deviceId user).exec r = (.error e, r) ∧
        e.blur = .http 404 "" := by
    intro r foreign
    simp only [getDeviceForUser, Session.exec_bind, Session.exec_get]
    cases found : r.devices.find deviceId with
    | none => exact ⟨_, rfl, rfl⟩
    | some device =>
      have apart : device.userId ≠ user := fun owner => foreign ⟨device, found, owner⟩
      simp only [ne_eq, apart, not_false_eq_true, if_true]
      exact ⟨_, rfl, rfl⟩
  by_cases owns : Owns user s deviceId
  · obtain ⟨device, found, owner⟩ := owns
    have found' := (find_congr alike.view owner).mp found
    simp only [getDeviceForUser, Session.exec_bind, Session.exec_get, found, found', owner, ne_eq,
      not_true_eq_false, if_false]
    exact ⟨⟨rfl, rfl, owner⟩, alike⟩
  · obtain ⟨e, first, hidden⟩ := refused s owns
    obtain ⟨f, second, hidden'⟩ :=
      refused t fun there => owns ((owns_congr alike.view deviceId).mpr there)
    rw [first, second]
    exact ⟨hidden.trans hidden'.symm, alike⟩

/-- A write to a registry that turns equal views into equal ones, and leaves Redis alone. -/
theorem inStep_modify {f : Registry → Registry}
    (same : ∀ s t, ownView user s = ownView user t → ownView user (f s) = ownView user (f t))
    (redis : ∀ r, (f r).redis = r.redis) :
    InStep user before (Alike user before) (modify f) fun _ => True :=
  .of_modify fun s t alike => ⟨⟨rfl, trivial⟩, same s t alike.view, fun deviceId owns => by
    rw [redis, redis]
    exact alike.redis deviceId owns⟩

theorem inStep_heartbeat (around : Surroundings) (deviceId : DeviceId) (battery : Option Int)
    (before : Registry) :
    InStep user before (fun s t => s = before ∧ Alike user before s t)
      (heartbeat around deviceId user battery) fun _ => True := by
  refine (inStep_getDeviceForUser deviceId before).bind fun device found => ?_
  have owns : Owns user before deviceId := ⟨device, found⟩
  have beats : InStep user before (Alike user before)
      (modify (beatDevice device.id around.now)) fun _ => True :=
    inStep_modify (fun s t same => by rw [ownView_beatDevice, ownView_beatDevice, same])
      fun _ => rfl
  refine beats.bind fun _ _ => ?_
  refine (inStep_setex owns around.redis (.inl rfl) "1").bind fun _ _ => ?_
  cases battery with
  | none => exact inStep_pure trivial
  | some level =>
    exact (inStep_setex owns around.secondRedis (.inr rfl) level.repr).bind fun _ _ =>
      inStep_pure trivial

theorem inStep_deregisterDevice (around : Surroundings) (deviceId : DeviceId) (before : Registry) :
    InStep user before (fun s t => s = before ∧ Alike user before s t)
      (deregisterDevice around deviceId user) fun _ => True := by
  refine (inStep_getDeviceForUser deviceId before).bind fun device found => ?_
  have owns : Owns user before deviceId := ⟨device, found⟩
  have deletes : InStep user before (Alike user before) (modify (deleteDevice device.id))
      fun _ => True :=
    inStep_modify (fun s t same => by rw [ownView_deleteDevice, ownView_deleteDevice, same])
      fun _ => rfl
  refine deletes.bind fun _ _ => ?_
  refine inStep_redisCommand owns around.redis (fun redis key online battery => ?_)
    fun redis redis' _ _ => ?_
  · rw [Function.update_of_ne battery, Function.update_of_ne online]
  · simp only [Function.update_apply]
    exact ⟨by split <;> rfl, by split <;> rfl⟩

theorem inStep_listDevices (before : Registry) :
    InStep user before (fun s t => s = before ∧ Alike user before s t) (listDevices user)
      fun _ => True := by
  refine .get_bind fun s t both => .of_pure ?_
  rintro s' t' ⟨rfl, rfl⟩
  have same : ownDevices user s' = ownDevices user t' := congrArg OwnView.devices both.2.view
  unfold ownDevices at same
  exact ⟨⟨by rw [same], trivial⟩, both.2⟩

theorem inStep_registerDevice (around : Surroundings) (name deviceType : String) (priority : Int)
    (before : Registry) :
    InStep user before
      (fun s t => (Unused around.uuid s ∧ Unused around.uuid t) ∧ Alike user before s t)
      (registerDevice around user name deviceType priority) fun _ => True := by
  have inserts : ∀ row : DeviceRow, row.userId = user → InStep user before
      (fun s t => (Unused row.id s ∧ Unused row.id t) ∧ Alike user before s t)
      (insertDevice around.accepts row) fun _ => True := by
    intro row owner
    refine .get_bind fun s t both => ?_
    rintro s' t' ⟨rfl, rfl⟩
    obtain ⟨⟨unused, unused'⟩, alike⟩ := both
    by_cases accepts : around.accepts = true
    · rw [dif_pos ⟨unused.device, accepts⟩, dif_pos ⟨unused'.device, accepts⟩]
      refine ⟨⟨rfl, trivial⟩, ?_, alike.redis⟩
      rw [ownView_insertDevice owner unused unused.device,
        ownView_insertDevice owner unused' unused'.device, alike.view]
    · rw [dif_neg fun fresh => accepts fresh.2, dif_neg fun fresh => accepts fresh.2]
      exact ⟨rfl, alike⟩
  have answers : ∀ row : DeviceRow,
      InStep user before (Alike user before) (pure row) fun _ => True :=
    fun _ => inStep_pure trivial
  have device := inserts
    { id := around.uuid
      userId := user
      name
      type := deviceType
      priority
      isOnline := true
      lastHeartbeat := some around.now
      registeredAt := around.databaseNow } rfl
  exact device.bind fun _ _ => answers _

theorem inStep_recordUsage (around : Surroundings) (deviceId : DeviceId) (appCategory : String)
    (durationSeconds : Int) (before : Registry) :
    InStep user before
      (fun s t => (s.usageEvents.find around.eventId = none ∧
        t.usageEvents.find around.eventId = none) ∧ Alike user before s t)
      (recordUsage around deviceId appCategory durationSeconds user) fun _ => True := by
  rintro s t ⟨⟨fresh, fresh'⟩, alike⟩
  -- the device is somebody else's, or nobody's
  have refused : ∀ r : Registry, ¬ Owns user r deviceId → ∃ e : ApiError,
      (recordUsage around deviceId appCategory durationSeconds user).exec r = (.error e, r) ∧
        e.blur = .http 404 "" := by
    intro r foreign
    simp only [recordUsage, Session.exec_bind, Session.exec_get]
    cases found : r.devices.find deviceId with
    | none => exact ⟨_, rfl, rfl⟩
    | some device =>
      have apart : device.userId ≠ user := fun owner => foreign ⟨device, found, owner⟩
      simp only [ne_eq, apart, not_false_eq_true, if_true]
      exact ⟨_, rfl, rfl⟩
  -- the device is the user's
  have recorded : ∀ r : Registry, Owns user r deviceId →
      (recordUsage around deviceId appCategory durationSeconds user).exec r =
        (insertUsageEvent around.accepts
            (newUsageEvent around deviceId appCategory durationSeconds) >>= fun _ =>
          pure (newUsageEvent around deviceId appCategory durationSeconds)).exec r := by
    rintro r ⟨device, found, owner⟩
    simp only [recordUsage, Session.exec_bind, Session.exec_get, found, owner, ne_eq,
      not_true_eq_false, if_false]
  by_cases owns : Owns user s deviceId
  · have owns' := (owns_congr alike.view deviceId).mp owns
    rw [recorded s owns, recorded t owns']
    simp only [insertUsageEvent, Session.exec_bind, Session.exec_get]
    by_cases accepts : around.accepts = true
    · rw [dif_pos ⟨fresh, accepts⟩, dif_pos ⟨fresh', accepts⟩]
      refine ⟨⟨rfl, trivial⟩, ?_, alike.redis⟩
      rw [ownView_insertUsageEvent owns fresh, ownView_insertUsageEvent owns' fresh', alike.view]
    · rw [dif_neg fun free => accepts free.2, dif_neg fun free => accepts free.2]
      exact ⟨rfl, alike⟩
  · obtain ⟨e, first, hidden⟩ := refused s owns
    obtain ⟨f, second, hidden'⟩ :=
      refused t fun there => owns ((owns_congr alike.view deviceId).mpr there)
    rw [first, second]
    exact ⟨hidden.trans hidden'.symm, alike⟩

theorem inStep_dailySummary (targetDate : Date) (before : Registry) :
    InStep user before (fun s t => s = before ∧ Alike user before s t)
      (dailySummary user targetDate) fun _ => True := by
  refine .get_bind fun s t both => .of_pure ?_
  rintro s' t' ⟨rfl, rfl⟩
  have devices : s'.devices.rows.filter (fun device => device.userId = user) =
      t'.devices.rows.filter fun device => device.userId = user :=
    congrArg OwnView.devices both.2.view
  have events : ∀ r : Registry, r.usageEvents.rows.filter (fun e =>
      e.deviceId ∈ (r.devices.rows.filter fun device => device.userId = user).map DeviceRow.id ∧
        UtcTime.midnight targetDate ≤ e.recordedAt ∧ e.recordedAt ≤ lastSecond targetDate) =
      (ownView user r).usageEvents.filter fun e =>
        UtcTime.midnight targetDate ≤ e.recordedAt ∧ e.recordedAt ≤ lastSecond targetDate := by
    intro r
    show _ = (r.usageEvents.rows.filter fun e => OwnId user r e.deviceId).filter _
    rw [List.filter_filter]
    refine List.filter_congr fun e _ => ?_
    rw [Bool.and_comm, ← Bool.decide_and]
    rfl
  refine ⟨⟨?_, trivial⟩, both.2⟩
  rw [events, events, devices, both.2.view]

/-! ### Requests -/

/-- The id of the device row that a request makes. -/
def drawnDevice : RestCall × Surroundings → Option DeviceId
  | (.registerDevice .., around) => some around.uuid
  | _ => none

/-- The id of the usage event that a request makes. -/
def drawnEvent : RestCall × Surroundings → Option Int
  | (.recordUsage .., around) => some around.eventId
  | _ => none

/-- Nothing is there yet under the ids. -/
structure Vacant (deviceIds : List DeviceId) (eventIds : List Int) (r : Registry) : Prop where
  devices : ∀ deviceId ∈ deviceIds, Unused deviceId r
  events : ∀ eventId ∈ eventIds, r.usageEvents.find eventId = none

/-- The ids that a request draws are new to the registry. -/
def DrawsNew (request : RestCall × Surroundings) : Registry → Prop :=
  Vacant (drawnDevice request).toList (drawnEvent request).toList

theorem InStep.map {α β : Type} {pre : Registry → Registry → Prop} {session : RestSession α}
    (inStep : InStep user before pre session fun _ => True) (f : α → β) :
    InStep user before pre (f <$> session) fun _ => True := by
  rw [map_eq_pure_bind]
  exact inStep.bind fun a _ => inStep_pure trivial

/-- **One request, on two registries that show the user the same.** -/
theorem restSession_twin (around : Surroundings) (call : RestCall) (before : Registry) :
    InStep user before
      (fun s t => (s = before ∧ DrawsNew (call, around) s ∧ DrawsNew (call, around) t) ∧
        Alike user before s t)
      (restSession user around call) fun _ => True := by
  have started : ∀ {session : RestSession RestAnswer} {pre : Registry → Registry → Prop},
      InStep user before pre session (fun _ => True) →
      (∀ s t, (s = before ∧ DrawsNew (call, around) s ∧ DrawsNew (call, around) t) ∧
        Alike user before s t → pre s t) →
      InStep user before (fun s t => (s = before ∧ DrawsNew (call, around) s ∧
        DrawsNew (call, around) t) ∧ Alike user before s t) session fun _ => True :=
    fun inStep starts => inStep.mono starts (fun _ _ _ _ => id) fun _ _ _ _ => id
  cases call with
  | registerDevice name deviceType priority =>
    refine started ((inStep_registerDevice around name deviceType priority before).map _) ?_
    rintro s t ⟨⟨-, new, new'⟩, alike⟩
    exact ⟨⟨new.devices _ (List.mem_singleton_self _), new'.devices _ (List.mem_singleton_self _)⟩, alike⟩
  | heartbeat deviceId battery =>
    refine started ((inStep_heartbeat around deviceId battery before).map _) ?_
    exact fun s t both => ⟨both.1.1, both.2⟩
  | listDevices =>
    exact started ((inStep_listDevices before).map _) fun s t both => ⟨both.1.1, both.2⟩
  | deregisterDevice deviceId =>
    have answers : InStep user before (Alike user before)
        (pure RestAnswer.noContent) fun _ => True := inStep_pure trivial
    refine started ((inStep_deregisterDevice around deviceId before).bind fun _ _ => answers) ?_
    exact fun s t both => ⟨both.1.1, both.2⟩
  | recordUsage deviceId appCategory durationSeconds =>
    refine started
      ((inStep_recordUsage around deviceId appCategory durationSeconds before).map _) ?_
    rintro s t ⟨⟨-, new, new'⟩, alike⟩
    exact ⟨⟨new.events _ (List.mem_singleton_self _), new'.events _ (List.mem_singleton_self _)⟩, alike⟩
  | dailySummary targetDate =>
    exact started ((inStep_dailySummary targetDate before).map _) fun s t both =>
      ⟨both.1.1, both.2⟩

/-- What a user is told, when somebody else's device and nobody's are not told apart. -/
def told (user : UserId) (r : Registry) (request : RestCall × Surroundings) :
    Except ApiError RestAnswer :=
  (serveRest user r request).1.mapError ApiError.blur

theorem serveRest_twin {request : RestCall × Surroundings} (new : DrawsNew request s)
    (new' : DrawsNew request t) (same : ownView user s = ownView user t) :
    told user s request = told user t request ∧
      ownView user (serveRest user s request).2 = ownView user (serveRest user t request).2 := by
  obtain ⟨call, around⟩ := request
  have both := restSession_twin around call s s t ⟨⟨rfl, new, new'⟩, alike_start same⟩
  simp only [told, serveRest, getDb]
  generalize (restSession user around call).exec s = left at both ⊢
  generalize (restSession user around call).exec t = right at both ⊢
  obtain ⟨a | a, s'⟩ := left <;> obtain ⟨b | b, t'⟩ := right
  · obtain ⟨blurred, alike⟩ := both
    exact ⟨congrArg Except.error blurred, alike.rolledBack same⟩
  · exact both.elim
  · exact both.elim
  · obtain ⟨⟨rfl, -⟩, alike⟩ := both
    cases around.commits with
    | true => exact ⟨rfl, alike.view⟩
    | false => exact ⟨rfl, alike.rolledBack same⟩

/-! ### Ids that are still to be drawn -/

variable {deviceIds : List DeviceId} {eventIds : List Int}

theorem Vacant.not_mem (vacant : Vacant deviceIds eventIds r) {device : DeviceRow}
    (found : r.devices.find deviceId = some device) : deviceId ∉ deviceIds := by
  intro inside
  rw [(vacant.devices deviceId inside).device] at found
  cases found

theorem Vacant.beatDevice (vacant : Vacant deviceIds eventIds r) (deviceId : DeviceId)
    (now : UtcTime) : Vacant deviceIds eventIds (beatDevice deviceId now r) where
  devices id inside :=
    { vacant.devices id inside with
      device := by
        have kept : ∀ row, (beat now row).id = row.id := fun _ => rfl
        show (r.devices.updateWhere (fun row => row.id = deviceId) (beat now) kept).find id = none
        rw [Table.find_updateWhere, (vacant.devices id inside).device]
        rfl }
  events := vacant.events

theorem Vacant.deleteDevice (vacant : Vacant deviceIds eventIds r) (deviceId : DeviceId) :
    Vacant deviceIds eventIds (deleteDevice deviceId r) where
  devices id inside :=
    { device := by
        show (r.devices.deleteWhere _).find id = none
        rw [Table.find_deleteWhere, (vacant.devices id inside).device]
        rfl
      usageEvents := fun e left =>
        (vacant.devices id inside).usageEvents e (List.mem_filter.mp left).1
      budgets := fun b left => (vacant.devices id inside).budgets b (List.mem_filter.mp left).1
      redis := (vacant.devices id inside).redis }
  events eventId inside := by
    show (r.usageEvents.deleteWhere _).find eventId = none
    rw [Table.find_deleteWhere, vacant.events eventId inside]
    rfl

theorem Vacant.insertDevice (vacant : Vacant deviceIds eventIds r) {row : DeviceRow}
    (apart : row.id ∉ deviceIds) (fresh : r.devices.find row.id = none) :
    Vacant deviceIds eventIds { r with devices := r.devices.insert row fresh } where
  devices id inside :=
    { vacant.devices id inside with
      device := by
        have other : row.id ≠ id := fun same => apart (same ▸ inside)
        show (r.devices.insert row fresh).find id = none
        rw [Table.find_insert, if_neg other]
        exact (vacant.devices id inside).device }
  events := vacant.events

theorem Vacant.insertUsageEvent (vacant : Vacant deviceIds eventIds r) {row : UsageEvent}
    (apart : row.deviceId ∉ deviceIds) (apart' : row.id ∉ eventIds)
    (fresh : r.usageEvents.find row.id = none) :
    Vacant deviceIds eventIds { r with usageEvents := r.usageEvents.insert row fresh } where
  devices id inside :=
    { vacant.devices id inside with
      usageEvents := fun e member => by
        rcases List.mem_append.mp member with before | added
        · exact (vacant.devices id inside).usageEvents e before
        · rw [List.mem_singleton.mp added]
          exact fun same => apart (same ▸ inside) }
  events eventId inside := by
    have other : row.id ≠ eventId := fun same => apart' (same ▸ inside)
    show (r.usageEvents.insert row fresh).find eventId = none
    rw [Table.find_insert, if_neg other]
    exact vacant.events eventId inside

theorem Vacant.redis (vacant : Vacant deviceIds eventIds r) (apart : deviceId ∉ deviceIds)
    {redis : String → Option String}
    (others : ∀ key, key ≠ onlineKey deviceId → key ≠ batteryKey deviceId →
      redis key = r.redis key) : Vacant deviceIds eventIds { r with redis } where
  devices id inside :=
    { vacant.devices id inside with
      redis := by
        have other : id ≠ deviceId := fun same => apart (same ▸ inside)
        show redis (onlineKey id) = none ∧ redis (batteryKey id) = none
        rw [others _ (onlineKey_ne other) (onlineKey_ne_batteryKey _ _),
          others _ (onlineKey_ne_batteryKey _ _).symm (batteryKey_ne other)]
        exact (vacant.devices id inside).redis }
  events := vacant.events

theorem redisCommand_vacant (apart : deviceId ∉ deviceIds) (link : RedisLink)
    {effect : (String → Option String) → String → Option String}
    (others : ∀ redis key, key ≠ onlineKey deviceId → key ≠ batteryKey deviceId →
      effect redis key = redis key) :
    Session.Triple (Vacant deviceIds eventIds) (redisCommand link effect)
      (fun _ => Vacant deviceIds eventIds) (Vacant deviceIds eventIds) := by
  cases link with
  | up => exact .of_modify fun now vacant => vacant.redis apart (others now.redis)
  | null => exact .of_pure fun _ => id
  | down => exact .of_throw fun _ => id

theorem setex_vacant (apart : deviceId ∉ deviceIds) (link : RedisLink) {key : String}
    (target : key = onlineKey deviceId ∨ key = batteryKey deviceId) (value : String) :
    Session.Triple (Vacant deviceIds eventIds) (setex link key value)
      (fun _ => Vacant deviceIds eventIds) (Vacant deviceIds eventIds) := by
  refine redisCommand_vacant apart link fun redis other online battery => ?_
  rw [Function.update_of_ne]
  rintro rfl
  exact target.elim online battery

theorem insertDevice_vacant (accepts : Bool) {row : DeviceRow} (apart : row.id ∉ deviceIds) :
    Session.Triple (Vacant deviceIds eventIds) (insertDevice accepts row)
      (fun _ => Vacant deviceIds eventIds) (Vacant deviceIds eventIds) := by
  intro now vacant
  simp only [insertDevice, Session.exec_bind, Session.exec_get]
  by_cases fresh : now.devices.find row.id = none ∧ accepts = true
  · rw [dif_pos fresh]
    exact vacant.insertDevice apart fresh.1
  · rw [dif_neg fresh]
    exact vacant

theorem insertUsageEvent_vacant (accepts : Bool) {row : UsageEvent}
    (apart : row.deviceId ∉ deviceIds) (apart' : row.id ∉ eventIds) :
    Session.Triple (Vacant deviceIds eventIds) (insertUsageEvent accepts row)
      (fun _ => Vacant deviceIds eventIds) (Vacant deviceIds eventIds) := by
  intro now vacant
  simp only [insertUsageEvent, Session.exec_bind, Session.exec_get]
  by_cases fresh : now.usageEvents.find row.id = none ∧ accepts = true
  · rw [dif_pos fresh]
    exact vacant.insertUsageEvent apart apart' fresh.1
  · rw [dif_neg fresh]
    exact vacant

/-- What follows a look at a device works on an id that is not one of those still to be drawn. -/
theorem getDeviceForUser_vacant {α : Type} (deviceId : DeviceId) (user : UserId)
    {rest : DeviceRow → RestSession α}
    (kept : deviceId ∉ deviceIds → ∀ device, Session.Triple (Vacant deviceIds eventIds)
      (rest device) (fun _ => Vacant deviceIds eventIds) (Vacant deviceIds eventIds)) :
    Session.Triple (Vacant deviceIds eventIds) (getDeviceForUser deviceId user >>= rest)
      (fun _ => Vacant deviceIds eventIds) (Vacant deviceIds eventIds) := by
  intro now vacant
  simp only [getDeviceForUser, Session.exec_bind, Session.exec_get]
  cases found : now.devices.find deviceId with
  | none => exact vacant
  | some device =>
    by_cases owner : device.userId = user
    · simp only [owner, ne_eq, not_true_eq_false, if_false]
      exact kept (vacant.not_mem found) device now vacant
    · simp only [owner, ne_eq, not_false_eq_true, if_true]
      exact vacant

/-- **A request leaves the ids that it does not draw as they are.** -/
theorem restSession_vacant (user : UserId) {call : RestCall} {around : Surroundings}
    (apart : ∀ id ∈ drawnDevice (call, around), id ∉ deviceIds)
    (apart' : ∀ id ∈ drawnEvent (call, around), id ∉ eventIds) :
    Session.Triple (Vacant deviceIds eventIds) (restSession user around call)
      (fun _ => Vacant deviceIds eventIds) (Vacant deviceIds eventIds) := by
  have answered : ∀ {α : Type} (a : α), Session.Triple (Vacant deviceIds eventIds)
      (pure a : RestSession α) (fun _ => Vacant deviceIds eventIds) (Vacant deviceIds eventIds) :=
    fun _ => .of_pure fun _ => id
  have map : ∀ {α β : Type} {session : RestSession α} (f : α → β),
      Session.Triple (Vacant deviceIds eventIds) session (fun _ => Vacant deviceIds eventIds)
        (Vacant deviceIds eventIds) →
      Session.Triple (Vacant deviceIds eventIds) (f <$> session)
        (fun _ => Vacant deviceIds eventIds) (Vacant deviceIds eventIds) := by
    intro α β session f kept
    rw [map_eq_pure_bind]
    exact kept.bind fun _ => answered _
  cases call with
  | registerDevice name deviceType priority =>
    refine map _ ?_
    exact (insertDevice_vacant around.accepts (apart _ rfl)).bind fun _ => answered _
  | heartbeat deviceId battery =>
    refine map _ (getDeviceForUser_vacant deviceId user fun other device => ?_)
    have beats : Session.Triple (Vacant deviceIds eventIds)
        (modify (beatDevice device.id around.now) : RestSession PUnit)
        (fun _ => Vacant deviceIds eventIds) (Vacant deviceIds eventIds) :=
      .of_modify fun now vacant => vacant.beatDevice device.id around.now
    refine beats.bind fun _ => ?_
    refine (setex_vacant other around.redis (.inl rfl) "1").bind fun _ => ?_
    cases battery with
    | none => exact answered _
    | some level =>
      exact (setex_vacant other around.secondRedis (.inr rfl) level.repr).bind fun _ =>
        answered _
  | listDevices =>
    have lists : Session.Triple (Vacant deviceIds eventIds) (listDevices user)
        (fun _ => Vacant deviceIds eventIds) (Vacant deviceIds eventIds) := fun _ vacant => vacant
    exact map _ lists
  | deregisterDevice deviceId =>
    have deletes : Session.Triple (Vacant deviceIds eventIds) (deregisterDevice around deviceId user)
        (fun _ => Vacant deviceIds eventIds) (Vacant deviceIds eventIds) := by
      refine getDeviceForUser_vacant deviceId user fun other device => ?_
      have gone : Session.Triple (Vacant deviceIds eventIds)
          (modify (deleteDevice device.id) : RestSession PUnit)
          (fun _ => Vacant deviceIds eventIds) (Vacant deviceIds eventIds) :=
        .of_modify fun now vacant => vacant.deleteDevice device.id
      refine gone.bind fun _ => redisCommand_vacant other around.redis ?_
      intro redis key online battery
      rw [Function.update_of_ne battery, Function.update_of_ne online]
    exact deletes.bind fun _ => answered _
  | recordUsage deviceId appCategory durationSeconds =>
    refine map _ ?_
    intro now vacant
    simp only [recordUsage, Session.exec_bind, Session.exec_get]
    cases found : now.devices.find deviceId with
    | none => exact vacant
    | some device =>
      by_cases owner : device.userId = user
      · simp only [owner, ne_eq, not_true_eq_false, if_false]
        have here : (newUsageEvent around deviceId appCategory durationSeconds).deviceId ∉
            deviceIds := vacant.not_mem found
        have records := insertUsageEvent_vacant around.accepts here (apart' _ rfl)
        exact (records.bind fun _ => answered _) now vacant
      · simp only [owner, ne_eq, not_false_eq_true, if_true]
        exact vacant
  | dailySummary targetDate =>
    have sums : Session.Triple (Vacant deviceIds eventIds) (dailySummary user targetDate)
        (fun _ => Vacant deviceIds eventIds) (Vacant deviceIds eventIds) := fun _ vacant => vacant
    exact map _ sums

/-- Rolling the tables back. -/
theorem Vacant.rolledBack (vacant : Vacant deviceIds eventIds r)
    (vacant' : Vacant deviceIds eventIds next) :
    Vacant deviceIds eventIds { r with redis := next.redis } where
  devices id inside :=
    { vacant.devices id inside with redis := (vacant'.devices id inside).redis }
  events := vacant.events

theorem serveRest_vacant (user : UserId) {request : RestCall × Surroundings}
    (vacant : Vacant deviceIds eventIds r) (apart : ∀ id ∈ drawnDevice request, id ∉ deviceIds)
    (apart' : ∀ id ∈ drawnEvent request, id ∉ eventIds) :
    Vacant deviceIds eventIds (serveRest user r request).2 := by
  have kept := restSession_vacant user apart apart' r vacant
  unfold serveRest getDb
  generalize (restSession user request.2 request.1).exec r = outcome at kept ⊢
  obtain ⟨answer | answer, next⟩ := outcome
  · exact vacant.rolledBack kept
  · cases request.2.commits with
    | true => exact kept
    | false => exact vacant.rolledBack kept

/-! ### Runs -/

/-- The ids that the requests draw are new, and no two of them draw the same. -/
structure DrawsApart (r : Registry) (requests : List (UserId × RestCall × Surroundings)) :
    Prop where
  devices : (requests.filterMap fun request => drawnDevice request.2).Nodup
  events : (requests.filterMap fun request => drawnEvent request.2).Nodup
  vacant : Vacant (requests.filterMap fun request => drawnDevice request.2)
    (requests.filterMap fun request => drawnEvent request.2) r

theorem Vacant.sublist {fewer : List DeviceId} {fewer' : List Int}
    (vacant : Vacant deviceIds eventIds r) (devices : fewer.Sublist deviceIds)
    (events : fewer'.Sublist eventIds) : Vacant fewer fewer' r where
  devices id inside := vacant.devices id (devices.subset inside)
  events id inside := vacant.events id (events.subset inside)

variable {requests : List (UserId × RestCall × Surroundings)}
  {request : UserId × RestCall × Surroundings}

theorem DrawsApart.head (draws : DrawsApart r (request :: requests)) : DrawsNew request.2 r where
  devices id drawn := draws.vacant.devices id (mem_drawn_head (Option.mem_toList.mp drawn))
  events id drawn := draws.vacant.events id (mem_drawn_head (Option.mem_toList.mp drawn))

theorem DrawsApart.tail (draws : DrawsApart r (request :: requests)) : DrawsApart r requests where
  devices := draws.devices.sublist (drawn_tail _ _ _)
  events := draws.events.sublist (drawn_tail _ _ _)
  vacant := draws.vacant.sublist (drawn_tail _ _ _) (drawn_tail _ _ _)

/-- One request of anybody. -/
def serveAny (r : Registry) (request : UserId × RestCall × Surroundings) : Registry :=
  (serveRest request.1 r request.2).2

/-- Before anybody has registered a device. -/
def noDevices : Registry where
  devices := .empty
  usageEvents := .empty
  budgets := .empty
  redis _ := none

/-- Surroundings in which all goes well. -/
def undisturbed (uuid : DeviceId) (eventId : Int) : Surroundings where
  now := someTime 12 0
  databaseNow := someTime 12 0
  uuid
  eventId
  accepts := true
  commits := true
  redis := .up
  secondRedis := .up

/-- Two users register a device each; the second one tries the device of the first one, and a
device that nobody has, and the first one goes on. -/
def twoUsers : List (UserId × RestCall × Surroundings) :=
  [("ann", .registerDevice "Tablet" "tablet" 5, undisturbed "tablet" 1),
    ("bob", .registerDevice "Phone" "phone" 1, undisturbed "phone" 2),
    ("bob", .deregisterDevice "tablet", undisturbed "" 3),
    ("bob", .heartbeat "watch" none, undisturbed "" 4),
    ("ann", .recordUsage "tablet" "games" 60, undisturbed "" 5),
    ("ann", .listDevices, undisturbed "" 6)]

-- Before `blur`, somebody else's device and nobody's are told apart.
example : (serveRest "bob" (run serveAny noDevices (twoUsers.take 2))
      (.deregisterDevice "tablet", undisturbed "" 3)).1 =
        .error (forbidden "Device belongs to another user") ∧
    (serveRest "bob" noDevices (.deregisterDevice "tablet", undisturbed "" 3)).1 =
        .error (deviceNotFound "tablet") :=
  ⟨rfl, rfl⟩

end ScreenSync.Rest
