/-
**The family snapshot and the registry.**

The registry keeps the devices of a user as rows, the sync engine their states under Redis keys of
its own. `deregister_device` deletes two other keys of the device, and `ingest_event` does not ask
the registry.

* `mem_familySnapshot` — the devices of a family snapshot, read off the stored keys.
* `owns_register`, `owns_deregister` — what the requests do to the devices of a user.
* `serveFamily_follows_iff` — when one call leaves a snapshot of registered devices.
* `follows_iff` — the snapshot follows the registry throughout a run exactly if no device is removed
  that has a stored state, and no state is stored for a device that is not registered.
-/

import ScreenSync.Rest.Isolation
import ScreenSync.Sync.LastWrite

namespace ScreenSync.App

open ScreenSync.Foundation ScreenSync.Shared ScreenSync.Rest ScreenSync.Sync

/-! ### Registry and snapshots -/

/-- What the two modules store. -/
structure Family where
  registry : Registry
  sync : SyncState

/-- A call for a user's devices. -/
inductive FamilyCall
  | register (name deviceType : String) (priority : Int) (around : Surroundings)
  | deregister (deviceId : DeviceId) (around : Surroundings)
  | ingest (call : IngestCall)

/-- An event of one of the user's devices. -/
def ofUser (user : UserId) (call : IngestCall) : IngestCall :=
  { call with event := { call.event with userId := user } }

/-- `redis.delete` of some keys, as far as it concerns the snapshots. -/
def deleteKeys (keys : List String) (state : SyncState) : SyncState :=
  { state with snapshots := state.snapshots.filter fun entry => entry.1 ∉ keys }

/-- The keys that a call of `deregister_device` deletes, if it comes to it. -/
def deregisteredKeys (user : UserId) (registry : Registry) (deviceId : DeviceId)
    (around : Surroundings) : List String :=
  match around.redis, ((deregisterDevice around deviceId user).exec registry).1 with
  | .up, .ok _ => [onlineKey deviceId, batteryKey deviceId]
  | _, _ => []

/-- One call. -/
def serveFamily (iso : IsoReader) (user : UserId) (family : Family) : FamilyCall → Family
  | .register name deviceType priority around =>
    { family with
      registry :=
        (serveRest user family.registry (.registerDevice name deviceType priority, around)).2 }
  | .deregister deviceId around =>
    { registry := (serveRest user family.registry (.deregisterDevice deviceId, around)).2
      sync := deleteKeys (deregisteredKeys user family.registry deviceId around) family.sync }
  | .ingest call => { family with sync := serveIngest iso family.sync (ofUser user call) }

/-- The family snapshot of a user shows devices of the user only. -/
def Follows (user : UserId) (family : Family) : Prop :=
  ∀ deviceId ∈ (getFamilySnapshot family.sync user).map Prod.fst,
    Owns user family.registry deviceId

/-! ### The devices of a snapshot -/

/-- There is a stored state that the family snapshot of the user shows as the device's. -/
def HasState (user : UserId) (state : SyncState) (deviceId : DeviceId) : Prop :=
  ∃ key ∈ state.snapshots.map Prod.fst,
    (stateKey user "").toList <+: key.toList ∧ lastPart key = deviceId

/-- **The devices of a family snapshot.** -/
theorem mem_familySnapshot {user : UserId} {state : SyncState} {deviceId : DeviceId} :
    deviceId ∈ (getFamilySnapshot state user).map Prod.fst ↔ HasState user state deviceId := by
  rw [getFamilySnapshot, Dict.mem_keys_foldl_set, List.map_nil, or_iff_right List.not_mem_nil]
  refine ⟨fun listed => ?_, fun kept => ?_⟩
  · obtain ⟨entry, member, shown⟩ := listed
    obtain ⟨stored, ofUser⟩ := List.mem_filter.mp member
    exact ⟨entry.1, List.mem_map_of_mem stored, List.isPrefixOf_iff_prefix.mp ofUser, shown⟩
  · obtain ⟨key, stored, ofUser, shown⟩ := kept
    obtain ⟨entry, member, rfl⟩ := List.mem_map.mp stored
    exact ⟨entry, List.mem_filter.mpr ⟨member, List.isPrefixOf_iff_prefix.mpr ofUser⟩, shown⟩

/-! ### Keys -/

theorem head_append {front : String} {c : Char} (first : front.toList.head? = some c)
    (rest : String) : (front ++ rest).toList.head? = some c := by
  rw [String.toList_append, List.head?_append, first]
  rfl

theorem stateKey_head (user : UserId) : (stateKey user "").toList.head? = some 's' :=
  head_append (head_append (head_append (by decide) user) ":") ""

/-- The keys that the registry deletes are none of them. -/
theorem not_mem_deregisteredKeys {user : UserId} {registry : Registry} {deviceId : DeviceId}
    {around : Surroundings} {key : String} (ofUser : (stateKey user "").toList <+: key.toList) :
    key ∉ deregisteredKeys user registry deviceId around := by
  have first : key.toList.head? = some 's' := by
    obtain ⟨rest, same⟩ := ofUser
    rw [← same, List.head?_append, stateKey_head]
    rfl
  have online : (onlineKey deviceId).toList.head? = some 'd' := head_append (by decide) deviceId
  have battery : (batteryKey deviceId).toList.head? = some 'd' := head_append (by decide) deviceId
  unfold deregisteredKeys
  split
  · intro member
    rcases List.mem_pair.mp member with rfl | rfl
    · exact absurd (first.symm.trans online) (by decide)
    · exact absurd (first.symm.trans battery) (by decide)
  · exact List.not_mem_nil

/-! ### The devices of a user -/

variable {user : UserId} {r : Registry} {deviceId other : DeviceId} {around : Surroundings}

/-- The call removes the device: it is the user's, Redis is not down, and the transaction is
committed. -/
structure Removes (user : UserId) (r : Registry) (deviceId : DeviceId) (around : Surroundings) :
    Prop where
  owns : Owns user r deviceId
  redis : around.redis ≠ .down
  commits : around.commits = true

/-- A registration inserts a row, or leaves the devices as they are. -/
theorem register_devices (name deviceType : String) (priority : Int) :
    (serveRest user r (.registerDevice name deviceType priority, around)).2.devices = r.devices ∨
      ∃ row fresh, (serveRest user r (.registerDevice name deviceType priority, around)).2.devices =
        r.devices.insert row fresh := by
  let row : DeviceRow :=
    { id := around.uuid
      userId := user
      name
      type := deviceType
      priority
      lastHeartbeat := some around.now
      isOnline := true
      registeredAt := around.databaseNow }
  by_cases fresh : r.devices.find row.id = none ∧ around.accepts = true
  · have inserted : (restSession user around (.registerDevice name deviceType priority)).exec r =
        (.ok (.device row), { r with devices := r.devices.insert row fresh.1 }) := by
      simp only [restSession, registerDevice, insertDevice, map_eq_pure_bind, Session.exec_bind,
        Session.exec_get]
      rw [dif_pos fresh]
      rfl
    rw [serveRest, getDb, inserted]
    cases around.commits with
    | true => exact .inr ⟨row, fresh.1, rfl⟩
    | false => exact .inl rfl
  · have refused : (restSession user around (.registerDevice name deviceType priority)).exec r =
        (.error .integrityError, r) := by
      simp only [restSession, registerDevice, insertDevice, map_eq_pure_bind, Session.exec_bind,
        Session.exec_get]
      rw [dif_neg fresh]
      rfl
    rw [serveRest, getDb, refused]
    exact .inl rfl

/-- A registration takes no device away. -/
theorem owns_register (owns : Owns user r other) (name deviceType : String) (priority : Int) :
    Owns user (serveRest user r (.registerDevice name deviceType priority, around)).2 other := by
  obtain ⟨device, found, owner⟩ := owns
  refine ⟨device, ?_, owner⟩
  rcases register_devices name deviceType priority with same | ⟨row, fresh, inserted⟩
  · rw [same]
    exact found
  · rw [inserted, Table.find_insert, if_neg, found]
    rintro rfl
    rw [found] at fresh
    cases fresh

/-- What the session does for a device of the user: only an unreachable Redis makes it raise. -/
theorem deregister_exec (owns : Owns user r deviceId) :
    (restSession user around (.deregisterDevice deviceId)).exec r =
      match around.redis with
      | .up => (.ok .noContent,
          { deleteDevice deviceId r with
            redis := Function.update (Function.update r.redis (onlineKey deviceId) none)
              (batteryKey deviceId) none })
      | .null => (.ok .noContent, deleteDevice deviceId r)
      | .down => (.error .connectionError, deleteDevice deviceId r) := by
  obtain ⟨device, found, owner⟩ := owns
  obtain ⟨-, rfl⟩ := Table.find_eq_some.mp found
  simp only [restSession, deregisterDevice, getDeviceForUser, Session.exec_bind, Session.exec_get,
    found, owner, ne_eq, not_true_eq_false, if_false, Session.exec_pure]
  cases around.redis <;> rfl

theorem deregister_answers (owns : Owns user r deviceId) (reachable : around.redis ≠ .down) :
    ∃ next, (restSession user around (.deregisterDevice deviceId)).exec r =
        (.ok .noContent, next) ∧
      next.devices = r.devices.deleteWhere fun row => row.id = deviceId := by
  rw [deregister_exec owns]
  cases link : around.redis with
  | up => exact ⟨_, rfl, rfl⟩
  | null => exact ⟨_, rfl, rfl⟩
  | down => exact absurd link reachable

theorem deregister_raises (refused : ¬ (Owns user r deviceId ∧ around.redis ≠ .down)) :
    ∃ error next,
      (restSession user around (.deregisterDevice deviceId)).exec r = (.error error, next) := by
  by_cases owns : Owns user r deviceId
  · have down : around.redis = .down := not_not.mp fun reachable => refused ⟨owns, reachable⟩
    rw [deregister_exec owns, down]
    exact ⟨_, _, rfl⟩
  · simp only [restSession, deregisterDevice, getDeviceForUser, Session.exec_bind,
      Session.exec_get]
    cases found : r.devices.find deviceId with
    | none => exact ⟨_, _, rfl⟩
    | some device =>
      have other : device.userId ≠ user := fun owner => owns ⟨device, found, owner⟩
      simp only [if_pos other]
      exact ⟨_, _, rfl⟩

theorem deregister_devices_of_removes (removes : Removes user r deviceId around) :
    (serveRest user r (.deregisterDevice deviceId, around)).2.devices =
      r.devices.deleteWhere fun row => row.id = deviceId := by
  obtain ⟨next, answered, devices⟩ := deregister_answers removes.owns removes.redis
  rw [serveRest, getDb, answered]
  simp only [removes.commits, if_true]
  exact devices

theorem deregister_devices_of_not (stays : ¬ Removes user r deviceId around) :
    (serveRest user r (.deregisterDevice deviceId, around)).2.devices = r.devices := by
  rw [serveRest, getDb]
  by_cases reaches : Owns user r deviceId ∧ around.redis ≠ .down
  · obtain ⟨next, answered, -⟩ := deregister_answers reaches.1 reaches.2
    have rolledBack : ¬ around.commits = true := fun commits =>
      stays ⟨reaches.1, reaches.2, commits⟩
    rw [answered]
    simp only [if_neg rolledBack]
  · obtain ⟨error, next, raised⟩ := deregister_raises reaches
    rw [raised]

/-- **What a request to deregister does to the devices of the user.** -/
theorem owns_deregister :
    Owns user (serveRest user r (.deregisterDevice deviceId, around)).2 other ↔
      Owns user r other ∧ ¬ (other = deviceId ∧ Removes user r deviceId around) := by
  by_cases removes : Removes user r deviceId around
  · have rows := deregister_devices_of_removes removes
    simp only [Owns, rows, Table.find_deleteWhere, removes, and_true]
    refine ⟨fun owned => ?_, fun owned => ?_⟩
    · obtain ⟨device, found, owner⟩ := owned
      obtain ⟨stored, stays⟩ := Option.filter_eq_some_iff.mp found
      refine ⟨⟨device, stored, owner⟩, ?_⟩
      rw [← (Table.find_eq_some.mp stored).2]
      simpa using stays
    · obtain ⟨⟨device, found, owner⟩, apart⟩ := owned
      refine ⟨device, Option.filter_eq_some_iff.mpr ⟨found, ?_⟩, owner⟩
      rw [(Table.find_eq_some.mp found).2]
      simpa using apart
  · simp only [Owns, deregister_devices_of_not removes, removes, and_false, not_false_eq_true,
      and_true]

/-! ### The stored states -/

variable {iso : IsoReader} {state : SyncState} {call : IngestCall} {family : Family}

/-- The call acquires the lock and does not raise. -/
def Stores (iso : IsoReader) (state : SyncState) (call : IngestCall) : Prop :=
  call.acquired = true ∧ ∃ sent next, ingestEvent iso state call = .ok (sent, next)

theorem serveIngest_of_stores (stores : Stores iso state call) :
    ∃ snapshot, (serveIngest iso state call).snapshots =
      state.snapshots.set (stateKey call.event.userId call.event.deviceId) snapshot := by
  obtain ⟨acquired, sent, next, served⟩ := stores
  rw [serveIngest, served]
  simp only [ingestEvent, acquired, if_true] at served
  cases chosen : chooseWinner iso
      (getDeviceSnapshot state call.event.userId call.event.deviceId) call with
  | error raised =>
    rw [chosen] at served
    cases served
  | ok choice =>
    rw [chosen] at served
    cases served
    exact ⟨_, rfl⟩

theorem serveIngest_of_not (idle : ¬ Stores iso state call) :
    serveIngest iso state call = state := by
  rw [serveIngest]
  cases served : ingestEvent iso state call with
  | error raised => rfl
  | ok answer =>
    have waits : ¬ call.acquired = true := fun acquired => idle ⟨acquired, _, _, served⟩
    rw [ingestEvent, if_neg waits] at served
    cases served
    rfl

/-- **What an event adds to the snapshot of its user.** -/
theorem hasState_ingest (stores : Stores iso state (ofUser user call)) :
    HasState user (serveIngest iso state (ofUser user call)) other ↔
      HasState user state other ∨ lastPart (stateKey user call.event.deviceId) = other := by
  obtain ⟨snapshot, written⟩ := serveIngest_of_stores stores
  simp only [HasState, written, Dict.mem_keys_set, or_and_right, exists_or, exists_eq_left]
  exact or_congr_right (and_iff_right (stateKey_starts user call.event.deviceId))

/-- The keys that the registry deletes are not those of a stored state. -/
theorem hasState_deregister :
    HasState user (deleteKeys (deregisteredKeys user r deviceId around) state) other ↔
      HasState user state other := by
  refine ⟨fun kept => ?_, fun kept => ?_⟩
  · obtain ⟨key, stored, shown⟩ := kept
    obtain ⟨entry, member, rfl⟩ := List.mem_map.mp stored
    exact ⟨entry.1, List.mem_map_of_mem (List.mem_of_mem_filter member), shown⟩
  · obtain ⟨key, stored, ofUser, shown⟩ := kept
    obtain ⟨entry, member, rfl⟩ := List.mem_map.mp stored
    refine ⟨entry.1, List.mem_map_of_mem (List.mem_filter.mpr ⟨member, ?_⟩), ofUser, shown⟩
    exact decide_eq_true (not_mem_deregisteredKeys ofUser)

/-! ### One call -/

/-- No device is removed that has a stored state, and no state is stored for a device that is not
the user's. -/
def Stays (iso : IsoReader) (user : UserId) (family : Family) : FamilyCall → Prop
  | .register .. => True
  | .deregister deviceId around =>
    Removes user family.registry deviceId around → ¬ HasState user family.sync deviceId
  | .ingest call => Stores iso family.sync (ofUser user call) →
    Owns user family.registry (lastPart (stateKey user call.event.deviceId))

theorem follows_iff_hasState :
    Follows user family ↔ ∀ deviceId, HasState user family.sync deviceId →
      Owns user family.registry deviceId :=
  forall_congr' fun _ => imp_congr_left mem_familySnapshot

/-- **One call** leaves the snapshot among the registered devices exactly if it stays there. -/
theorem serveFamily_follows_iff (follows : Follows user family) (call : FamilyCall) :
    Follows user (serveFamily iso user family call) ↔ Stays iso user family call := by
  rw [follows_iff_hasState] at follows ⊢
  cases call with
  | register name deviceType priority around =>
    refine iff_of_true (fun deviceId stored => ?_) trivial
    exact owns_register (follows deviceId stored) name deviceType priority
  | deregister deviceId around =>
    simp only [serveFamily, hasState_deregister, owns_deregister, Stays]
    refine ⟨fun still removes stored => ?_, fun unseen other stored => ?_⟩
    · exact (still deviceId stored).2 ⟨rfl, removes⟩
    · refine ⟨follows other stored, ?_⟩
      rintro ⟨rfl, removes⟩
      exact unseen removes stored
  | ingest call =>
    by_cases stores : Stores iso family.sync (ofUser user call)
    · simp only [serveFamily, hasState_ingest stores, Stays, stores, true_imp_iff]
      refine ⟨fun still => ?_, ?_⟩
      · exact still _ (.inr rfl)
      · rintro owns other (before | rfl)
        · exact follows other before
        · exact owns
    · simp only [serveFamily, serveIngest_of_not stores, Stays, stores, false_imp_iff, iff_true]
      exact follows

/-! ### Runs -/

/-- **The family snapshot follows the registry** throughout a run exactly if no device is removed
that has a stored state, and no state is stored for a device that is not registered. -/
theorem follows_iff (iso : IsoReader) (user : UserId) {family : Family}
    (follows : Follows user family) (calls : List FamilyCall) :
    Throughout (serveFamily iso user) (Follows user) family calls ↔
      Meets (serveFamily iso user) (Stays iso user) family calls := by
  have exactly : ∀ family call, True → Follows user family →
      (Follows user (serveFamily iso user family call) ↔ Stays iso user family call) :=
    fun _ call _ before => serveFamily_follows_iff before call
  exact throughout_iff_meets (fun _ => True) (fun _ _ _ => trivial) exactly trivial follows calls

/-! ### A family with one tablet -/

/-- A registry without rows, beside no stored states. -/
def noFamily : Family where
  registry :=
    { devices := .empty
      usageEvents := .empty
      budgets := .empty
      redis := fun _ => none }
  sync := ⟨[], []⟩

/-- Redis and the database do what they are asked to, and the key drawn is the tablet's. -/
def smooth : Surroundings where
  now := someTime 9 0
  databaseNow := someTime 9 0
  uuid := tablet.id
  eventId := 1
  accepts := true
  commits := true
  redis := .up
  secondRedis := .up

/-- The tablet is registered, reports its usage, and is removed. -/
def tabletRemoved : List FamilyCall :=
  [.register "tablet" "tablet" 1 smooth, .ingest (report "chess" 0 10 false),
    .deregister tablet.id smooth]

theorem follows_noFamily : Follows "family" noFamily := by
  intro deviceId listed
  cases listed

theorem follows_iff_noFamily :
    Throughout (serveFamily .strict "family") (Follows "family") noFamily tabletRemoved ↔
      Meets (serveFamily .strict "family") (Stays .strict "family") noFamily tabletRemoved :=
  follows_iff .strict "family" follows_noFamily tabletRemoved

/-- The family snapshot still shows the tablet. -/
theorem removed_tablet_shown :
    ¬ Throughout (serveFamily .strict "family") (Follows "family") noFamily tabletRemoved := by
  intro always
  have shown : "tablet" ∈ (getFamilySnapshot (run (serveFamily .strict "family") noFamily
      tabletRemoved).sync "family").map Prod.fst := by
    decide +kernel
  have gone : (run (serveFamily .strict "family") noFamily
      tabletRemoved).registry.devices.find "tablet" = none := by
    decide +kernel
  obtain ⟨device, found, -⟩ := always tabletRemoved [] (List.append_nil _).symm _ shown
  rw [gone] at found
  cases found

end ScreenSync.App
