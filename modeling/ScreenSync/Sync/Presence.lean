/-
**Which devices of a family are online.**

A device is marked online by `SADD` to its user's set and `EXPIRE` of the set, and offline by `SREM`.
Nothing else looks after a device: it is online as long as it was not marked offline and some device
of the family is marked online at least once in 24 hours. The commands of a call are served at one
time.

* `markOnline`, `markOffline`, `getOnlineDevices` — the functions, one Redis command after another.
* `run_onlineKey` — the set of a user goes through the calls for this user alone.
* `online_devices` — after every run, what `getOnlineDevices` finds; through the client of
  `get_redis`, which hands over texts, it raises as soon as it finds anything.
-/

import ScreenSync.Foundation.Roll
import ScreenSync.Sync.Commands
import ScreenSync.Sync.Expiry

namespace ScreenSync.Sync

open ScreenSync.Foundation ScreenSync.Shared

/-! ### Sets in Redis -/

/-- The sets in Redis. An empty one is deleted. -/
abbrev RedisSets := String → Option (Roll String)

/-- `SADD`. -/
def sadd (sets : RedisSets) (now : Nat) (key member : String) : RedisSets :=
  Function.update sets key (Roll.enter now member (sets key))

/-- `EXPIRE`, in milliseconds. -/
def expire (sets : RedisSets) (now : Nat) (key : String) (lifetime : Nat) : RedisSets :=
  Function.update sets key (Roll.renew now lifetime (sets key))

/-- `SREM`. -/
def srem (sets : RedisSets) (now : Nat) (key member : String) : RedisSets :=
  Function.update sets key (Roll.strike now member (sets key))

/-- `SMEMBERS`. -/
def smembers (sets : RedisSets) (now : Nat) (key : String) : Finset String :=
  Roll.listed now (sets key)

/-! ### The functions -/

/-- `_ONLINE_KEY`. -/
def familyOnlineKey (userId : UserId) : String := "screensync:online:" ++ userId

/-- `mark_online`. -/
def markOnline (sets : RedisSets) (now : Nat) (userId : UserId) (deviceId : DeviceId) : RedisSets :=
  expire (sadd sets now (familyOnlineKey userId) deviceId) now (familyOnlineKey userId) snapshotTtl

/-- `mark_offline`. -/
def markOffline (sets : RedisSets) (now : Nat) (userId : UserId) (deviceId : DeviceId) :
    RedisSets :=
  srem sets now (familyOnlineKey userId) deviceId

/-- `get_online_devices`, or none where it raises; `form` is how the client hands over what it has
read. A text has no `decode`. -/
def getOnlineDevices (form : Replies) (sets : RedisSets) (now : Nat) (userId : UserId) :
    Option (Finset DeviceId) :=
  let members := smembers sets now (familyOnlineKey userId)
  match form with
  | .bytes => some members
  | .text => if members = ∅ then some ∅ else none

/-- A call of one of the two that write. -/
inductive PresenceCall
  | online (userId : UserId) (deviceId : DeviceId) (time : Nat)
  | offline (userId : UserId) (deviceId : DeviceId) (time : Nat)

def PresenceCall.time : PresenceCall → Nat
  | .online _ _ time | .offline _ _ time => time

def servePresence (sets : RedisSets) : PresenceCall → RedisSets
  | .online userId deviceId time => markOnline sets time userId deviceId
  | .offline userId deviceId time => markOffline sets time userId deviceId

/-! ### One family -/

/-- A call for the user, as a visit of the device. -/
def PresenceCall.visit (userId : UserId) : PresenceCall → Option (Visit DeviceId)
  | .online owner deviceId time => if owner = userId then some (.arrive deviceId time) else none
  | .offline owner deviceId time => if owner = userId then some (.depart deviceId time) else none

/-- The calls for a user. -/
def visitsOf (userId : UserId) (calls : List PresenceCall) : List (Visit DeviceId) :=
  calls.filterMap (PresenceCall.visit userId)

variable {sets : RedisSets} {calls : List PresenceCall} {userId owner : UserId}

theorem familyOnlineKey_inj : familyOnlineKey owner = familyOnlineKey userId ↔ owner = userId := by
  constructor
  · intro same
    have texts := congrArg String.toList same
    unfold familyOnlineKey at texts
    rw [String.toList_append, String.toList_append] at texts
    exact String.toList_inj.mp (List.append_cancel_left texts)
  · intro same
    rw [same]

/-- A call for the user goes on with the user's set. -/
theorem markOnline_own (now : Nat) (deviceId : DeviceId) :
    markOnline sets now userId deviceId (familyOnlineKey userId) =
      Visit.enroll snapshotTtl (sets (familyOnlineKey userId)) (.arrive deviceId now) := by
  unfold markOnline expire sadd
  rw [Function.update_self, Function.update_self]
  rfl

theorem markOnline_other (now : Nat) (deviceId : DeviceId) (other : owner ≠ userId) :
    markOnline sets now owner deviceId (familyOnlineKey userId) =
      sets (familyOnlineKey userId) := by
  have apart : familyOnlineKey userId ≠ familyOnlineKey owner := fun same =>
    other (familyOnlineKey_inj.mp same).symm
  unfold markOnline expire sadd
  rw [Function.update_of_ne apart, Function.update_of_ne apart]

theorem markOffline_own (now : Nat) (deviceId : DeviceId) :
    markOffline sets now userId deviceId (familyOnlineKey userId) =
      Visit.enroll snapshotTtl (sets (familyOnlineKey userId)) (.depart deviceId now) := by
  unfold markOffline srem
  rw [Function.update_self]
  rfl

theorem markOffline_other (now : Nat) (deviceId : DeviceId) (other : owner ≠ userId) :
    markOffline sets now owner deviceId (familyOnlineKey userId) =
      sets (familyOnlineKey userId) := by
  have apart : familyOnlineKey userId ≠ familyOnlineKey owner := fun same =>
    other (familyOnlineKey_inj.mp same).symm
  unfold markOffline srem
  rw [Function.update_of_ne apart]

/-- **The set of a user** goes through the calls for this user alone. -/
theorem run_onlineKey (sets : RedisSets) (calls : List PresenceCall) (userId : UserId) :
    run servePresence sets calls (familyOnlineKey userId) =
      run (Visit.enroll snapshotTtl) (sets (familyOnlineKey userId)) (visitsOf userId calls) := by
  induction calls generalizing sets with
  | nil => rfl
  | cons call calls ih =>
    rw [run_cons, ih, visitsOf, visitsOf, List.filterMap_cons]
    cases call with
    | online owner deviceId time =>
      by_cases own : owner = userId
      · subst own
        simp only [PresenceCall.visit, if_true, run_cons, servePresence, markOnline_own]
      · simp only [PresenceCall.visit, if_neg own, servePresence,
          markOnline_other time deviceId own]
    | offline owner deviceId time =>
      by_cases own : owner = userId
      · subst own
        simp only [PresenceCall.visit, if_true, run_cons, servePresence, markOffline_own]
      · simp only [PresenceCall.visit, if_neg own, servePresence,
          markOffline_other time deviceId own]

theorem visit_time {call : PresenceCall} {visit : Visit DeviceId}
    (same : call.visit userId = some visit) : visit.time = call.time := by
  cases call with
  | online owner deviceId time =>
    obtain ⟨-, visited⟩ := Option.ite_none_right_eq_some.mp same
    cases visited
    rfl
  | offline owner deviceId time =>
    obtain ⟨-, visited⟩ := Option.ite_none_right_eq_some.mp same
    cases visited
    rfl

/-- **Which devices are online** after a run of calls in the order of their times. -/
theorem online_devices (calls : List PresenceCall)
    (ordered : calls.Pairwise fun first second => first.time ≤ second.time) (now : Nat)
    (reached : ∀ call ∈ calls, call.time ≤ now) (userId : UserId) :
    ∃ devices, (∀ deviceId, deviceId ∈ devices ↔
        Stays snapshotTtl (visitsOf userId calls) deviceId now) ∧
      getOnlineDevices .bytes (run servePresence (fun _ => none) calls) now userId = some devices ∧
      (getOnlineDevices .text (run servePresence (fun _ => none) calls) now userId = none ↔
        ∃ deviceId, Stays snapshotTtl (visitsOf userId calls) deviceId now) := by
  have inOrder : (visitsOf userId calls).Pairwise fun first second => first.time ≤ second.time := by
    refine List.pairwise_filterMap.mpr (ordered.imp fun {first second} before => ?_)
    intro arrival same later other
    rw [visit_time same, visit_time other]
    exact before
  have members : ∀ deviceId,
      deviceId ∈ smembers (run servePresence (fun _ => none) calls) now (familyOnlineKey userId) ↔
        Stays snapshotTtl (visitsOf userId calls) deviceId now := by
    intro deviceId
    unfold smembers
    rw [run_onlineKey]
    refine listed_iff (by decide) inOrder fun visit member => ?_
    obtain ⟨call, inside, same⟩ := List.mem_filterMap.mp member
    rw [visit_time same]
    exact reached call inside
  refine ⟨_, members, rfl, ?_⟩
  unfold getOnlineDevices
  simp only [← members]
  split
  · rename_i nobody
    simp [nobody]
  · rename_i somebody
    exact iff_of_true rfl (Finset.nonempty_iff_ne_empty.mpr somebody)

/-! ### A tablet that the phone keeps online -/

/-- The tablet is marked online once, and the phone 20 hours later. -/
def keptByPhone : List PresenceCall :=
  [.online "family" "tablet" 0, .online "family" "phone" 72000000]

theorem online_devices_keptByPhone :
    ∃ devices, (∀ deviceId, deviceId ∈ devices ↔
        Stays snapshotTtl (visitsOf "family" keptByPhone) deviceId 108000000) ∧
      getOnlineDevices .bytes (run servePresence (fun _ => none) keptByPhone) 108000000 "family" =
        some devices ∧
      (getOnlineDevices .text (run servePresence (fun _ => none) keptByPhone) 108000000 "family" =
          none ↔
        ∃ deviceId, Stays snapshotTtl (visitsOf "family" keptByPhone) deviceId 108000000) :=
  online_devices keptByPhone (by simp [keptByPhone, PresenceCall.time]) 108000000
    (by simp [keptByPhone, PresenceCall.time]) "family"

-- 30 hours after it was marked, the tablet is online still.
example : "tablet" ∈ smembers (run servePresence (fun _ => none) keptByPhone) 108000000
    (familyOnlineKey "family") := by
  decide

end ScreenSync.Sync
