/-
**Family snapshots, as Redis holds them.**

`_write_snapshot` stores a JSON text under a key made of the two ids, and `get_family_snapshot` asks
for the keys of a user by a glob, reads each of them, and takes the device's id off its end. The
three texts are unambiguous as long as no id has a colon or a character special to a glob.

* `accepts_stateKey` — the glob of a user matches the keys of that user, and of no other.
* `readFamily_get` — reading the keys of a user gives, for every device, what is stored for it.
* `family_shows_own_writes` — after any writes, each device shows the last state written for it.
* `textsOf_writeSnapshot`, `readFamily_textsOf` — the snapshots as objects stand for these texts.
-/

import ScreenSync.Foundation.Glob
import ScreenSync.Foundation.Grouping
import ScreenSync.Foundation.JsonText
import ScreenSync.Foundation.Run
import ScreenSync.Sync.Ingest

namespace ScreenSync.Sync

open ScreenSync.Foundation ScreenSync.Foundation.JsonText ScreenSync.Shared

/-! ### Keys of plain ids -/

/-- An id without a colon or a character special to a glob. -/
def PlainId (id : String) : Prop := ∀ c ∈ id.toList, c ≠ ':' ∧ c ∉ globSpecials

theorem PlainId.no_colon {id : String} (plain : PlainId id) : ':' ∉ id.toList :=
  fun member => (plain ':' member).1 rfl

/-- What stands before and after the first delimiter is determined. -/
theorem delimited_inj {α : Type*} {delimiter : α} {before before' after after' : List α}
    (first : delimiter ∉ before) (first' : delimiter ∉ before') :
    before ++ delimiter :: after = before' ++ delimiter :: after' ↔
      before = before' ∧ after = after' := by
  induction before generalizing before' with
  | nil =>
    cases before' with
    | nil => simp
    | cons c rest =>
      have apart : delimiter ≠ c := fun same => first' (same ▸ List.mem_cons_self)
      simp [apart]
  | cons c rest ih =>
    cases before' with
    | nil =>
      have apart : c ≠ delimiter := fun same => first (same ▸ List.mem_cons_self)
      simp [apart]
    | cons c' rest' =>
      rw [List.mem_cons, not_or] at first first'
      rw [List.cons_append, List.cons_append, List.cons.injEq, List.cons.injEq,
        ih first.2 first'.2, and_assoc]

/-- The front of a user's keys. -/
theorem stateKey_front (userId : UserId) :
    (stateKey userId "").toList = "screensync:state:".toList ++ userId.toList ++ [':'] := by
  have front : stateKey userId "" = "screensync:state:" ++ userId ++ ":" := String.append_empty
  rw [front, String.toList_append, String.toList_append]
  rfl

theorem stateKey_split (userId : UserId) (deviceId : DeviceId) :
    (stateKey userId deviceId).toList =
      "screensync:state:".toList ++ (userId.toList ++ ':' :: deviceId.toList) := by
  rw [stateKey_toList, stateKey_front, List.append_assoc, List.append_assoc]
  rfl

/-- **A key names one user**, whatever the device. -/
theorem stateKey_prefix_iff {userId other : UserId} (plain : PlainId userId)
    (plain' : PlainId other) (deviceId : DeviceId) :
    (stateKey userId "").toList <+: (stateKey other deviceId).toList ↔ other = userId := by
  constructor
  · rintro ⟨rest, same⟩
    rw [stateKey_front, stateKey_split, List.append_assoc, List.append_assoc,
      List.append_cancel_left_eq] at same
    have names := ((delimited_inj plain.no_colon plain'.no_colon).mp same).1
    exact String.toList_inj.mp names.symm
  · rintro rfl
    exact stateKey_starts other deviceId

/-- **A key names one device.** -/
theorem stateKey_inj {userId other : UserId} (plain : PlainId userId) (plain' : PlainId other)
    {deviceId otherDevice : DeviceId} :
    stateKey other otherDevice = stateKey userId deviceId ↔
      other = userId ∧ otherDevice = deviceId := by
  constructor
  · intro same
    have texts := congrArg String.toList same
    rw [stateKey_split, stateKey_split, List.append_cancel_left_eq] at texts
    obtain ⟨users, devices⟩ := (delimited_inj plain'.no_colon plain.no_colon).mp texts
    exact ⟨String.toList_inj.mp users, String.toList_inj.mp devices⟩
  · rintro ⟨rfl, rfl⟩
    rfl

/-- **The glob of a user** matches the keys of that user, and of no other. -/
theorem accepts_stateKey (globs : Globbing) {userId : UserId} (plain : PlainId userId)
    (key : String) :
    globs.accepts (stateKey userId "*").toList key.toList = true ↔
      (stateKey userId "").toList <+: key.toList := by
  have stem : ∀ c ∈ (stateKey userId "").toList, c ∉ globSpecials := by
    rw [stateKey_front]
    intro c member
    rcases List.mem_append.mp member with front | colon
    · rcases List.mem_append.mp front with fixed | letter
      · have all : ∀ c ∈ "screensync:state:".toList, c ∉ globSpecials := by simp [globSpecials]
        exact all c fixed
      · exact (plain c letter).2
    · rw [List.mem_singleton.mp colon]
      decide
  have star : (stateKey userId "*").toList = (stateKey userId "").toList ++ ['*'] := by
    rw [stateKey_toList]
    rfl
  rw [star]
  exact globs.accepts_stem stem key.toList

/-! ### Texts under keys -/

/-- A call of `_write_snapshot`. -/
structure SnapshotWrite where
  userId : UserId
  deviceId : DeviceId
  state : Dict Json

def SnapshotWrite.key (write : SnapshotWrite) : String := stateKey write.userId write.deviceId

/-- The ids are plain, and the state is a JSON object. -/
structure SnapshotWrite.Plain (write : SnapshotWrite) : Prop where
  user : PlainId write.userId
  device : PlainId write.deviceId
  proper : Proper (.obj write.state)

variable (floats : FloatText) (globs : Globbing)

def SnapshotWrite.text (write : SnapshotWrite) : String := dumps floats (.obj write.state)

/-- `_write_snapshot`. -/
def writeText (redis : Dict String) (write : SnapshotWrite) : Dict String :=
  redis.set write.key (write.text floats)

/-- A reply to `KEYS`: the keys that match, in any order. -/
def KeysReply (pattern : String) (redis : Dict String) (keys : List String) : Prop :=
  keys.Perm ((redis.map Prod.fst).filter fun key => globs.accepts pattern.toList key.toList)

/-- One turn of the loop of `get_family_snapshot`; `none` where `json.loads` raises. -/
def readKey (redis : Dict String) (result : Dict Json) (key : String) : Option (Dict Json) :=
  match redis.get key with
  | none => some result
  | some raw =>
    if raw = "" then some result
    else (loads floats raw).map fun state => result.set (lastPart key) state

/-- `get_family_snapshot`, once `KEYS` has replied. -/
def readFamily (redis : Dict String) (keys : List String) : Option (Dict Json) :=
  keys.foldlM (readKey floats redis) []

/-- The family snapshot of a user shows these states, however the keys are ordered. -/
def ShowsFamily (redis : Dict String) (userId : UserId)
    (states : DeviceId → Option (Dict Json)) : Prop :=
  ∀ keys, KeysReply globs (stateKey userId "*") redis keys →
    ∃ family, readFamily floats redis keys = some family ∧ (family.map Prod.fst).Nodup ∧
      ∀ deviceId, family.get deviceId = (states deviceId).map .obj

/-- The last state written for a device. -/
def lastState (writes : List SnapshotWrite) (deviceId : DeviceId) : Option (Dict Json) :=
  ((writes.filter fun write => write.deviceId = deviceId).getLast?).map (·.state)

/-- The writes under a user. -/
def writtenUnder (userId : UserId) (writes : List SnapshotWrite) : List SnapshotWrite :=
  writes.filter fun write => write.userId = userId

/-! ### Reading -/

theorem dumps_ne_empty (value : Json) : dumps floats value ≠ "" := by
  obtain ⟨c, text, starts, -⟩ := dumpsValue_starts floats value
  intro empty
  have letters := congrArg String.toList empty
  rw [dumps, String.toList_ofList, starts] at letters
  cases letters

variable {floats globs} {redis : Dict String} {userId : UserId}

theorem readKey_dumps {key : String} {state : Dict Json} (proper : Proper (.obj state))
    (stored : redis.get key = some (dumps floats (.obj state))) (result : Dict Json) :
    readKey floats redis result key = some (result.set (lastPart key) (.obj state)) := by
  unfold readKey
  rw [stored]
  show (if dumps floats (.obj state) = "" then some result else _) = _
  rw [if_neg (dumps_ne_empty floats _), loads_dumps proper]
  rfl

/-- The value read under a key. -/
def shownUnder (floats : FloatText) (redis : Dict String) (key : String) : Json :=
  ((redis.get key).bind (loads floats)).getD .null

/-- The loop collects what is read under each key, if each can be read. -/
theorem readFamily_grouped {keys : List String}
    (readable : ∀ key ∈ keys, ∃ state, Proper (.obj state) ∧
      redis.get key = some (dumps floats (.obj state))) :
    readFamily floats redis keys =
      some (grouped lastPart .null (fun _ key => shownUnder floats redis key) keys) := by
  have turns : ∀ result, keys.foldlM (readKey floats redis) result = some (keys.foldl
      (fun result key => result.set (lastPart key) (shownUnder floats redis key)) result) := by
    induction keys with
    | nil => exact fun result => rfl
    | cons key keys ih =>
      intro result
      obtain ⟨state, proper, stored⟩ := readable key List.mem_cons_self
      have shown : shownUnder floats redis key = .obj state := by
        rw [shownUnder, stored, Option.bind_some, loads_dumps proper]
        rfl
      rw [List.foldlM_cons, readKey_dumps proper stored, List.foldl_cons, shown]
      exact ih (fun other later => readable other (List.mem_cons_of_mem _ later)) _
  exact turns []

/-- The keys are distinct, and each is the key of a plain write and holds its text. -/
structure Filled (floats : FloatText) (redis : Dict String) : Prop where
  distinct : (redis.map Prod.fst).Nodup
  written : ∀ entry ∈ redis,
    ∃ write : SnapshotWrite, write.Plain ∧ entry = (write.key, write.text floats)

theorem writeText_filled {write : SnapshotWrite} (plain : write.Plain)
    (filled : Filled floats redis) : Filled floats (writeText floats redis write) where
  distinct := Dict.nodup_set filled.distinct _ _
  written entry member := by
    rcases Dict.mem_set member with rfl | there
    · exact ⟨write, plain, rfl⟩
    · exact filled.written entry there

/-- A key that matches the glob of a user is one of the user's. -/
theorem KeysReply.own (plain : PlainId userId) (filled : Filled floats redis) {keys : List String}
    (reply : KeysReply globs (stateKey userId "*") redis keys) {key : String}
    (listed : key ∈ keys) :
    ∃ deviceId state, PlainId deviceId ∧ Proper (.obj state) ∧ key = stateKey userId deviceId ∧
      redis.get key = some (dumps floats (.obj state)) := by
  obtain ⟨stored, matched⟩ := List.mem_filter.mp (reply.mem_iff.mp listed)
  obtain ⟨entry, member, rfl⟩ := List.mem_map.mp stored
  obtain ⟨write, ok, rfl⟩ := filled.written entry member
  have own : write.userId = userId := (stateKey_prefix_iff plain ok.user write.deviceId).mp
    ((accepts_stateKey globs plain write.key).mp matched)
  exact ⟨write.deviceId, write.state, ok.device, ok.proper, own ▸ rfl,
    Dict.get_of_mem filled.distinct member⟩

/-- The key of a device is listed if it is stored. -/
theorem KeysReply.lists (plain : PlainId userId) {keys : List String}
    (reply : KeysReply globs (stateKey userId "*") redis keys) (deviceId : DeviceId) :
    stateKey userId deviceId ∈ keys ↔ stateKey userId deviceId ∈ redis.map Prod.fst := by
  rw [reply.mem_iff, List.mem_filter]
  exact and_iff_left ((accepts_stateKey globs plain _).mpr (stateKey_starts userId deviceId))

/-- **What is read for a device** is what is stored under its key. -/
theorem readFamily_get (plain : PlainId userId) (filled : Filled floats redis) {keys : List String}
    (reply : KeysReply globs (stateKey userId "*") redis keys) :
    ∃ family, readFamily floats redis keys = some family ∧ (family.map Prod.fst).Nodup ∧
      ∀ deviceId,
        family.get deviceId = (redis.get (stateKey userId deviceId)).bind (loads floats) := by
  have readable : ∀ key ∈ keys, ∃ state, Proper (.obj state) ∧
      redis.get key = some (dumps floats (.obj state)) := by
    intro key listed
    obtain ⟨_, state, -, proper, -, stored⟩ := reply.own plain filled listed
    exact ⟨state, proper, stored⟩
  refine ⟨_, readFamily_grouped readable, nodup_grouped _ _ _ _, fun deviceId => ?_⟩
  rw [get_grouped_last]
  -- the keys that end in the device's id are the key of the device, if it is there
  have only : ∀ key ∈ ofKey lastPart keys deviceId, key = stateKey userId deviceId := by
    intro key member
    obtain ⟨listed, ends⟩ := List.mem_filter.mp member
    obtain ⟨own, _, plainOwn, -, rfl, -⟩ := reply.own plain filled listed
    have same : lastPart (stateKey userId own) = deviceId := of_decide_eq_true ends
    rw [← same, lastPart_stateKey userId plainOwn.no_colon]
  cases last : (ofKey lastPart keys deviceId).getLast? with
  | some key =>
    have member := List.mem_of_getLast? last
    obtain rfl := only key member
    obtain ⟨state, proper, stored⟩ := readable _ (List.mem_of_mem_filter member)
    rw [Option.map_some, shownUnder, stored, Option.bind_some, loads_dumps proper]
    rfl
  | none =>
    have absent : redis.get (stateKey userId deviceId) = none := by
      by_contra found
      obtain ⟨raw, stored⟩ := Option.ne_none_iff_exists'.mp found
      have listed := (reply.lists plain deviceId).mpr
        (List.mem_map_of_mem (Dict.mem_of_get stored))
      obtain ⟨own, _, plainOwn, -, same, -⟩ := reply.own plain filled listed
      have named : lastPart (stateKey userId deviceId) = deviceId := by
        obtain ⟨-, rfl⟩ := (stateKey_inj plain plain).mp same
        exact lastPart_stateKey userId plainOwn.no_colon
      have member : stateKey userId deviceId ∈ ofKey lastPart keys deviceId :=
        List.mem_filter.mpr ⟨listed, decide_eq_true named⟩
      rw [List.getLast?_eq_none_iff.mp last] at member
      exact List.not_mem_nil member
    rw [absent]
    rfl

/-! ### Runs of writes -/

/-- The writes are a loop that keeps the last text of each key. -/
theorem run_writeText (floats : FloatText) (writes : List SnapshotWrite) :
    run (writeText floats) [] writes =
      grouped SnapshotWrite.key "" (fun _ write => write.text floats) writes := rfl

theorem run_filled {writes : List SnapshotWrite} (plain : ∀ write ∈ writes, write.Plain) :
    Filled floats (run (writeText floats) [] writes) := by
  induction writes using List.reverseRecOn with
  | nil => exact ⟨List.nodup_nil, fun entry member => absurd member List.not_mem_nil⟩
  | append_singleton writes write ih =>
    obtain ⟨earlier, last⟩ := List.forall_mem_append.mp plain
    rw [run_concat]
    exact writeText_filled (last write (List.mem_singleton_self write)) (ih earlier)

/-- The writes under the key of a device are its own writes under its user. -/
theorem ofKey_stateKey (plain : PlainId userId) {writes : List SnapshotWrite}
    (plains : ∀ write ∈ writes, write.Plain) (deviceId : DeviceId) :
    ofKey SnapshotWrite.key writes (stateKey userId deviceId) =
      (writtenUnder userId writes).filter fun write => write.deviceId = deviceId := by
  rw [writtenUnder, List.filter_filter]
  refine List.filter_congr fun write member => ?_
  rw [← Bool.decide_and]
  exact decide_eq_decide.mpr
    ((stateKey_inj plain (plains write member).user).trans and_comm)

/-- **Family snapshots are exact and private**: after any writes, the snapshot of a user shows for
each device the last state written for it under that user. Only the writes under the user enter. -/
theorem family_shows_own_writes (floats : FloatText) (globs : Globbing) (userId : UserId)
    (plain : PlainId userId) (writes : List SnapshotWrite)
    (plains : ∀ write ∈ writes, write.Plain) :
    ShowsFamily floats globs (run (writeText floats) [] writes) userId
      (lastState (writtenUnder userId writes)) := by
  intro keys reply
  obtain ⟨family, read, distinct, shown⟩ := readFamily_get plain (run_filled plains) reply
  refine ⟨family, read, distinct, fun deviceId => ?_⟩
  rw [shown, run_writeText, get_grouped_last, ofKey_stateKey plain plains, lastState]
  cases last : ((writtenUnder userId writes).filter fun write =>
      write.deviceId = deviceId).getLast? with
  | none => rfl
  | some write =>
    have member : write ∈ writes := List.mem_of_mem_filter
      (List.mem_of_mem_filter (List.mem_of_getLast? last))
    exact loads_dumps (plains write member).proper

/-- Two users of whom one's id starts with the other's, a device each, and a second write. -/
def familyWrites : List SnapshotWrite :=
  [⟨"fam", "tablet", [("volume", .int 3)]⟩, ⟨"family", "phone", []⟩,
    ⟨"fam", "tablet", [("volume", .int 4)]⟩]

theorem plainId_fam : PlainId "fam" := by simp [PlainId, globSpecials]

theorem familyWrites_plain : ∀ write ∈ familyWrites, write.Plain := by
  have tablet : PlainId "tablet" := by simp [PlainId, globSpecials]
  have phone : PlainId "phone" := by simp [PlainId, globSpecials]
  have family : PlainId "family" := by simp [PlainId, globSpecials]
  have proper : ∀ level : Int, Proper (.obj [("volume", .int level)]) := by
    simp [Proper, ProperEntries]
  unfold familyWrites
  simp only [List.forall_mem_cons]
  exact ⟨⟨plainId_fam, tablet, proper _⟩, ⟨family, phone, ⟨List.nodup_nil, trivial⟩⟩,
    ⟨plainId_fam, tablet, proper _⟩, by simp⟩

theorem family_shows_own_writes_fam :
    ShowsFamily .fraction .full (run (writeText .fraction) [] familyWrites) "fam"
      (lastState (writtenUnder "fam" familyWrites)) :=
  family_shows_own_writes .fraction .full "fam" plainId_fam familyWrites familyWrites_plain

example : lastState (writtenUnder "fam" familyWrites) "tablet" = some [("volume", .int 4)] ∧
    lastState (writtenUnder "fam" familyWrites) "phone" = none := ⟨rfl, rfl⟩

/-! ### Snapshots as objects -/

/-- The texts of the stored snapshots. -/
def textsOf (floats : FloatText) (state : SyncState) : Dict String :=
  state.snapshots.map fun entry => (entry.1, dumps floats (.obj entry.2))

/-- A write of the object is a write of its text. -/
theorem textsOf_writeSnapshot (state : SyncState) (write : SnapshotWrite) :
    textsOf floats (writeSnapshot state write.userId write.deviceId write.state) =
      writeText floats (textsOf floats state) write := by
  show (Dict.set state.snapshots write.key write.state).map _ =
    Dict.set (state.snapshots.map _) write.key (write.text floats)
  induction state.snapshots with
  | nil => rfl
  | cons entry rest ih =>
    obtain ⟨name, old⟩ := entry
    rw [List.map_cons, Dict.set, Dict.set]
    split
    · rfl
    · rw [List.map_cons, ih]

/-- **The snapshot of the objects** is what is read back from their texts, in their order. -/
theorem readFamily_textsOf (globs : Globbing) {state : SyncState} (plain : PlainId userId)
    (distinct : (state.snapshots.map Prod.fst).Nodup)
    (proper : ∀ entry ∈ state.snapshots, Proper (.obj entry.2)) :
    readFamily floats (textsOf floats state)
        (((textsOf floats state).map Prod.fst).filter fun key =>
          globs.accepts (stateKey userId "*").toList key.toList) =
      some (getFamilySnapshot state userId) := by
  have keys : (textsOf floats state).map Prod.fst = state.snapshots.map Prod.fst := by
    rw [textsOf, List.map_map]
    rfl
  have stored : ∀ entry ∈ state.snapshots,
      (textsOf floats state).get entry.1 = some (dumps floats (.obj entry.2)) := by
    intro entry member
    have looked := Dict.get_map state.snapshots (fun snapshot => dumps floats (.obj snapshot))
      entry.1
    rw [Dict.get_of_mem distinct member] at looked
    exact looked
  rw [keys]
  have readable : ∀ key ∈ (state.snapshots.map Prod.fst).filter fun key =>
      globs.accepts (stateKey userId "*").toList key.toList,
      ∃ snapshot, Proper (.obj snapshot) ∧
        (textsOf floats state).get key = some (dumps floats (.obj snapshot)) := by
    intro key listed
    obtain ⟨entry, member, rfl⟩ := List.mem_map.mp (List.mem_of_mem_filter listed)
    exact ⟨entry.2, proper entry member, stored entry member⟩
  rw [readFamily_grouped readable, getFamilySnapshot, grouped, List.filter_map, List.foldl_map]
  have matched : state.snapshots.filter ((fun key : String =>
      globs.accepts (stateKey userId "*").toList key.toList) ∘ Prod.fst) =
      state.snapshots.filter fun entry =>
        (stateKey userId "").toList.isPrefixOf entry.1.toList := by
    refine List.filter_congr fun entry _ => Bool.eq_iff_iff.mpr ?_
    exact (accepts_stateKey globs plain entry.1).trans List.isPrefixOf_iff_prefix.symm
  rw [matched]
  refine congrArg some (List.foldl_ext _ _ _ fun family entry member => ?_)
  have shown : shownUnder floats (textsOf floats state) entry.1 = .obj entry.2 := by
    have there := List.mem_of_mem_filter member
    rw [shownUnder, stored entry there, Option.bind_some, loads_dumps (proper entry there)]
    rfl
  rw [accumulate, shown]

end ScreenSync.Sync
