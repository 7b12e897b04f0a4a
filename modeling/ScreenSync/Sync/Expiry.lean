/-
**Snapshots, with their lifetime.**

`_write_snapshot` gives a snapshot 24 hours. An event for a device whose snapshot is gone is taken
without a look at what was there. The calls are served one after another; a call reads the snapshot
at one time and writes it at another.

* `serveIngestAt` — `ingest_event` by the clock; what it sends is left out.
* `getFamilySnapshot_get` — the family snapshot shows, for each device, what is stored for it.
* `expiring_snapshots` — at any time after any run, a device's snapshot is that of a register that
  was offered the surviving events alone: back from now, as long as each snapshot was still there
  when the next event came.
* `snapshot_of_fresh` — a device that reports in time is never forgotten.
-/

import ScreenSync.Foundation.Expiry
import ScreenSync.Sync.LastWrite
import ScreenSync.Sync.Snapshots

namespace ScreenSync.Sync

open ScreenSync.Foundation ScreenSync.Shared

/-! ### By the clock -/

def snapshotTtlSecs : Nat := 86400

/-- The lifetime of a snapshot on Redis's clock, in milliseconds. -/
def snapshotTtl : Nat := snapshotTtlSecs * 1000

/-- The snapshots with their deadlines, and the audit stream. -/
structure TimedSync where
  snapshots : Dict (Expiring (Dict Json))
  audit : List ConflictRecord

def TimedSync.empty : TimedSync := ⟨[], []⟩

/-- What is there at a time. -/
def TimedSync.at (state : TimedSync) (now : Nat) : SyncState where
  snapshots := state.snapshots.filterMap fun entry => (seen now (some entry.2)).map (entry.1, ·)
  audit := state.audit

/-- A call of `ingest_event`, and when Redis serves its `GET` and its `SET`. -/
structure TimedIngest where
  call : IngestCall
  readAt : Nat
  writeAt : Nat

def TimedIngest.key (op : TimedIngest) : String :=
  stateKey op.call.event.userId op.call.event.deviceId

/-- `ingest_event`, by the clock. -/
def serveIngestAt (iso : IsoReader) (state : TimedSync) (op : TimedIngest) : TimedSync :=
  match ingestEvent iso (state.at op.readAt) op.call with
  | .ok (_, next) =>
    if op.call.acquired then
      { snapshots :=
          match next.snapshots.get op.key with
          | some snapshot => state.snapshots.set op.key ⟨snapshot, op.writeAt + snapshotTtl⟩
          | none => state.snapshots
        audit := next.audit }
    else state
  | .error _ => state

/-- The calls that write the snapshot of a device. -/
def writersOf (userId : UserId) (deviceId : DeviceId) (ops : List TimedIngest) :
    List TimedIngest :=
  ops.filter fun op => op.call.acquired ∧ op.key = stateKey userId deviceId

def TimedIngest.rewrite (op : TimedIngest) : Rewrite IngestCall where
  addition := op.call
  readAt := op.readAt
  writeAt := op.writeAt
  reads := true
  writes := true

/-- The calls for a device that are in its snapshot at a time, the earliest first. -/
def surviving (userId : UserId) (deviceId : DeviceId) (now : Nat) (ops : List TimedIngest) :
    List IngestCall :=
  (survivors snapshotTtl now
    ((writersOf userId deviceId ops).map TimedIngest.rewrite).reverse).reverse

/-! ### A register that is offered one call after another -/

/-- The register after an offer, which is never empty. -/
def offered (register : Option (Held IngestCall)) (call : IngestCall) : Held IngestCall :=
  (timing.offer register call).getD ⟨call, call⟩

theorem offer_eq (register : Option (Held IngestCall)) (call : IngestCall) :
    timing.offer register call = some (offered register call) := by
  cases register <;> rfl

theorem build_offered (calls : List IngestCall) :
    build offered calls = timing.after calls.reverse := by
  induction calls with
  | nil => rfl
  | cons call calls ih =>
    rw [build, ih, List.reverse_cons, Timing.after_concat, offer_eq]

/-! ### What is stored -/

variable {iso : IsoReader}

/-- **One call** on a snapshot that was written by a call, or on none. -/
theorem ingestEvent_held {state : SyncState} {call : IngestCall}
    {register : Option (Held IngestCall)} (acquired : call.acquired = true)
    (before : getDeviceSnapshot state call.event.userId call.event.deviceId =
      register.map heldSnapshot) :
    ∃ sent next, ingestEvent iso state call = .ok (sent, next) ∧
      getDeviceSnapshot next call.event.userId call.event.deviceId =
        some (heldSnapshot (offered register call)) := by
  have chosen : ∃ pick record, chooseWinner iso
      (getDeviceSnapshot state call.event.userId call.event.deviceId) call =
        .ok (pick, record) := by
    rw [before]
    cases register with
    | none => exact ⟨_, _, rfl⟩
    | some held =>
      obtain ⟨record, chosen⟩ := chooseWinner_stamped iso held.source.event.payload held.last call
      exact ⟨_, record, chosen⟩
  obtain ⟨pick, record, chosen⟩ := chosen
  obtain ⟨sent, next, served, -⟩ := ingestEvent_of_choice acquired chosen
  refine ⟨sent, next, served, ?_⟩
  have shows := (track_shows iso
    (⟨rfl, before⟩ : Shows _ _ (⟨state, register.map Held.source⟩ : Tracked) register)
    ⟨rfl, rfl, acquired⟩).snapshot
  have after : (track iso ⟨state, register.map Held.source⟩ call).state = next := by
    show serveIngest iso state call = next
    unfold serveIngest
    rw [served]
  rw [after, offer_eq] at shows
  exact shows

/-- The register of a device, with its deadline. -/
def registerOf (key : String) (ops : List TimedIngest) : Option (Expiring (Held IngestCall)) :=
  run (fun cell call => Rewrite.apply snapshotTtl offered cell call) none
    ((ops.filter fun op => op.call.acquired ∧ op.key = key).map TimedIngest.rewrite)

/-- The store shows the registers. -/
structure ShowsRegisters (ops : List TimedIngest) (state : TimedSync) : Prop where
  distinct : (state.snapshots.map Prod.fst).Nodup
  stored : ∀ key, state.snapshots.get key =
    (registerOf key ops).map (Expiring.map heldSnapshot)

theorem TimedSync.get_at {state : TimedSync} (distinct : (state.snapshots.map Prod.fst).Nodup)
    (now : Nat) (key : String) :
    (state.at now).snapshots.get key = seen now (state.snapshots.get key) := by
  refine (Dict.get_filterMap distinct (fun cell => seen now (some cell)) key).trans ?_
  cases state.snapshots.get key <;> rfl

theorem ShowsRegisters.get_at {ops : List TimedIngest} {state : TimedSync}
    (shows : ShowsRegisters ops state) (now : Nat) (key : String) :
    (state.at now).snapshots.get key = (seen now (registerOf key ops)).map heldSnapshot := by
  rw [TimedSync.get_at shows.distinct, shows.stored, seen_map]

theorem registerOf_concat (key : String) (ops : List TimedIngest) (op : TimedIngest) :
    registerOf key (ops ++ [op]) =
      if op.call.acquired ∧ op.key = key then
        Rewrite.apply snapshotTtl offered (registerOf key ops) op.rewrite
      else registerOf key ops := by
  unfold registerOf
  rw [List.filter_append, List.map_append]
  by_cases own : op.call.acquired ∧ op.key = key
  · rw [if_pos own, List.filter_singleton, decide_eq_true own, run_append]
    rfl
  · rw [if_neg own, List.filter_singleton, decide_eq_false own, run_append]
    rfl

/-- **One call keeps the store what the registers are.** -/
theorem ShowsRegisters.serve {ops : List TimedIngest} {state : TimedSync}
    (shows : ShowsRegisters ops state) (op : TimedIngest) :
    ShowsRegisters (ops ++ [op]) (serveIngestAt iso state op) := by
  by_cases acquired : op.call.acquired = true
  · have ingested : ∃ sent next, ingestEvent iso (state.at op.readAt) op.call = .ok (sent, next) ∧
        next.snapshots.get op.key =
          some (heldSnapshot (offered (seen op.readAt (registerOf op.key ops)) op.call)) :=
      ingestEvent_held acquired (shows.get_at op.readAt op.key)
    obtain ⟨sent, next, served, here⟩ := ingested
    unfold serveIngestAt
    simp only [served, if_pos acquired, here]
    refine ⟨Dict.nodup_set shows.distinct _ _, fun key => ?_⟩
    rw [Dict.get_set, registerOf_concat, shows.stored]
    by_cases own : key = op.key
    · subst own
      rw [if_pos rfl, if_pos ⟨acquired, rfl⟩]
      rfl
    · rw [if_neg own, if_neg fun both => own both.2.symm]
  · have untouched : serveIngestAt iso state op = state := by
      unfold serveIngestAt ingestEvent
      rw [if_neg acquired]
      exact if_neg acquired
    rw [untouched]
    refine ⟨shows.distinct, fun key => ?_⟩
    rw [registerOf_concat, if_neg fun both => acquired both.1]
    exact shows.stored key

theorem showsRegisters_run (iso : IsoReader) (ops : List TimedIngest) :
    ShowsRegisters ops (run (serveIngestAt iso) .empty ops) := by
  induction ops using List.reverseRecOn with
  | nil => exact ⟨List.nodup_nil, fun _ => rfl⟩
  | append_singleton before op ih =>
    rw [run_concat]
    exact ih.serve op

/-- **What a register shows at a time** is made of the surviving calls. -/
theorem seen_registerOf (userId : UserId) (deviceId : DeviceId) (now : Nat)
    (ops : List TimedIngest) :
    seen now (registerOf (stateKey userId deviceId) ops) =
      timing.after (surviving userId deviceId now ops) := by
  unfold surviving
  rw [← build_offered]
  exact seen_run snapshotTtl offered _ now

/-! ### The family snapshot -/

/-- The entry of a key, in a dictionary of distinct keys. -/
theorem getLast_filter_key {α : Type*} {d : Dict α} (distinct : (d.map Prod.fst).Nodup)
    (key : String) :
    (d.filter fun entry => entry.1 = key).getLast? = (d.get key).map (key, ·) := by
  induction d with
  | nil => rfl
  | cons entry rest ih =>
    obtain ⟨name, value⟩ := entry
    rw [List.map_cons, List.nodup_cons] at distinct
    rw [Dict.get_cons]
    by_cases here : name = key
    · subst here
      have others : (rest.filter fun entry => entry.1 = name) = [] := by
        refine List.filter_eq_nil_iff.mpr fun entry member same => ?_
        exact distinct.1 (List.mem_map.mpr ⟨entry, member, of_decide_eq_true same⟩)
      rw [List.filter_cons, if_pos (decide_eq_true (show (name, value).1 = name from rfl)), others,
        if_pos rfl]
      rfl
    · rw [List.filter_cons_of_neg (by simpa using here), if_neg (Ne.symm here), ih distinct.2]

/-- Every snapshot is stored under the key of plain ids. -/
def PlainKeys (state : SyncState) : Prop :=
  ∀ entry ∈ state.snapshots, ∃ userId deviceId, PlainId userId ∧ PlainId deviceId ∧
    entry.1 = stateKey userId deviceId

/-- **The family snapshot** shows for each device what is stored for it. -/
theorem getFamilySnapshot_get {state : SyncState} {userId : UserId} (plain : PlainId userId)
    (distinct : (state.snapshots.map Prod.fst).Nodup) (keyed : PlainKeys state)
    (deviceId : DeviceId) :
    (getFamilySnapshot state userId).get deviceId =
      (getDeviceSnapshot state userId deviceId).map .obj := by
  have own : ((state.snapshots.filter fun entry =>
        (stateKey userId "").toList.isPrefixOf entry.1.toList).filter fun entry =>
          lastPart entry.1 = deviceId) =
      state.snapshots.filter fun entry => entry.1 = stateKey userId deviceId := by
    rw [List.filter_filter]
    refine List.filter_congr fun entry member => ?_
    obtain ⟨owner, device, plainOwner, plainDevice, same⟩ := keyed entry member
    rw [same, Bool.eq_iff_iff, Bool.and_eq_true, decide_eq_true_eq, decide_eq_true_eq,
      List.isPrefixOf_iff_prefix, stateKey_prefix_iff plain plainOwner,
      lastPart_stateKey _ plainDevice.no_colon, stateKey_inj plain plainOwner, and_comm]
  have grouping : getFamilySnapshot state userId =
      grouped (fun entry : String × Dict Json => lastPart entry.1) .null
        (fun _ entry => .obj entry.2) (state.snapshots.filter fun entry =>
          (stateKey userId "").toList.isPrefixOf entry.1.toList) := rfl
  rw [grouping, get_grouped_last]
  unfold ofKey
  rw [own, getLast_filter_key distinct, Option.map_map]
  rfl

theorem serveIngestAt_keys {state : TimedSync} {op : TimedIngest}
    {entry : String × Expiring (Dict Json)}
    (member : entry ∈ (serveIngestAt iso state op).snapshots) :
    entry ∈ state.snapshots ∨ entry.1 = op.key := by
  unfold serveIngestAt at member
  split at member
  · split at member
    · dsimp only at member
      split at member
      · exact (Dict.mem_set member).symm.imp_right fun new => congrArg Prod.fst new
      · exact .inl member
    · exact .inl member
  · exact .inl member

/-- The ids of a call are plain. -/
def TimedIngest.Plain (op : TimedIngest) : Prop :=
  PlainId op.call.event.userId ∧ PlainId op.call.event.deviceId

theorem plainKeys_run {ops : List TimedIngest} (plains : ∀ op ∈ ops, op.Plain) (now : Nat) :
    PlainKeys ((run (serveIngestAt iso) .empty ops).at now) := by
  have keyed : ∀ entry ∈ (run (serveIngestAt iso) .empty ops).snapshots,
      ∃ op ∈ ops, entry.1 = op.key := by
    induction ops using List.reverseRecOn with
    | nil => exact fun entry member => absurd member List.not_mem_nil
    | append_singleton before op ih =>
      intro entry member
      rw [run_concat] at member
      rcases serveIngestAt_keys member with old | new
      · obtain ⟨earlier, inside, same⟩ :=
          ih (fun other inside => plains other (List.mem_append_left _ inside)) entry old
        exact ⟨earlier, List.mem_append_left _ inside, same⟩
      · exact ⟨op, by simp, new⟩
  intro entry member
  obtain ⟨timed, inside, found⟩ := List.mem_filterMap.mp member
  obtain ⟨snapshot, -, rfl⟩ := Option.map_eq_some_iff.mp found
  obtain ⟨op, served, same⟩ := keyed timed inside
  exact ⟨_, _, (plains op served).1, (plains op served).2, same⟩

/-! ### Whole runs -/

/-- **Snapshots with a lifetime, over whole runs** of calls for any users and devices, served at any
times. What is stored for a device at a time is what a register holds that was offered the surviving
calls alone, and where the ids are plain the family snapshot shows just that for each device. -/
theorem expiring_snapshots (iso : IsoReader) (ops : List TimedIngest) (userId : UserId)
    (now : Nat) :
    (∀ deviceId,
      getDeviceSnapshot ((run (serveIngestAt iso) .empty ops).at now) userId deviceId =
        (timing.after (surviving userId deviceId now ops)).map heldSnapshot) ∧
      ((PlainId userId ∧ ∀ op ∈ ops, op.Plain) → ∀ deviceId,
        (getFamilySnapshot ((run (serveIngestAt iso) .empty ops).at now) userId).get deviceId =
          (timing.after (surviving userId deviceId now ops)).map fun held =>
            .obj (heldSnapshot held)) := by
  have shows := showsRegisters_run iso ops
  have stored : ∀ deviceId,
      getDeviceSnapshot ((run (serveIngestAt iso) .empty ops).at now) userId deviceId =
        (timing.after (surviving userId deviceId now ops)).map heldSnapshot := by
    intro deviceId
    rw [← seen_registerOf]
    exact shows.get_at now (stateKey userId deviceId)
  refine ⟨stored, ?_⟩
  rintro ⟨plain, plains⟩ deviceId
  have distinct : (((run (serveIngestAt iso) .empty ops).at now).snapshots.map Prod.fst).Nodup :=
    shows.distinct.sublist (Dict.keys_filterMap_sublist _ fun cell => seen now (some cell))
  rw [getFamilySnapshot_get plain distinct (plainKeys_run plains now), stored, Option.map_map]
  rfl

/-- **A device that reports in time is never forgotten**: its snapshot is that of all its calls. -/
theorem snapshot_of_fresh {userId : UserId} {deviceId : DeviceId} {now : Nat}
    {ops : List TimedIngest}
    (fresh : Fresh snapshotTtl now
      ((writersOf userId deviceId ops).map TimedIngest.rewrite).reverse) :
    surviving userId deviceId now ops = (writersOf userId deviceId ops).map TimedIngest.call := by
  unfold surviving
  rw [survivors_of_fresh _ fresh, List.map_reverse, List.reverse_reverse, List.map_map]
  rfl

/-! ### A day of silence -/

/-- A forced report, and a day later one that is older than the first one's stamp. -/
def dayApart : List TimedIngest :=
  [⟨report "rules" 10 20 true, 0, 0⟩, ⟨report "chat" 5 15 false, snapshotTtl, snapshotTtl⟩]

theorem dayApart_plain : ∀ op ∈ dayApart, op.Plain := by
  have family : PlainId "family" := by simp [PlainId, globSpecials]
  have tablet : PlainId "tablet" := by simp [PlainId, globSpecials]
  unfold dayApart
  simp only [List.forall_mem_cons]
  exact ⟨⟨family, tablet⟩, ⟨family, tablet⟩, fun _ none => absurd none List.not_mem_nil⟩

theorem expiring_snapshots_dayApart :
    (getFamilySnapshot ((run (serveIngestAt .strict) .empty dayApart).at snapshotTtl)
        "family").get "tablet" =
      (timing.after (surviving "family" "tablet" snapshotTtl dayApart)).map fun held =>
        .obj (heldSnapshot held) :=
  (expiring_snapshots .strict dayApart "family" snapshotTtl).2
    ⟨(dayApart_plain _ List.mem_cons_self).1, dayApart_plain⟩ "tablet"

-- The forced report is forgotten, and the older one is taken.
example : surviving "family" "tablet" snapshotTtl dayApart = [report "chat" 5 15 false] := rfl

end ScreenSync.Sync
