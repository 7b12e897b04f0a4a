/-
**`initialise_daily_budgets`, several calls at a time.**

Two usage events of a new day both find no budget, and both set out to create the rows of the
family. A call selects the devices that are online, looks each of them up, and commits the rows it
has not found. The unique constraint on device and date refuses such a commit as a whole. (A row
that is flushed before the commit meets the conflict earlier, but nobody sees it before the commit.)
Other calls commit their changes to rows in between.

* `call_fills` — every statement of a call is a step of a `Filling`.
* `Consistent` — the invariant that carries it.
* `alone_initialises` — a call that nobody interrupts does what `initialiseDailyBudgets` does.
* `initialise_race` — in every interleaving one call creates the rows of a family, every call that
  has ended leaves a row for each online device, and no row that was there is touched.
-/

import ScreenSync.Decision.Coherence
import ScreenSync.Decision.Initialisation
import ScreenSync.Foundation.Filling

namespace ScreenSync.Decision

open ScreenSync.Foundation ScreenSync.Shared

/-! ### The statements of the calls -/

/-- A call; `uuid` is the primary key it draws for the row of each device. -/
structure InitialiseCall where
  userId : UserId
  targetDate : Date
  uuid : DeviceId → String

/-- How far a call has come: `pending` are the devices for which it has added a row. -/
inductive InitialisePhase
  | ready
  | looking (todo pending : List Device)
  | returned (created : List CreatedBudget)
  | raised (error : PyError)

/-- What another call commits: a charge, a grant or a rebalance. -/
inductive RowCommit
  | add (increment : Increment) (key : BudgetKey)
  | rebalance (job : RebalanceJob)

def RowCommit.commit (write : RowCommit) (db : Database) : Database :=
  match write with
  | .add increment key => increment.commit key db
  | .rebalance job => job.commit db

/-- The database and the calls. -/
structure InitialiseRace (ι : Type) where
  db : Database
  phase : ι → InitialisePhase

/-- A call makes its next statement, or another call commits. -/
inductive RaceStep (ι : Type)
  | next (i : ι)
  | write (write : RowCommit)

/-- Before any of the calls has started. -/
def InitialiseRace.start {ι : Type} (db : Database) : InitialiseRace ι := ⟨db, fun _ => .ready⟩

/-- The commit of the rows that were added. -/
def commitPending (call : InitialiseCall) (pending : List Device) (db : Database) :
    Except PyError Database :=
  pending.foldlM (fun db device => db.insertBudget (initialBudget device call.targetDate call.uuid))
    db

/-- The next statement of a call. -/
def InitialisePhase.next (call : InitialiseCall) (db : Database) :
    InitialisePhase → InitialisePhase × Database
  | .ready => (.looking (onlineDevices db call.userId) [], db)
  | .looking (device :: todo) pending =>
    match db.budgets.find (device.id, call.targetDate) with
    | some _ => (.looking todo pending, db)
    | none => (.looking todo (pending ++ [device]), db)
  | .looking [] pending =>
    match commitPending call pending db with
    | .ok db => (.returned (pending.map createdBudget), db)
    | .error error => (.raised error, db)
  | .returned created => (.returned created, db)
  | .raised error => (.raised error, db)

section Race

variable {ι : Type} [DecidableEq ι] (calls : ι → InitialiseCall)

namespace InitialiseRace

/-- One step of the schedule. -/
def step (race : InitialiseRace ι) : RaceStep ι → InitialiseRace ι
  | .next i =>
    let (phase, db) := (race.phase i).next (calls i) race.db
    ⟨db, Function.update race.phase i phase⟩
  | .write write => { race with db := write.commit race.db }

/-- The call has returned or raised. -/
def Ended (race : InitialiseRace ι) (i : ι) : Prop :=
  (∃ created, race.phase i = .returned created) ∨ ∃ error, race.phase i = .raised error

end InitialiseRace

/-- The primary keys that the calls draw are new, and all different. -/
structure FreshDraws (db : Database) (calls : ι → InitialiseCall) : Prop where
  unused : ∀ i deviceId, (calls i).uuid deviceId ∉ db.budgets.rows.map Budget.id
  distinct : ∀ i j deviceId other, (calls i).uuid deviceId = (calls j).uuid other →
    i = j ∧ deviceId = other

/-! ### Filling in rows -/

/-- The key of a device's row for a call. -/
def keyFor (call : InitialiseCall) (device : Device) : BudgetKey := (device.id, call.targetDate)

/-- The rows that a call wants to be there. -/
def wantedKeys (db : Database) (calls : ι → InitialiseCall) (i : ι) : List BudgetKey :=
  (onlineDevices db (calls i).userId).map (keyFor (calls i))

/-- How far a call has come with its rows. -/
def InitialisePhase.stage (call : InitialiseCall) : InitialisePhase → FillingStage BudgetKey
  | .ready => .idle
  | .looking todo pending => .looking (todo.map (keyFor call)) (pending.map (keyFor call))
  | .returned created => .filled (created.map fun budget => (budget.deviceId, call.targetDate))
  | .raised _ => .refused

/-- The rows that are there, and how far the calls have come with theirs. -/
def InitialiseRace.filling (race : InitialiseRace ι) : Filling ι BudgetKey where
  there := {key | (race.db.budgets.find key).isSome}
  stage i := (race.phase i).stage (calls i)

variable {calls}

omit [DecidableEq ι] in
/-- Calls that want a row in common are for one family, since a device belongs to one, and for one
date. -/
theorem sameFamily {db : Database} {i j : ι} {key : BudgetKey} (first : key ∈ wantedKeys db calls i)
    (second : key ∈ wantedKeys db calls j) :
    (calls i).userId = (calls j).userId ∧ (calls i).targetDate = (calls j).targetDate := by
  obtain ⟨device, inFirst, rfl⟩ := List.mem_map.mp first
  obtain ⟨device', inSecond, same⟩ := List.mem_map.mp second
  obtain ⟨ids, dates⟩ := Prod.mk.inj same
  obtain ⟨listed, owned⟩ := List.mem_filter.mp inFirst
  obtain ⟨listed', owned'⟩ := List.mem_filter.mp inSecond
  obtain rfl := db.devices.eq_of_key_eq listed' listed ids
  exact ⟨(of_decide_eq_true owned).1.symm.trans (of_decide_eq_true owned').1, dates.symm⟩

omit [DecidableEq ι] in
theorem wantedKeys_grouped (db : Database) (calls : ι → InitialiseCall) :
    Filling.Grouped (wantedKeys db calls) := by
  intro i j key first second other member
  obtain ⟨users, days⟩ := sameFamily first second
  unfold wantedKeys keyFor at member ⊢
  rw [← users, ← days]
  exact member

/-! ### The commit -/

/-- The insert of a first row, which is missing: the rows that come later are missing as before, and
their keys unused. -/
theorem insertPending {call : InitialiseCall} {device : Device} {later : List Device}
    {db : Database} (apart : ((device :: later).map Device.id).Nodup)
    (distinct : Function.Injective call.uuid)
    (unused : ∀ other ∈ device :: later, call.uuid other.id ∉ db.budgets.rows.map Budget.id)
    (free : db.budgets.find (keyFor call device) = none) :
    ∃ next, db.insertBudget (initialBudget device call.targetDate call.uuid) = .ok next ∧
      next.devices = db.devices ∧
      next.budgets.rows = db.budgets.rows ++ [initialBudget device call.targetDate call.uuid] ∧
      (∀ other ∈ later, call.uuid other.id ∉ next.budgets.rows.map Budget.id) ∧
      ∀ other ∈ later,
        next.budgets.find (keyFor call other) = db.budgets.find (keyFor call other) := by
  obtain ⟨own, -⟩ := List.nodup_cons.mp apart
  obtain ⟨ownUnused, laterUnused⟩ := List.forall_mem_cons.mp unused
  have apartFrom : ∀ other ∈ later, device.id ≠ other.id := fun other inside same =>
    own (same ▸ List.mem_map_of_mem inside)
  obtain ⟨next, inserted, devices, rows, finds⟩ :=
    @insertBudget_fresh db (initialBudget device call.targetDate call.uuid) free ownUnused
  refine ⟨next, inserted, devices, rows, fun other inside => ?_, fun other inside => ?_⟩
  · rw [rows, List.map_append, List.mem_append, not_or]
    refine ⟨laterUnused other inside, fun taken => apartFrom other inside ?_⟩
    exact (distinct (List.mem_singleton.mp taken)).symm
  · have differ : (initialBudget device call.targetDate call.uuid).key ≠ keyFor call other :=
      fun same => apartFrom other inside (Prod.mk.inj same).1
    rw [finds, if_neg differ]

/-- A commit that is accepted appends the rows, and one that is not raises `IntegrityError`. -/
theorem commitPending_outcome (call : InitialiseCall) (pending : List Device) (db : Database) :
    commitPending call pending db = .error .integrityError ∨
      ∃ next, commitPending call pending db = .ok next ∧ next.devices = db.devices ∧
        next.budgets.rows = db.budgets.rows ++
          pending.map fun device => initialBudget device call.targetDate call.uuid := by
  induction pending generalizing db with
  | nil => exact .inr ⟨db, rfl, rfl, (List.append_nil _).symm⟩
  | cons device later ih =>
    unfold commitPending
    rw [List.foldlM_cons]
    cases inserted : db.insertBudget (initialBudget device call.targetDate call.uuid) with
    | error raised =>
      unfold Database.insertBudget at inserted
      split at inserted
      · cases inserted
      · cases inserted
        exact .inl rfl
    | ok first =>
      obtain ⟨-, devices, rows⟩ := Database.insertBudget_ok inserted
      refine (ih first).imp_right ?_
      rintro ⟨next, committed, kept, appended⟩
      refine ⟨next, committed, kept.trans devices, ?_⟩
      rw [appended, rows, List.append_assoc]
      rfl

/-- **The commit of missing rows** appends them. -/
theorem commitPending_ok {call : InitialiseCall} {pending : List Device} {db : Database}
    (apart : (pending.map Device.id).Nodup) (distinct : Function.Injective call.uuid)
    (unused : ∀ device ∈ pending, call.uuid device.id ∉ db.budgets.rows.map Budget.id)
    (free : ∀ device ∈ pending, db.budgets.find (keyFor call device) = none) :
    ∃ next, commitPending call pending db = .ok next ∧ next.devices = db.devices ∧
      next.budgets.rows = db.budgets.rows ++
        pending.map fun device => initialBudget device call.targetDate call.uuid := by
  refine (commitPending_outcome call pending db).resolve_left ?_
  induction pending generalizing db with
  | nil => exact nofun
  | cons device later ih =>
    obtain ⟨ownFree, laterFree⟩ := List.forall_mem_cons.mp free
    obtain ⟨first, inserted, -, -, stillUnused, same⟩ :=
      insertPending apart distinct unused ownFree
    have stillFree : ∀ other ∈ later, first.budgets.find (keyFor call other) = none :=
      fun other inside => (same other inside).trans (laterFree other inside)
    unfold commitPending
    rw [List.foldlM_cons, inserted]
    exact ih (List.nodup_cons.mp apart).2 stillUnused stillFree

/-- **A row that is there by then** refuses it. -/
theorem commitPending_error {call : InitialiseCall} {pending : List Device} {db : Database}
    (apart : (pending.map Device.id).Nodup) (distinct : Function.Injective call.uuid)
    (unused : ∀ device ∈ pending, call.uuid device.id ∉ db.budgets.rows.map Budget.id)
    {device : Device} (member : device ∈ pending)
    (taken : db.budgets.find (keyFor call device) ≠ none) :
    commitPending call pending db = .error .integrityError := by
  induction pending generalizing db with
  | nil => exact absurd member List.not_mem_nil
  | cons first later ih =>
    unfold commitPending
    rw [List.foldlM_cons]
    by_cases free : db.budgets.find (keyFor call first) = none
    · obtain ⟨next, inserted, -, -, stillUnused, same⟩ :=
        insertPending apart distinct unused free
      have behind : device ∈ later := by
        refine (List.mem_cons.mp member).resolve_left ?_
        rintro rfl
        exact taken free
      rw [inserted]
      exact ih (List.nodup_cons.mp apart).2 stillUnused behind ((same device behind).symm ▸ taken)
    · have refused : db.insertBudget (initialBudget first call.targetDate call.uuid) =
          .error .integrityError := dif_neg fun fresh => free fresh.1
      rw [refused]
      rfl

/-! ### What another call commits -/

omit [DecidableEq ι] in
/-- **Another commit** rewrites rows, and leaves their keys and the devices. -/
theorem commit_rewrites (write : RowCommit) : ∃ f : Budget → Budget,
    (∀ b, (f b).id = b.id ∧ (f b).key = b.key) ∧
      ∀ db, (write.commit db).devices = db.devices ∧
        (write.commit db).budgets.rows = db.budgets.rows.map f ∧
        ∀ key, (write.commit db).budgets.find key = (db.budgets.find key).map f := by
  cases write with
  | add increment key =>
    refine ⟨fun b => if b.deviceId = key.1 ∧ b.date = key.2 then increment.values b else b,
      fun b => ?_, fun db => ⟨rfl, rfl, fun other =>
        db.updateBudgets_find _ increment.values increment.values_keeps other⟩⟩
    dsimp only
    split
    · exact increment.values_keeps b
    · exact ⟨rfl, rfl⟩
  | rebalance job =>
    exact ⟨rebalanced job.rows job.now,
      fun b => ⟨rebalanced_keeps Budget.id job.rows job.now b fun _ _ _ =>
        (rebalanceValues_keeps ..).1, rebalanced_key job.rows job.now b⟩,
      fun db => ⟨job.commit_devices db, job.commit_rows db, job.commit_find db⟩⟩

/-! ### The invariant -/

/-- The rows are filled in soundly, with keys that nobody else uses. -/
structure Consistent (start : Database) (calls : ι → InitialiseCall) (race : InitialiseRace ι) :
    Prop where
  devices : race.db.devices = start.devices
  sound : Filling.Sound (wantedKeys start calls) {key | (start.budgets.find key).isSome}
    (race.filling calls)
  unused : ∀ i, (∀ created, race.phase i ≠ .returned created) →
    ∀ deviceId, (calls i).uuid deviceId ∉ race.db.budgets.rows.map Budget.id
  apart : ∀ i todo pending, race.phase i = .looking todo pending →
    ((pending ++ todo).map Device.id).Nodup
  errors : ∀ i error, race.phase i = .raised error → error = .integrityError

/-- The rows and the calls after one call has moved on. -/
theorem filling_next (race : InitialiseRace ι) (i : ι) (phase : InitialisePhase) (db : Database) :
    (⟨db, Function.update race.phase i phase⟩ : InitialiseRace ι).filling calls =
      { (race.filling calls).advance i (phase.stage (calls i)) with
        there := {key | (db.budgets.find key).isSome} } := by
  unfold InitialiseRace.filling Filling.advance
  congr 1
  funext j
  exact Function.apply_update (fun j phase => InitialisePhase.stage (calls j) phase) race.phase i
    phase j

omit [DecidableEq ι] in
theorem find_isSome_iff {db : Database} {key : BudgetKey} :
    (db.budgets.find key).isSome ↔ key ∈ db.budgets.rows.map Budget.key := by
  rw [Option.isSome_iff_exists, List.mem_map]
  exact exists_congr fun row => Table.find_eq_some

theorem looking_ne_returned {todo pending : List Device} {created : List CreatedBudget} :
    InitialisePhase.looking todo pending ≠ .returned created := by
  intro same
  cases same

/-- **Every statement of a call** is a step of the filling. -/
theorem call_fills {start : Database} {race : InitialiseRace ι} (fresh : FreshDraws start calls)
    (consistent : Consistent start calls race) (i : ι) :
    Filling.Step (wantedKeys start calls) (race.filling calls)
      ((race.step calls (.next i)).filling calls) := by
  have distinct : Function.Injective (calls i).uuid :=
    fun _ _ same => (fresh.distinct i i _ _ same).2
  simp only [InitialiseRace.step]
  cases here : race.phase i with
  | ready =>
    have turn : (race.filling calls).stage i = .idle := by
      show (race.phase i).stage (calls i) = _
      rw [here]
      rfl
    have same : onlineDevices race.db (calls i).userId = onlineDevices start (calls i).userId := by
      unfold onlineDevices
      rw [consistent.devices]
    simp only [InitialisePhase.next, filling_next, same]
    exact .start i turn
  | looking todo pending =>
    have turn : (race.filling calls).stage i =
        .looking (todo.map (keyFor (calls i))) (pending.map (keyFor (calls i))) := by
      show (race.phase i).stage (calls i) = _
      rw [here]
      rfl
    cases todo with
    | cons device todo =>
      simp only [InitialisePhase.next]
      cases found : race.db.budgets.find (device.id, (calls i).targetDate) with
      | some row =>
        rw [filling_next]
        refine .found i turn ?_
        show (race.db.budgets.find (device.id, (calls i).targetDate)).isSome
        rw [found]
        rfl
      | none =>
        have absent : keyFor (calls i) device ∉ (race.filling calls).there := by
          show ¬ (race.db.budgets.find (device.id, (calls i).targetDate)).isSome
          rw [found]
          exact Bool.false_ne_true
        have step : Filling.Step (wantedKeys start calls) (race.filling calls)
            ((race.filling calls).advance i _) := .missed i turn absent
        simp only [filling_next, InitialisePhase.stage, List.map_append]
        exact step
    | nil =>
      have apart := consistent.apart i [] pending here
      rw [List.append_nil] at apart
      have unused := consistent.unused i (by rw [here]; exact fun _ => looking_ne_returned)
      simp only [InitialisePhase.next]
      by_cases free : ∀ device ∈ pending, race.db.budgets.find (keyFor (calls i) device) = none
      · obtain ⟨next, committed, -, rows⟩ :=
          commitPending_ok apart distinct (fun device _ => unused device.id) free
        have absent : ∀ key ∈ pending.map (keyFor (calls i)), key ∉ (race.filling calls).there := by
          intro key member there
          obtain ⟨device, inside, rfl⟩ := List.mem_map.mp member
          exact Option.isSome_iff_ne_none.mp there (free device inside)
        have step : Filling.Step (wantedKeys start calls) (race.filling calls)
            ((race.filling calls).fillIn i _) := .fill i turn absent
        have created : (pending.map createdBudget).map
            (fun budget => (budget.deviceId, (calls i).targetDate)) =
              pending.map (keyFor (calls i)) := by
          rw [List.map_map]
          rfl
        have there : {key | (next.budgets.find key).isSome} =
            (race.filling calls).there ∪ {key | key ∈ pending.map (keyFor (calls i))} := by
          ext key
          show (next.budgets.find key).isSome ↔ (race.db.budgets.find key).isSome ∨ _
          rw [find_isSome_iff, find_isSome_iff, rows, List.map_append, List.mem_append, List.map_map]
          rfl
        rw [committed]
        simp only [filling_next, InitialisePhase.stage, created, there]
        exact step
      · push Not at free
        obtain ⟨device, member, taken⟩ := free
        rw [commitPending_error apart distinct (fun device _ => unused device.id) member taken]
        simp only [filling_next]
        exact .refuse i turn (List.mem_map_of_mem member) (Option.isSome_iff_ne_none.mpr taken)
  | returned created =>
    simp only [InitialisePhase.next]
    rw [← here, Function.update_eq_self]
    exact .rest
  | raised error =>
    simp only [InitialisePhase.next]
    rw [← here, Function.update_eq_self]
    exact .rest

theorem onlineDevices_nodup (db : Database) (userId : UserId) :
    ((onlineDevices db userId).map Device.id).Nodup :=
  db.devices.unique.sublist (List.filter_sublist.map _)

/-- What a statement does to the database. -/
theorem next_writes (call : InitialiseCall) (phase : InitialisePhase) (db : Database) :
    ((phase.next call db).2 = db ∧
        ((∀ created, (phase.next call db).1 ≠ .returned created) →
          ∀ created, phase ≠ .returned created)) ∨
      (∃ created, (phase.next call db).1 = .returned created) ∧
        ∃ pending : List Device, (phase.next call db).2.devices = db.devices ∧
          (phase.next call db).2.budgets.rows = db.budgets.rows ++
            pending.map fun device => initialBudget device call.targetDate call.uuid := by
  cases phase with
  | ready => exact .inl ⟨rfl, fun _ _ => nofun⟩
  | raised error => exact .inl ⟨rfl, fun _ _ => nofun⟩
  | returned created => exact .inl ⟨rfl, id⟩
  | looking todo pending =>
    cases todo with
    | cons device todo =>
      refine .inl ⟨?_, fun _ _ => looking_ne_returned⟩
      simp only [InitialisePhase.next]
      split <;> rfl
    | nil =>
      simp only [InitialisePhase.next]
      rcases commitPending_outcome call pending db with refused | ⟨next, committed, appended⟩
      · rw [refused]
        exact .inl ⟨rfl, fun _ _ => looking_ne_returned⟩
      · rw [committed]
        exact .inr ⟨⟨_, rfl⟩, pending, appended⟩

/-- **A statement of a call** keeps the invariant. -/
theorem consistent_next {start : Database} {race : InitialiseRace ι}
    (fresh : FreshDraws start calls) (consistent : Consistent start calls race) (i : ι) :
    Consistent start calls (race.step calls (.next i)) where
  devices := by
    show ((race.phase i).next (calls i) race.db).2.devices = _
    rcases next_writes (calls i) (race.phase i) race.db with ⟨same, -⟩ | ⟨-, _, same, -⟩
    · rw [same]
      exact consistent.devices
    · exact same.trans consistent.devices
  sound := consistent.sound.step (wantedKeys_grouped start calls) (call_fills fresh consistent i)
  unused j unreturned deviceId := by
    show _ ∉ ((race.phase i).next (calls i) race.db).2.budgets.rows.map Budget.id
    replace unreturned : ∀ created, Function.update race.phase i
        ((race.phase i).next (calls i) race.db).1 j ≠ .returned created := unreturned
    rcases next_writes (calls i) (race.phase i) race.db with
      ⟨same, before⟩ | ⟨⟨created, returned⟩, pending, -, rows⟩
    · rw [same]
      refine consistent.unused j ?_ deviceId
      by_cases own : j = i
      · subst own
        rw [Function.update_self] at unreturned
        exact before unreturned
      · rw [Function.update_of_ne own] at unreturned
        exact unreturned
    · have other : j ≠ i := by
        rintro rfl
        rw [Function.update_self] at unreturned
        exact unreturned created returned
      rw [Function.update_of_ne other] at unreturned
      rw [rows, List.map_append, List.mem_append, not_or]
      refine ⟨consistent.unused j unreturned deviceId, fun taken => other ?_⟩
      obtain ⟨row, member, same⟩ := List.mem_map.mp taken
      obtain ⟨device, -, rfl⟩ := List.mem_map.mp member
      exact (fresh.distinct i j _ _ same).1.symm
  apart j todo pending here := by
    replace here : Function.update race.phase i
        ((race.phase i).next (calls i) race.db).1 j = .looking todo pending := here
    rw [Function.update_apply] at here
    split at here
    · cases phase : race.phase i with
      | ready =>
        rw [phase] at here
        cases here
        exact onlineDevices_nodup race.db _
      | returned created | raised error =>
        rw [phase] at here
        cases here
      | looking todo' pending' =>
        have apart := consistent.apart i todo' pending' phase
        rw [phase] at here
        cases todo' with
        | nil =>
          simp only [InitialisePhase.next] at here
          split at here <;> cases here
        | cons device todo' =>
          simp only [InitialisePhase.next] at here
          split at here
          · cases here
            exact apart.sublist ((List.sublist_cons_self ..).append_left _ |>.map _)
          · cases here
            rw [List.append_assoc]
            exact apart
    · exact consistent.apart j todo pending here
  errors j error here := by
    replace here : Function.update race.phase i
        ((race.phase i).next (calls i) race.db).1 j = .raised error := here
    rw [Function.update_apply] at here
    split at here
    · cases phase : race.phase i with
      | ready | returned created =>
        rw [phase] at here
        cases here
      | raised old =>
        rw [phase] at here
        cases here
        exact consistent.errors i error phase
      | looking todo pending =>
        rw [phase] at here
        cases todo with
        | cons device todo =>
          simp only [InitialisePhase.next] at here
          split at here <;> cases here
        | nil =>
          simp only [InitialisePhase.next] at here
          rcases commitPending_outcome (calls i) pending race.db with refused | ⟨next, committed, -⟩
          · rw [refused] at here
            cases here
            rfl
          · rw [committed] at here
            cases here
    · exact consistent.errors j error here

/-- **Another commit** keeps it. -/
theorem consistent_write {start : Database} {race : InitialiseRace ι}
    (consistent : Consistent start calls race) (write : RowCommit) :
    Consistent start calls (race.step calls (.write write)) := by
  obtain ⟨f, keeps, effect⟩ := commit_rewrites write
  obtain ⟨devices, rows, finds⟩ := effect race.db
  have filling : (race.step calls (.write write)).filling calls = race.filling calls := by
    unfold InitialiseRace.filling
    congr 1
    ext key
    show ((write.commit race.db).budgets.find key).isSome ↔ (race.db.budgets.find key).isSome
    rw [finds, Option.isSome_map]
  have ids : (write.commit race.db).budgets.rows.map Budget.id =
      race.db.budgets.rows.map Budget.id := by
    rw [rows, List.map_map]
    exact List.map_congr_left fun b _ => (keeps b).1
  exact
    { devices := devices.trans consistent.devices
      sound := filling ▸ consistent.sound
      unused := by
        intro i unreturned deviceId
        show _ ∉ (write.commit race.db).budgets.rows.map Budget.id
        rw [ids]
        exact consistent.unused i unreturned deviceId
      apart := consistent.apart
      errors := consistent.errors }

/-- **One step** keeps it. -/
theorem consistent_op {start : Database} {race : InitialiseRace ι}
    (fresh : FreshDraws start calls) (consistent : Consistent start calls race) (op : RaceStep ι) :
    Consistent start calls (race.step calls op) := by
  cases op with
  | next i => exact consistent_next fresh consistent i
  | write write => exact consistent_write consistent write

/-! ### Whole runs -/

/-- What calls leave behind that run at the same time: every online device of a call that has ended
has its row, a call raises only if another one has created rows of the family, and of the calls for
a family and a date one creates rows. -/
structure OneWinner (start : Database) (calls : ι → InitialiseCall) (race : InitialiseRace ι) :
    Prop where
  provided : ∀ i, race.Ended i → ∀ device ∈ onlineDevices start (calls i).userId,
    ∃ row, race.db.budgets.find (device.id, (calls i).targetDate) = some row
  refused : ∀ i error, race.phase i = .raised error → error = .integrityError ∧
    ∃ j created, j ≠ i ∧ (calls j).userId = (calls i).userId ∧
      (calls j).targetDate = (calls i).targetDate ∧ race.phase j = .returned created ∧ created ≠ []
  single : ∀ i j created others, race.phase i = .returned created →
    race.phase j = .returned others → created ≠ [] → others ≠ [] →
      (calls i).userId = (calls j).userId → (calls i).targetDate = (calls j).targetDate → i = j

omit [DecidableEq ι] in
theorem Consistent.oneWinner {start : Database} {race : InitialiseRace ι}
    (consistent : Consistent start calls race) : OneWinner start calls race where
  provided i ended device online := by
    have stages : (race.filling calls).stage i = .refused ∨
        ∃ created, (race.filling calls).stage i = .filled created := by
      rcases ended with ⟨created, returned⟩ | ⟨error, raised⟩
      · refine .inr ⟨created.map fun budget => (budget.deviceId, (calls i).targetDate), ?_⟩
        show (race.phase i).stage (calls i) = _
        rw [returned]
        rfl
      · refine .inl ?_
        show (race.phase i).stage (calls i) = _
        rw [raised]
        rfl
    have there := consistent.sound.complete (wantedKeys_grouped start calls) stages
      (keyFor (calls i) device) (List.mem_map_of_mem online)
    exact Option.isSome_iff_exists.mp there
  refused i error raised := by
    refine ⟨consistent.errors i error raised, ?_⟩
    have stage : (race.filling calls).stage i = .refused := by
      show (race.phase i).stage (calls i) = _
      rw [raised]
      rfl
    obtain ⟨j, keys, key, apart, filled, member, want⟩ := consistent.sound.refused_by stage
    have theirs := consistent.sound.stages j
    rw [filled] at theirs
    obtain ⟨users, days⟩ := sameFamily (theirs.2 key member).1 want
    replace filled : (race.phase j).stage (calls j) = .filled keys := filled
    cases returned : race.phase j with
    | ready | looking todo pending | raised error =>
      rw [returned] at filled
      cases filled
    | returned created =>
      rw [returned] at filled
      cases filled
      refine ⟨j, created, apart, users, days, returned, ?_⟩
      rintro rfl
      exact List.not_mem_nil member
  single i j created others first second some some' users days := by
    have stage : ∀ {k : ι} {budgets : List CreatedBudget}, race.phase k = .returned budgets →
        (race.filling calls).stage k =
          .filled (budgets.map fun budget => (budget.deviceId, (calls k).targetDate)) := by
      intro k budgets returned
      show (race.phase k).stage (calls k) = _
      rw [returned]
      rfl
    obtain ⟨budget, member⟩ := List.exists_mem_of_ne_nil created some
    have inside := List.mem_map_of_mem
      (f := fun budget : CreatedBudget => (budget.deviceId, (calls i).targetDate)) member
    have own := consistent.sound.stages i
    rw [stage first] at own
    have want := (own.2 _ inside).1
    unfold wantedKeys keyFor at want
    rw [users, days] at want
    refine consistent.sound.single i j _ _ _ (stage first) (stage second) inside ?_ ?_
    · rw [days]
      exact want
    · exact fun none => some' (List.map_eq_nil_iff.mp none)

/-- The run without the calls: only what others commit. -/
def onlyWrites (db : Database) : RaceStep ι → Database
  | .next _ => db
  | .write write => write.commit db

omit [DecidableEq ι] in
/-- **The invariant holds at the start.** -/
theorem consistent_start {start : Database} (fresh : FreshDraws start calls) :
    Consistent start calls (.start start) where
  devices := rfl
  sound := by
    have idle : ∀ i, ((InitialiseRace.start start).filling calls).stage i = .idle := fun _ => rfl
    exact Filling.sound_start idle
  unused i _ deviceId := fresh.unused i deviceId
  apart _ _ _ none := by cases none
  errors _ _ none := by cases none

/-- The rows that were there at the start are the same in both. -/
def SameRows (start : Database) (race : InitialiseRace ι) (db : Database) : Prop :=
  ∀ key, (start.budgets.find key).isSome →
    ∃ row, race.db.budgets.find key = some row ∧ db.budgets.find key = some row

/-- They stay so. -/
theorem sameRows_step {start : Database} {race : InitialiseRace ι} {db : Database}
    (same : SameRows start race db) (op : RaceStep ι) :
    SameRows start (race.step calls op) (onlyWrites db op) := by
  intro key there
  obtain ⟨row, found, found'⟩ := same key there
  cases op with
  | next i =>
    refine ⟨row, ?_, found'⟩
    show ((race.phase i).next (calls i) race.db).2.budgets.find key = _
    rcases next_writes (calls i) (race.phase i) race.db with ⟨unchanged, -⟩ | ⟨-, pending, -, rows⟩
    · rw [unchanged, found]
    · obtain ⟨member, here⟩ := Table.find_eq_some.mp found
      refine Table.find_eq_some.mpr ⟨?_, here⟩
      rw [rows]
      exact List.mem_append_left _ member
  | write write =>
    obtain ⟨f, -, effect⟩ := commit_rewrites write
    refine ⟨f row, ?_, ?_⟩
    · show (write.commit race.db).budgets.find key = _
      rw [(effect race.db).2.2, found]
      rfl
    · show (write.commit db).budgets.find key = _
      rw [(effect db).2.2, found']
      rfl

/-- **Initialisation under contention**: in every interleaving of any number of calls with what
other calls commit, one call creates the rows of a family, every call that has ended leaves a row
for each online device, and the rows that were there are as the others have left them. -/
theorem initialise_race (start : Database) (calls : ι → InitialiseCall)
    (fresh : FreshDraws start calls) (ops : List (RaceStep ι)) :
    OneWinner start calls (run (InitialiseRace.step calls) (.start start) ops) ∧
      ∀ key row, start.budgets.find key = some row →
        (run (InitialiseRace.step calls) (.start start) ops).db.budgets.find key =
          (run onlyWrites start ops).budgets.find key := by
  constructor
  · have kept : Consistent start calls (run (InitialiseRace.step calls) (.start start) ops) := by
      refine run_invariant _ (fun race op consistent => ?_) (consistent_start fresh) ops
      exact consistent_op fresh consistent op
    exact kept.oneWinner
  · intro key row there
    have same : SameRows start (.start start : InitialiseRace ι) start := by
      intro key there
      obtain ⟨row, found⟩ := Option.isSome_iff_exists.mp there
      exact ⟨row, found, found⟩
    obtain ⟨last, found, found'⟩ := run_simulates (SameRows start) (fun _ => True)
      (fun _ _ op same _ => sameRows_step same op) same (fun _ _ => trivial) key
      (Option.isSome_iff_exists.mpr ⟨row, there⟩)
    rw [found, found']

end Race

/-! ### A call that nobody interrupts -/

/-- One statement leads from the first phase and database to the second. -/
def CallLeads (call : InitialiseCall) (before after : InitialisePhase × Database) : Prop :=
  before.1.next call before.2 = after

/-- Looking the devices up. -/
theorem looking_leads (call : InitialiseCall) (db : Database) (todo pending : List Device) :
    Relation.ReflTransGen (CallLeads call) (.looking todo pending, db)
      (.looking [] (pending ++ missing db call.targetDate todo), db) := by
  induction todo generalizing pending with
  | nil =>
    have nothing : pending ++ missing db call.targetDate [] = pending := List.append_nil _
    rw [nothing]
  | cons device todo ih =>
    cases found : db.budgets.find (device.id, call.targetDate) with
    | some row =>
      have skipped : missing db call.targetDate (device :: todo) =
          missing db call.targetDate todo := by
        simp [missing, found]
      refine .head (b := (.looking todo pending, db)) ?_ (skipped ▸ ih pending)
      simp only [CallLeads, InitialisePhase.next, found]
    | none =>
      have added : pending ++ missing db call.targetDate (device :: todo) =
          pending ++ [device] ++ missing db call.targetDate todo := by
        simp [missing, found]
      refine .head (b := (.looking todo (pending ++ [device]), db)) ?_ (added ▸ ih _)
      simp only [CallLeads, InitialisePhase.next, found]

/-- **A call that nobody interrupts** does what `initialiseDailyBudgets` does. -/
theorem alone_initialises (call : InitialiseCall) (store : Store)
    (fresh : FreshKeys store.db call.uuid) :
    ∃ created db, initialiseDailyBudgets store call.userId call.targetDate call.uuid =
        .ok (created, { store with db }) ∧
      Relation.ReflTransGen (CallLeads call) (.ready, store.db) (.returned created, db) := by
  obtain ⟨db, created, devices, rows⟩ :=
    @initialise_returns call.targetDate call.uuid store call.userId fresh
  refine ⟨_, db, created, ?_⟩
  have selected : ((missing store.db call.targetDate
      (onlineDevices store.db call.userId)).map Device.id).Nodup :=
    (onlineDevices_nodup store.db call.userId).sublist (List.filter_sublist.map _)
  obtain ⟨next, committed, devices', rows'⟩ := commitPending_ok selected fresh.distinct
    (fun device _ => fresh.unused device.id)
    fun device member => of_decide_eq_true (List.mem_filter.mp member).2
  have same : next = db :=
    Database.ext_rows (devices'.trans devices.symm) (rows'.trans rows.symm)
  refine .head rfl ((looking_leads call store.db _ []).tail ?_)
  rw [List.nil_append]
  simp only [CallLeads, InitialisePhase.next, committed, same]

/-! ### Two events of a new day -/

/-- Two calls for the family of the tablet, on the day after. -/
def twoInitialisations (first : Bool) : InitialiseCall where
  userId := "family"
  targetDate := nextDay
  uuid deviceId := (if first then "first:" else "later:") ++ deviceId

theorem twoInitialisations_fresh : FreshDraws tabletDb twoInitialisations where
  unused first deviceId taken := by
    have same : (twoInitialisations first).uuid deviceId = "row" := List.mem_singleton.mp taken
    have letters := congrArg String.toList same
    cases first <;> simp [twoInitialisations, String.toList_append] at letters
  distinct first second deviceId other same := by
    have letters := congrArg String.toList same
    cases first <;> cases second <;>
      simp [twoInitialisations, String.toList_append] at letters <;>
      exact ⟨rfl, String.toList_inj.mp letters⟩

/-- Both look the tablet up before one of them commits, and the tablet is charged in between. -/
def bothMissing : List (RaceStep Bool) :=
  [.next true, .next false, .next true, .next false, .write (.add (.usage 60) tabletRow.key),
    .next false, .next true]

theorem initialise_race_tablet :
    OneWinner tabletDb twoInitialisations
        (run (InitialiseRace.step twoInitialisations) (.start tabletDb) bothMissing) ∧
      ∀ key row, tabletDb.budgets.find key = some row →
        (run (InitialiseRace.step twoInitialisations) (.start tabletDb) bothMissing).db.budgets.find
          key = (run onlyWrites tabletDb bothMissing).budgets.find key :=
  initialise_race tabletDb twoInitialisations twoInitialisations_fresh bothMissing

example : ∀ first, (run (InitialiseRace.step twoInitialisations) (.start tabletDb)
      bothMissing).phase first =
    if first then .raised .integrityError else .returned [⟨"tablet", 7200⟩] := by
  intro first
  cases first <;> rfl

end ScreenSync.Decision
