/-
**The quorum, over every interleaving.**

A quorum is counted in rows. Each call deletes the row of its device for the round before it inserts
its own, but not in one statement: two calls for one device may both delete first.

* `moves_countsDevices_iff` — a statement keeps one row for each device and round exactly if it does
  not insert over a row that its `DELETE` has not found.
* `quorum_of_devices_iff` — the same for whole runs, and with it that a quorum is one of devices.
* `device_counted_twice` — two calls for one device, both of whose rows are kept.
-/

import ScreenSync.Fl.Submissions

namespace ScreenSync.Fl

open ScreenSync.Foundation ScreenSync.Shared

variable {ι Id K : Type} [DecidableEq ι] [DecidableEq Id] [DivisionRing K] {npy : NpyFormat K}
  {calls : ι → FlCall Id npy} {now next : Workers ι Id npy.Bytes} {i : ι}

/-- The devices whose submissions for the round were committed. -/
def devicesFor {Bytes : Type} (submitted : List (FLModelUpdate Id Bytes)) (roundNumber : Int) :
    Finset DeviceId :=
  ((submitted.filter fun row => row.roundNumber = roundNumber).map FLModelUpdate.deviceId).toFinset

/-- There is one row at most for each device and round, and whoever goes by a quorum of a round goes
by a quorum of devices. -/
structure CountsDevices (calls : ι → FlCall Id npy) (now : Workers ι Id npy.Bytes) : Prop where
  single : (now.stores.updates.map FLModelUpdate.pair).Nodup
  reached : ∀ i reply, now.phase i = .replied reply → reply.quorumReached = true →
    minDevicesPerRound ≤ (devicesFor now.submitted reply.roundNumber).card
  goesAhead : ∀ i roundNumber, (calls i).1 = .aggregate roundNumber → (now.phase i).GoesAhead →
    minDevicesPerRound ≤ (devicesFor now.submitted roundNumber).card

/-- A call that inserts a row has found every row that is stored for its device and round. -/
def FindsOwnRows (calls : ι → FlCall Id npy) (now : Workers ι Id npy.Bytes) (i : ι) : Prop :=
  ∀ call found, (calls i).1 = .store call → now.phase i = .inserting found →
    ∀ row ∈ now.stores.updates, row.deviceId = call.deviceId →
      row.roundNumber = call.roundNumber → row.id ∈ found

/-- Every row that is stored was submitted. -/
def Backed {Bytes : Type} (now : Workers ι Id Bytes) : Prop :=
  ∀ row ∈ now.stores.updates, row ∈ now.submitted

omit [DecidableEq Id] in
theorem devicesFor_mono {Bytes : Type} {fewer more : List (FLModelUpdate Id Bytes)}
    (subset : ∀ row ∈ fewer, row ∈ more) (roundNumber : Int) :
    (devicesFor fewer roundNumber).card ≤ (devicesFor more roundNumber).card := by
  refine Finset.card_le_card fun device member => ?_
  obtain ⟨row, inside, rfl⟩ := List.mem_map.mp (List.mem_toFinset.mp member)
  obtain ⟨inFewer, ofRound⟩ := List.mem_filter.mp inside
  exact List.mem_toFinset.mpr
    (List.mem_map_of_mem (List.mem_filter.mpr ⟨subset row inFewer, ofRound⟩))

omit [DecidableEq ι] [DecidableEq Id] in
/-- **A count of rows is a count of devices**, as long as there is one row for each. -/
theorem count_le_devices {Bytes : Type} {now : Workers ι Id Bytes} (backed : Backed now)
    (single : (now.stores.updates.map FLModelUpdate.pair).Nodup) (roundNumber : Int) :
    submissionCount now.stores roundNumber ≤ (devicesFor now.submitted roundNumber).card := by
  have distinct := ofRound_devices_nodup single roundNumber
  calc submissionCount now.stores roundNumber
      = ((now.stores.ofRound roundNumber).map FLModelUpdate.deviceId).toFinset.card := by
        rw [List.toFinset_card_of_nodup distinct, List.length_map]
        rfl
    _ ≤ (devicesFor now.submitted roundNumber).card := devicesFor_mono backed roundNumber

/-! ### One statement -/

theorem backed_moves (backed : Backed now) (moves : WorkMoves calls now i next) : Backed next := by
  cases moves with
  | inserted own here =>
    intro row member
    rcases List.mem_append.mp member with old | new
    · exact List.mem_append_left _ (backed row (mem_withoutFound.mp old).1)
    · exact List.mem_append_right _ new
  | deleted own here => exact fun row member => backed row (mem_withoutFound.mp member).1
  | idle | matched | answered | selected | halted | saved | cleaning => exact backed

omit [DecidableEq Id] in
/-- What is left to show after a statement of one call: that its own phase is honest. -/
theorem countsDevices_goto {phase : WorkPhase Id npy.Bytes} (counts : CountsDevices calls now)
    (phases : next.phase = Function.update now.phase i phase)
    (more : ∀ row ∈ now.submitted, row ∈ next.submitted)
    (single : (next.stores.updates.map FLModelUpdate.pair).Nodup)
    (reached : ∀ reply, phase = .replied reply → reply.quorumReached = true →
      minDevicesPerRound ≤ (devicesFor now.submitted reply.roundNumber).card)
    (goesAhead : ∀ roundNumber, (calls i).1 = .aggregate roundNumber → phase.GoesAhead →
      minDevicesPerRound ≤ (devicesFor now.submitted roundNumber).card) :
    CountsDevices calls next where
  single := single
  reached := by
    intro j reply replied quorum
    refine le_trans ?_ (devicesFor_mono more reply.roundNumber)
    rw [phases, Function.update_apply] at replied
    split at replied
    · exact reached reply replied quorum
    · exact counts.reached j reply replied quorum
  goesAhead := by
    intro j roundNumber own ahead
    refine le_trans ?_ (devicesFor_mono more roundNumber)
    rw [phases, Function.update_apply] at ahead
    split at ahead
    · rename_i same
      subst same
      exact goesAhead roundNumber own ahead
    · exact counts.goesAhead j roundNumber own ahead

/-- **When an insert keeps one row for each device and round.** -/
theorem inserted_single_iff {rows : List (FLModelUpdate Id npy.Bytes)} {found : List Id}
    (single : (rows.map FLModelUpdate.pair).Nodup) (call : StoreCall Id K) :
    ((withoutFound rows found (fun row => row.deviceId = call.deviceId ∧
        row.roundNumber = call.roundNumber) ++ [call.update npy]).map FLModelUpdate.pair).Nodup ↔
      ∀ row ∈ rows, row.deviceId = call.deviceId → row.roundNumber = call.roundNumber →
        row.id ∈ found := by
  have kept : ((withoutFound rows found fun row => row.deviceId = call.deviceId ∧
      row.roundNumber = call.roundNumber).map FLModelUpdate.pair).Nodup :=
    single.sublist (List.filter_sublist.map _)
  rw [List.map_append, List.map_singleton, List.nodup_append, and_iff_right kept,
    and_iff_right (List.nodup_singleton _)]
  constructor
  · intro apart row member device round
    by_contra unfound
    refine apart row.pair (List.mem_map_of_mem (mem_withoutFound.mpr ⟨member, ?_⟩)) _
      (List.mem_singleton_self _) (Prod.ext device round)
    exact fun both => unfound both.1
  · rintro all pair member other new rfl
    obtain ⟨row, inside, same⟩ := List.mem_map.mp member
    rw [List.mem_singleton.mp new] at same
    obtain ⟨device, round⟩ := Prod.mk.inj same
    obtain ⟨stored, unfound⟩ := mem_withoutFound.mp inside
    exact unfound ⟨all row stored device round, device, round⟩

/-- **When one statement keeps the count one of devices.** -/
theorem moves_countsDevices_iff (backed : Backed now) (counts : CountsDevices calls now)
    (moves : WorkMoves calls now i next) : CountsDevices calls next ↔ FindsOwnRows calls now i := by
  -- a call that is not about to insert
  have other : ∀ {phase : WorkPhase Id npy.Bytes}, now.phase i = phase →
      (∀ found, phase ≠ .inserting found) → FindsOwnRows calls now i := by
    intro phase here apart call found own inserting
    exact absurd (here.symm.trans inserting) (apart found)
  have same : ∀ row ∈ now.submitted, row ∈ now.submitted := fun _ => id
  cases moves with
  | idle noInsert _ =>
    refine iff_of_true counts fun call found own here => ?_
    exact absurd here (noInsert call found own)
  | matched own here found =>
    exact iff_of_true (countsDevices_goto counts rfl same counts.single nofun nofun)
      (other here nofun)
  | @inserted call own found here =>
    constructor
    · intro after mine theirs sameCall sameHere
      cases own.symm.trans sameCall
      cases here.symm.trans sameHere
      exact (inserted_single_iff counts.single call).mp after.single
    · intro finds
      exact countsDevices_goto counts rfl (fun row => List.mem_append_left _)
        ((inserted_single_iff counts.single call).mpr (finds call found own here)) nofun nofun
  | answered own here =>
    refine iff_of_true (countsDevices_goto counts rfl same counts.single ?_ nofun)
      (other here nofun)
    intro reply replied quorum
    cases replied
    exact (of_decide_eq_true quorum).trans (count_le_devices backed counts.single _)
  | @selected roundNumber own here rows perm quorum =>
    refine iff_of_true (countsDevices_goto counts rfl same counts.single nofun ?_)
      (other here nofun)
    intro round sameCall ahead
    cases own.symm.trans sameCall
    exact (perm.length_eq ▸ quorum).trans (count_le_devices backed counts.single _)
  | halted early =>
    rcases early with here | ⟨rows, here⟩
    · exact iff_of_true (countsDevices_goto counts rfl same counts.single nofun nofun)
        (other here nofun)
    · exact iff_of_true (countsDevices_goto counts rfl same counts.single nofun nofun)
        (other here nofun)
  | saved here redis =>
    refine iff_of_true (countsDevices_goto counts rfl same counts.single nofun ?_)
      (other here nofun)
    exact fun round own _ => counts.goesAhead i round own (here ▸ trivial)
  | cleaning here found =>
    refine iff_of_true (countsDevices_goto counts rfl same counts.single nofun ?_)
      (other here nofun)
    exact fun round own _ => counts.goesAhead i round own (here ▸ trivial)
  | deleted own here =>
    refine iff_of_true (countsDevices_goto counts rfl same ?_ nofun ?_) (other here nofun)
    · exact counts.single.sublist (List.filter_sublist.map _)
    · exact fun round own _ => counts.goesAhead i round own (here ▸ trivial)

/-! ### Whole runs -/

/-- **Exactly when a quorum is one of devices**, over any interleaving of the statements of any
calls: there is one row at most for each device and round, and a reply that says that the quorum is
reached or an aggregation that goes ahead has enough devices behind it, throughout a run, exactly if
every call that inserts a row has found all the rows that are stored for its device and round. -/
theorem quorum_of_devices_iff (npy : NpyFormat K) (calls : ι → FlCall Id npy)
    (schedule : List ι) :
    Throughout (advance npy calls) (CountsDevices calls) .start schedule ↔
      Meets (advance npy calls) (FindsOwnRows calls) .start schedule := by
  have nobody : CountsDevices calls (.start : Workers ι Id npy.Bytes) :=
    { single := List.nodup_nil
      reached := nofun
      goesAhead := fun _ _ _ => False.elim }
  have backed : Backed (.start : Workers ι Id npy.Bytes) := fun _ none =>
    absurd none List.not_mem_nil
  exact throughout_iff_meets Backed (fun _ _ backed => backed_moves backed advance_moves)
    (fun _ _ backed counts => moves_countsDevices_iff backed counts advance_moves) backed nobody
    schedule

/-! ### Two calls of one device -/

/-- A device submits twice, and so does another one. -/
def retries : Fin 3 → FlCall String (.plain ℚ)
  | 0 => submit "tablet" (.zeros []) 1
  | 1 => submit "tablet" (.zeros []) 1
  | 2 => submit "phone" (.zeros []) 1

/-- Both calls of the tablet delete before either inserts: with the phone's row, a quorum of two
devices is reached. -/
theorem device_counted_twice :
    ¬ Throughout (advance (.plain ℚ) retries) (CountsDevices retries) .start
      [0, 1, 0, 1, 2, 2, 2] := by
  intro always
  have counts := always [0, 1, 0, 1, 2, 2, 2] [] rfl
  have enough := counts.reached 2 _ rfl (by decide)
  revert enough
  decide

end ScreenSync.Fl
