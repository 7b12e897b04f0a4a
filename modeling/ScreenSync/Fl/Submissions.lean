/-
**What becomes of a submission.**

An aggregation reads the rows of its round in one statement, and deletes the rows of the round in
another one. A row that is committed in between is deleted unread.

* `moves_nothingLost_iff` — a statement loses no submission exactly if it is not the `COMMIT` of
  such a deletion.
* `nothing_lost_iff` — the same for whole runs.
* `late_submission_lost` — a fourth device submits after the `SELECT`.
-/

import ScreenSync.Fl.Statements

namespace ScreenSync.Fl

open ScreenSync.Foundation ScreenSync.Shared

variable {ι Id K : Type} [DecidableEq ι] [DecidableEq Id] [DivisionRing K] {npy : NpyFormat K}
  {calls : ι → FlCall Id npy} {now next : Workers ι Id npy.Bytes} {i : ι}

/-- The row went into a mean that was added to the global weights. -/
def Included {Bytes : Type} (now : Workers ι Id Bytes) (row : FLModelUpdate Id Bytes) : Prop :=
  ∃ i, row ∈ (now.phase i).counted

/-- Every submission whose commit succeeded was included in a mean, is still stored, or was replaced
by a later one of its device for the round. -/
def NothingLost {Bytes : Type} (now : Workers ι Id Bytes) : Prop :=
  ∀ before row after, now.submitted = before ++ row :: after →
    Included now row ∨ row ∈ now.stores.updates ∨ ∃ later ∈ after, later.pair = row.pair

/-- When an aggregation commits, its own `SELECT` returned the rows of its round that its `DELETE`
found and that are still stored, unless another aggregation counted them or their devices have
submitted again. -/
def DeletesRead (calls : ι → FlCall Id npy) (now : Workers ι Id npy.Bytes) (i : ι) : Prop :=
  ∀ roundNumber rows found, (calls i).1 = .aggregate roundNumber →
    now.phase i = .deleting rows found →
      ∀ before row after, now.submitted = before ++ row :: after → row ∈ now.stores.updates →
        row.roundNumber = roundNumber → row.id ∈ found →
          row ∈ rows ∨ (∃ j ≠ i, row ∈ (now.phase j).counted) ∨
            ∃ later ∈ after, later.pair = row.pair

/-! ### One statement -/

omit [DecidableEq Id] in
/-- What was included stays so, as long as the rows of a phase are kept. -/
theorem included_goto {phase : WorkPhase Id npy.Bytes}
    (phases : next.phase = Function.update now.phase i phase)
    (kept : ∀ row ∈ (now.phase i).counted, row ∈ phase.counted) {row : FLModelUpdate Id npy.Bytes}
    (included : Included now row) : Included next row := by
  obtain ⟨j, member⟩ := included
  refine ⟨j, ?_⟩
  rw [phases, Function.update_apply]
  split
  · rename_i same
    subst same
    exact kept row member
  · exact member

omit [DecidableEq Id] in
theorem included_iff {phase : WorkPhase Id npy.Bytes}
    (phases : next.phase = Function.update now.phase i phase)
    (same : phase.counted = (now.phase i).counted) {row : FLModelUpdate Id npy.Bytes} :
    Included next row ↔ Included now row := by
  have back : now.phase = Function.update next.phase i (now.phase i) := by
    rw [phases, Function.update_idem, Function.update_eq_self]
  constructor
  · refine included_goto back ?_
    rw [phases, Function.update_self, same]
    exact fun _ => id
  · refine included_goto phases ?_
    rw [same]
    exact fun _ => id

omit [DecidableEq ι] [DecidableEq Id] in
/-- What was included is what an aggregation read that is about to commit, or what another one
counted. -/
theorem included_deleting {rows : List (FLModelUpdate Id npy.Bytes)} {found : List Id}
    (here : now.phase i = .deleting rows found) {row : FLModelUpdate Id npy.Bytes} :
    Included now row ↔ row ∈ rows ∨ ∃ j ≠ i, row ∈ (now.phase j).counted := by
  have own : row ∈ (now.phase i).counted ↔ row ∈ rows := by rw [here]; rfl
  constructor
  · rintro ⟨j, member⟩
    by_cases same : j = i
    · subst same
      exact .inl (own.mp member)
    · exact .inr ⟨j, same, member⟩
  · rintro (member | ⟨j, -, member⟩)
    · exact ⟨i, own.mpr member⟩
    · exact ⟨j, member⟩

omit [DecidableEq ι] [DecidableEq Id] in
/-- A call that is not about to commit a deletion. -/
theorem deletesRead_of_phase {phase : WorkPhase Id npy.Bytes} (here : now.phase i = phase)
    (other : ∀ rows found, phase ≠ .deleting rows found) : DeletesRead calls now i := by
  intro roundNumber rows found own deleting
  exact absurd (here.symm.trans deleting) (other rows found)

/-- A row that is stored before a deletion commits is stored after it, or was found by it. -/
theorem mem_withoutFound {Bytes : Type} {rows : List (FLModelUpdate Id Bytes)} {found : List Id}
    {condition : FLModelUpdate Id Bytes → Prop} [DecidablePred condition]
    {row : FLModelUpdate Id Bytes} : row ∈ withoutFound rows found condition ↔
      row ∈ rows ∧ ¬ (row.id ∈ found ∧ condition row) := by
  rw [withoutFound, List.mem_filter, decide_eq_true_iff]

/-- **A submission** loses nothing: what it deletes it replaces. -/
theorem inserted_nothingLost {call : StoreCall Id K} {found : List Id}
    (here : now.phase i = .inserting found) (kept : NothingLost now) :
    NothingLost
      { now.goto i .counting with
        stores :=
          { now.stores with
            updates := withoutFound now.stores.updates found (fun row =>
              row.deviceId = call.deviceId ∧ row.roundNumber = call.roundNumber) ++
                [call.update npy] }
        submitted := now.submitted ++ [call.update npy] } := by
  intro before row after split
  rcases List.eq_nil_or_concat after with rfl | ⟨rest, last, rfl⟩
  · -- the new submission is stored
    have new : [call.update npy] = [row] := List.append_inj_right' split rfl
    cases new
    exact .inr (.inl (List.mem_append_right _ (List.mem_singleton_self _)))
  rw [List.concat_eq_append, ← List.cons_append, ← List.append_assoc] at split
  have new : [call.update npy] = [last] := List.append_inj_right' split rfl
  cases new
  have earlier := List.append_inj_left' split rfl
  rcases kept before row rest earlier with included | stored | ⟨later, member, same⟩
  · refine .inl (included_goto rfl ?_ included)
    rw [here]
    exact nofun
  · right
    by_cases replaced : row.id ∈ found ∧
        row.deviceId = call.deviceId ∧ row.roundNumber = call.roundNumber
    · refine .inr ⟨call.update npy, by simp, ?_⟩
      exact Prod.ext replaced.2.1.symm replaced.2.2.symm
    · exact .inl (List.mem_append_left _ (mem_withoutFound.mpr ⟨stored, replaced⟩))
  · exact .inr (.inr ⟨later, by simp [member], same⟩)

/-- **When one statement loses no submission.** -/
theorem moves_nothingLost_iff (moves : WorkMoves calls now i next) (kept : NothingLost now) :
    NothingLost next ↔ DeletesRead calls now i := by
  -- a statement that leaves the rows and the submissions alone
  have quiet : ∀ {phase later : WorkPhase Id npy.Bytes}, now.phase i = phase →
      next.phase = Function.update now.phase i later → next.submitted = now.submitted →
        next.stores.updates = now.stores.updates →
          (∀ row ∈ phase.counted, row ∈ later.counted) →
            (∀ rows found, phase ≠ .deleting rows found) →
              (NothingLost next ↔ DeletesRead calls now i) := by
    rintro phase later here phases submitted updates counted other
    refine ⟨fun _ => deletesRead_of_phase here other, fun _ before row after split => ?_⟩
    rw [submitted] at split
    rw [updates]
    exact (kept before row after split).imp_left (included_goto phases (here ▸ counted))
  cases moves with
  | idle _ noDelete =>
    refine ⟨fun _ roundNumber rows found own here => ?_, fun _ => kept⟩
    exact absurd here (noDelete roundNumber rows found own)
  | matched own here found => exact quiet here rfl rfl rfl nofun nofun
  | inserted own here =>
    exact ⟨fun _ => deletesRead_of_phase here nofun, fun _ => inserted_nothingLost here kept⟩
  | answered own here => exact quiet here rfl rfl rfl nofun nofun
  | selected own here perm quorum => exact quiet here rfl rfl rfl nofun nofun
  | halted early =>
    rcases early with here | ⟨rows, here⟩
    · exact quiet here rfl rfl rfl nofun nofun
    · exact quiet here rfl rfl rfl nofun nofun
  | saved here redis => exact quiet here rfl rfl rfl nofun nofun
  | cleaning here found => exact quiet here rfl rfl rfl (fun _ => id) nofun
  | @deleted roundNumber own rows found here =>
    have included : ∀ row, Included (now.goto i (.aggregated rows)) row ↔ Included now row := by
      intro row
      refine included_iff rfl ?_
      rw [here]
      rfl
    constructor
    · intro lost other mine theirs sameCall sameHere before row after split stored ofRound hit
      cases own.symm.trans sameCall
      cases here.symm.trans sameHere
      rcases lost before row after split with counted | still | replaced
      · exact or_assoc.mp (.inl ((included_deleting here).mp ((included row).mp counted)))
      · exact absurd ⟨hit, ofRound⟩ (mem_withoutFound.mp still).2
      · exact .inr (.inr replaced)
    · intro read before row after split
      rcases kept before row after split with counted | stored | replaced
      · exact .inl ((included row).mpr counted)
      · by_cases gone : row.id ∈ found ∧ row.roundNumber = roundNumber
        · rcases or_assoc.mpr (read roundNumber rows found own here before row after split stored
            gone.2 gone.1) with counted | replaced
          · exact .inl ((included row).mpr ((included_deleting here).mpr counted))
          · exact .inr (.inr replaced)
        · exact .inr (.inl (mem_withoutFound.mpr ⟨stored, gone⟩))
      · exact .inr (.inr replaced)

/-! ### Whole runs -/

/-- **Exactly when no submission is lost**, over any interleaving of the statements of any calls:
whenever an aggregation commits, it has read what it deletes, or another aggregation counted it, or
it was replaced in the meantime. -/
theorem nothing_lost_iff (npy : NpyFormat K) (calls : ι → FlCall Id npy) (schedule : List ι) :
    Throughout (advance npy calls) NothingLost .start schedule ↔
      Meets (advance npy calls) (DeletesRead calls) .start schedule :=
  throughout_iff_meets (fun _ => True) (fun _ _ _ => trivial)
    (fun _ _ _ kept => moves_nothingLost_iff advance_moves kept) trivial
    (fun before _ _ split => by cases before <;> cases split) schedule

/-! ### A fourth device -/

/-- Three devices and a fourth one submit a delta for the first round, which is aggregated. -/
def lateDevice : Fin 5 → FlCall String (.plain ℚ)
  | 0 => submit "tablet" (.zeros []) 1
  | 1 => submit "phone" (.zeros []) 1
  | 2 => submit "laptop" (.zeros []) 1
  | 3 => submit "watch" (.zeros []) 1
  | 4 => (.aggregate 1, .asStored)

/-- The fourth device commits between the `SELECT` and the `DELETE` of the aggregation. -/
theorem late_submission_lost :
    ¬ Throughout (advance (.plain ℚ) lateDevice) NothingLost .start
      [0, 0, 1, 1, 2, 2, 4, 3, 3, 4, 4, 4] := by
  intro always
  have uncounted : ∀ i, "watch" ∉ ((run (advance (.plain ℚ) lateDevice) .start
      [0, 0, 1, 1, 2, 2, 4, 3, 3, 4, 4, 4]).phase i).counted.map FLModelUpdate.deviceId := by
    decide
  have deleted : "watch" ∉ (run (advance (.plain ℚ) lateDevice) .start
      [0, 0, 1, 1, 2, 2, 4, 3, 3, 4, 4, 4]).stores.updates.map FLModelUpdate.deviceId := by
    decide
  have watch : (run (advance (.plain ℚ) lateDevice) .start
      [0, 0, 1, 1, 2, 2, 4, 3, 3, 4, 4, 4]).submitted = [_, _, _] ++ _ :: [] := rfl
  rcases always _ [] (List.append_nil _).symm _ _ [] watch with
    ⟨i, member⟩ | stored | ⟨later, none, -⟩
  · exact uncounted i (List.mem_map_of_mem member)
  · exact deleted (List.mem_map_of_mem stored)
  · cases none

end ScreenSync.Fl
