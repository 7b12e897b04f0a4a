/-
**Transactions that fill in what is missing.**

A transaction looks its keys up one by one, and in the end inserts those it has not found. A unique
constraint refuses the whole insert if one of them is there by then. The transactions want keys in
groups: two that have a key in common want the same keys.

* `Step` — a transaction that begins, looks a key up, or ends.
* `Sound` — the invariant: what a transaction has looked up is there or still to be inserted, and a
  key that was inserted was inserted with the rest of its group.
* `Sound.complete` — a transaction that has ended, either way, leaves all its keys there.
* `Sound.refused_by` — one that was refused had a key inserted by another one.
* `Sound.single` — of the transactions of a group, one inserts.
-/

import Mathlib.Data.Set.Basic
import Mathlib.Logic.Function.Basic
import Mathlib.Tactic.Common

namespace ScreenSync.Foundation

/-- How far a transaction has come: `lacking` are the keys it has not found. -/
inductive FillingStage (K : Type*)
  | idle
  | looking (todo lacking : List K)
  | filled (created : List K)
  | refused

/-- The keys that are there, and the transactions. -/
structure Filling (ι K : Type*) where
  there : Set K
  stage : ι → FillingStage K

namespace Filling

variable {ι K : Type*} [DecidableEq ι] (wanted : ι → List K)

/-- A transaction moves on. -/
def advance (s : Filling ι K) (i : ι) (stage : FillingStage K) : Filling ι K :=
  { s with stage := Function.update s.stage i stage }

/-- The keys that are missing are inserted. -/
def fillIn (s : Filling ι K) (i : ι) (lacking : List K) : Filling ι K :=
  { s.advance i (.filled lacking) with there := s.there ∪ {key | key ∈ lacking} }

/-- What a transaction does next. -/
inductive Step (s : Filling ι K) : Filling ι K → Prop
  | rest : Step s s
  | start (i : ι) (ready : s.stage i = .idle) : Step s (s.advance i (.looking (wanted i) []))
  | found (i : ι) {key : K} {todo lacking : List K}
    (turn : s.stage i = .looking (key :: todo) lacking) (present : key ∈ s.there) :
    Step s (s.advance i (.looking todo lacking))
  | missed (i : ι) {key : K} {todo lacking : List K}
    (turn : s.stage i = .looking (key :: todo) lacking) (absent : key ∉ s.there) :
    Step s (s.advance i (.looking todo (lacking ++ [key])))
  | fill (i : ι) {lacking : List K} (turn : s.stage i = .looking [] lacking)
    (free : ∀ key ∈ lacking, key ∉ s.there) :
    Step s (s.fillIn i lacking)
  | refuse (i : ι) {lacking : List K} (turn : s.stage i = .looking [] lacking) {key : K}
    (taken : key ∈ lacking) (present : key ∈ s.there) : Step s (s.advance i .refused)

/-- Two transactions that have a key in common want the same keys. -/
def Grouped : Prop :=
  ∀ i j key, key ∈ wanted i → key ∈ wanted j → ∀ other ∈ wanted i, other ∈ wanted j

/-- What holds of a transaction, given what was there at the start and is there now. -/
def StageSound (start : Set K) (s : Filling ι K) (i : ι) : FillingStage K → Prop
  | .idle => True
  | .looking todo lacking =>
    (∀ key ∈ wanted i, key ∈ todo ∨ key ∈ s.there ∨ key ∈ lacking) ∧
      (∀ key ∈ todo, key ∈ wanted i) ∧ ∀ key ∈ lacking, key ∈ wanted i ∧ key ∉ start
  | .filled created => (∀ key ∈ wanted i, key ∈ s.there) ∧
      ∀ key ∈ created, key ∈ wanted i ∧ key ∉ start ∧ key ∈ s.there
  | .refused =>
    ∃ j created key, j ≠ i ∧ s.stage j = .filled created ∧ key ∈ created ∧ key ∈ wanted i

/-- **The invariant.** -/
structure Sound (start : Set K) (s : Filling ι K) : Prop where
  grows : start ⊆ s.there
  origin : ∀ key ∈ s.there, key ∈ start ∨ ∃ j created, s.stage j = .filled created ∧ key ∈ created
  stages : ∀ i, StageSound wanted start s i (s.stage i)
  single : ∀ i j created others key, s.stage i = .filled created → s.stage j = .filled others →
    key ∈ created → key ∈ wanted j → others ≠ [] → i = j

variable {wanted} {start : Set K} {s next : Filling ι K}

omit [DecidableEq ι] in
/-- Keys and filled transactions stay. -/
theorem StageSound.mono (grows : s.there ⊆ next.there)
    (kept : ∀ j created, s.stage j = .filled created → next.stage j = .filled created) {i : ι}
    {stage : FillingStage K} (sound : StageSound wanted start s i stage) :
    StageSound wanted start next i stage := by
  cases stage with
  | idle => trivial
  | looking todo lacking =>
    exact ⟨fun key want => (sound.1 key want).imp_right (Or.imp_left fun old => grows old), sound.2⟩
  | filled created =>
    refine ⟨fun key want => grows (sound.1 key want), fun key member => ?_⟩
    obtain ⟨want, fresh, old⟩ := sound.2 key member
    exact ⟨want, fresh, grows old⟩
  | refused =>
    obtain ⟨j, created, key, apart, filled, member, want⟩ := sound
    exact ⟨j, created, key, apart, kept j created filled, member, want⟩

omit [DecidableEq ι] in
theorem sound_start (idle : ∀ i, s.stage i = .idle) : Sound wanted s.there s where
  grows := subset_rfl
  origin key old := .inl old
  stages i := by
    rw [idle]
    trivial
  single i _ created _ _ filled := by
    cases (idle i).symm.trans filled

/-- **A transaction that does not insert** keeps the invariant. -/
theorem Sound.advance (sound : Sound wanted start s) {i : ι} {stage : FillingStage K}
    (before : ∀ created, s.stage i ≠ .filled created) (after : ∀ created, stage ≠ .filled created)
    (own : StageSound wanted start s i stage) : Sound wanted start (s.advance i stage) := by
  -- the transactions that have inserted are the same
  have filled : ∀ j created, (s.advance i stage).stage j = .filled created ↔
      s.stage j = .filled created := by
    intro j created
    show Function.update s.stage i stage j = _ ↔ _
    rw [Function.update_apply]
    split
    · rename_i same
      subst same
      exact iff_of_false (after created) (before created)
    · rfl
  have same : s.there ⊆ (s.advance i stage).there := subset_rfl
  have kept : ∀ {j : ι} {other : FillingStage K}, StageSound wanted start s j other →
      StageSound wanted start (s.advance i stage) j other :=
    fun sound => sound.mono same fun j created => (filled j created).mpr
  exact
    { grows := sound.grows
      origin := by
        intro key there
        refine (sound.origin key there).imp_right ?_
        rintro ⟨j, created, inserted, member⟩
        exact ⟨j, created, (filled j created).mpr inserted, member⟩
      stages := by
        intro j
        refine kept ?_
        show StageSound wanted start s j (Function.update s.stage i stage j)
        rw [Function.update_apply]
        split
        · rename_i same
          exact same ▸ own
        · exact sound.stages j
      single := fun j k created others key first second =>
        sound.single j k created others key ((filled j created).mp first)
          ((filled k others).mp second) }

/-- **One that inserts** keeps it too. -/
theorem Sound.fill (grouped : Grouped wanted) (sound : Sound wanted start s) {i : ι}
    {lacking : List K} (turn : s.stage i = .looking [] lacking)
    (free : ∀ key ∈ lacking, key ∉ s.there) : Sound wanted start (s.fillIn i lacking) := by
  have own := sound.stages i
  rw [turn] at own
  obtain ⟨looked, -, lack⟩ := own
  have grows : s.there ⊆ (s.fillIn i lacking).there := Set.subset_union_left
  have kept : ∀ j created, s.stage j = .filled created →
      (s.fillIn i lacking).stage j = .filled created := by
    intro j created filled
    have apart : j ≠ i := by
      rintro rfl
      cases turn.symm.trans filled
    rw [← filled]
    exact Function.update_of_ne apart _ _
  have self : (s.fillIn i lacking).stage i = .filled lacking :=
    Function.update_self ..
  -- the keys of a transaction that had inserted were there, those of this one were not
  have covered : ∀ {j : ι} {created : List K}, s.stage j = .filled created →
      ∀ key ∈ wanted j, key ∉ lacking := by
    intro j created filled key want member
    have theirs := sound.stages j
    rw [filled] at theirs
    exact free key member (theirs.1 key want)
  refine ⟨sound.grows.trans grows, ?_, fun j => ?_, ?_⟩
  · rintro key (old | new)
    · refine (sound.origin key old).imp_right ?_
      rintro ⟨j, created, inserted, member⟩
      exact ⟨j, created, kept j created inserted, member⟩
    · exact .inr ⟨i, lacking, self, new⟩
  · by_cases same : j = i
    · subst same
      rw [self]
      refine ⟨fun key want => ?_, fun key member => ?_⟩
      · rcases looked key want with todo | old | new
        · exact absurd todo List.not_mem_nil
        · exact .inl old
        · exact .inr new
      · exact ⟨(lack key member).1, (lack key member).2, .inr member⟩
    · show StageSound wanted start _ j (Function.update s.stage i (.filled lacking) j)
      rw [Function.update_of_ne same]
      exact (sound.stages j).mono grows kept
  · intro j k created others key first second member want some
    replace first : Function.update s.stage i (.filled lacking) j = .filled created := first
    replace second : Function.update s.stage i (.filled lacking) k = .filled others := second
    rw [Function.update_apply] at first second
    split at first
    · rename_i here
      cases first
      split at second
      · rename_i there
        rw [here, there]
      · exact absurd member (covered second key want)
    · split at second
      · rename_i here
        cases second
        subst here
        obtain ⟨other, inside⟩ := List.exists_mem_of_ne_nil lacking some
        have theirs := sound.stages j
        rw [first] at theirs
        have both : other ∈ wanted j :=
          grouped k j key want (theirs.2 key member).1 other (lack other inside).1
        exact absurd inside (covered first other both)
      · exact sound.single j k created others key first second member want some

/-- **Every step keeps the invariant.** -/
theorem Sound.step (grouped : Grouped wanted) (sound : Sound wanted start s)
    (step : Step wanted s next) : Sound wanted start next := by
  cases step with
  | rest => exact sound
  | start i ready =>
    refine sound.advance (by rw [ready]; nofun) nofun ?_
    exact ⟨fun key want => .inl want, fun key want => want,
      fun key none => absurd none List.not_mem_nil⟩
  | @found i key todo lacking turn present =>
    have own := sound.stages i
    rw [turn] at own
    refine sound.advance (by rw [turn]; nofun) nofun ⟨fun other want => ?_, ?_, own.2.2⟩
    · rcases own.1 other want with todo | known
      · rcases List.mem_cons.mp todo with rfl | later
        · exact .inr (.inl present)
        · exact .inl later
      · exact .inr known
    · exact (List.forall_mem_cons.mp own.2.1).2
  | @missed i key todo lacking turn absent =>
    have own := sound.stages i
    rw [turn] at own
    obtain ⟨head, tail⟩ := List.forall_mem_cons.mp own.2.1
    refine sound.advance (by rw [turn]; nofun) nofun ⟨fun other want => ?_, tail, ?_⟩
    · rcases own.1 other want with todo | old | new
      · rcases List.mem_cons.mp todo with rfl | later
        · exact .inr (.inr (List.mem_append_right _ (List.mem_singleton_self _)))
        · exact .inl later
      · exact .inr (.inl old)
      · exact .inr (.inr (List.mem_append_left _ new))
    · intro other member
      rcases List.mem_append.mp member with old | new
      · exact own.2.2 other old
      · rw [List.mem_singleton.mp new]
        exact ⟨head, fun old => absent (sound.grows old)⟩
  | fill i turn free => exact sound.fill grouped turn free
  | @refuse i lacking turn key taken present =>
    have own := sound.stages i
    rw [turn] at own
    obtain ⟨want, fresh⟩ := own.2.2 key taken
    refine sound.advance (by rw [turn]; nofun) nofun ?_
    obtain ⟨j, created, inserted, member⟩ := (sound.origin key present).resolve_left fresh
    refine ⟨j, created, key, ?_, inserted, member, want⟩
    rintro rfl
    cases turn.symm.trans inserted

omit [DecidableEq ι] in
/-- **One that was refused** had a key inserted by another one. -/
theorem Sound.refused_by (sound : Sound wanted start s) {i : ι} (refused : s.stage i = .refused) :
    ∃ j created key, j ≠ i ∧ s.stage j = .filled created ∧ key ∈ created ∧ key ∈ wanted i := by
  have own := sound.stages i
  rw [refused] at own
  exact own

omit [DecidableEq ι] in
/-- **A transaction that has ended** leaves all its keys there. -/
theorem Sound.complete (grouped : Grouped wanted) (sound : Sound wanted start s) {i : ι}
    (ended : s.stage i = .refused ∨ ∃ created, s.stage i = .filled created) :
    ∀ key ∈ wanted i, key ∈ s.there := by
  rcases ended with refused | ⟨created, filled⟩
  · obtain ⟨j, created, key, -, filled, member, want⟩ := sound.refused_by refused
    have theirs := sound.stages j
    rw [filled] at theirs
    exact fun other wanted =>
      theirs.1 other (grouped i j key want (theirs.2 key member).1 other wanted)
  · have own := sound.stages i
    rw [filled] at own
    exact own.1

end Filling

end ScreenSync.Foundation
