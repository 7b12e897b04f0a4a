/-
**A roll with a deadline.**

A roll lists those who are there. Whoever arrives is put on the roll, and the roll as a whole is kept
for another lifetime; whoever leaves is struck off, which does not renew it. A roll past its deadline
is gone, and so is one with nobody on it.

* `Roll` — a roll has somebody on it.
* `Stays` — somebody arrived, did not leave since, and since then nobody's absence was as long as a
  lifetime: at every later moment somebody had arrived within the lifetime before it.
* `listed_iff` — after every run of visits these are the ones on the roll.
-/

import Mathlib.Data.Finset.Basic
import ScreenSync.Foundation.Run

namespace ScreenSync.Foundation

/-- Those who are there, and the time from which on the roll is gone, if it has one. -/
structure Roll (μ : Type*) where
  members : Finset μ
  filled : members.Nonempty
  deadline : Option Nat

namespace Roll

variable {μ : Type*} [DecidableEq μ]

/-- The roll has not reached its deadline. -/
def Open (roll : Roll μ) (now : Nat) : Prop :=
  match roll.deadline with
  | none => True
  | some deadline => now < deadline

instance (roll : Roll μ) (now : Nat) : Decidable (roll.Open now) := by
  unfold Open
  split <;> infer_instance

/-- What is there of a roll at a time. -/
def current (now : Nat) : Option (Roll μ) → Option (Roll μ)
  | some roll => if roll.Open now then some roll else none
  | none => none

/-- Those on the roll at a time. -/
def listed (now : Nat) (cell : Option (Roll μ)) : Finset μ :=
  match current now cell with
  | some roll => roll.members
  | none => ∅

/-- Put somebody on the roll; a new roll has no deadline. -/
def enter (now : Nat) (who : μ) (cell : Option (Roll μ)) : Option (Roll μ) :=
  match current now cell with
  | some roll => some ⟨insert who roll.members, Finset.insert_nonempty .., roll.deadline⟩
  | none => some ⟨{who}, Finset.singleton_nonempty who, none⟩

/-- Keep the roll, if there is one, for a lifetime from now on. -/
def renew (now lifetime : Nat) (cell : Option (Roll μ)) : Option (Roll μ) :=
  match current now cell with
  | some roll => some { roll with deadline := some (now + lifetime) }
  | none => none

/-- Strike somebody off the roll. -/
def strike (now : Nat) (who : μ) (cell : Option (Roll μ)) : Option (Roll μ) :=
  match current now cell with
  | some roll =>
    if left : (roll.members.erase who).Nonempty then
      some ⟨roll.members.erase who, left, roll.deadline⟩
    else none
  | none => none

/-! ### Who is listed -/

variable {now time lifetime : Nat} {who other : μ} {cell : Option (Roll μ)}

omit [DecidableEq μ] in
theorem current_eq_some {roll : Roll μ} :
    current now cell = some roll ↔ cell = some roll ∧ roll.Open now := by
  unfold current
  cases cell with
  | none => exact ⟨fun none => (by cases none), fun both => (by cases both.1)⟩
  | some held =>
    rw [ite_eq_iff]
    constructor
    · rintro (⟨there, same⟩ | ⟨-, none⟩)
      · cases same
        exact ⟨rfl, there⟩
      · cases none
    · rintro ⟨same, there⟩
      cases same
      exact .inl ⟨there, rfl⟩

omit [DecidableEq μ] in
theorem mem_listed : who ∈ listed now cell ↔
    ∃ roll, cell = some roll ∧ roll.Open now ∧ who ∈ roll.members := by
  unfold listed
  cases found : current now cell with
  | none =>
    refine ⟨fun none => absurd none (Finset.notMem_empty who), ?_⟩
    rintro ⟨roll, same, there, -⟩
    cases found.symm.trans (current_eq_some.mpr ⟨same, there⟩)
  | some roll =>
    obtain ⟨rfl, there⟩ := current_eq_some.mp found
    constructor
    · intro member
      exact ⟨roll, rfl, there, member⟩
    · rintro ⟨other, same, -, member⟩
      cases same
      exact member

omit [DecidableEq μ] in
/-- A roll that is there was there before. -/
theorem Open.earlier {roll : Roll μ} (there : roll.Open now) (before : time ≤ now) :
    roll.Open time := by
  unfold Open at there ⊢
  cases same : roll.deadline with
  | none => trivial
  | some deadline =>
    rw [same] at there
    exact lt_of_le_of_lt before there

/-- Whoever is put on the roll finds it there, with all who were on it. -/
theorem enter_spec (time : Nat) (other : μ) (cell : Option (Roll μ)) :
    ∃ roll, enter time other cell = some roll ∧ roll.Open time ∧
      ∀ who, who ∈ roll.members ↔ who = other ∨ who ∈ listed time cell := by
  unfold enter listed
  cases found : current time cell with
  | none => exact ⟨_, rfl, trivial, fun who => by simp⟩
  | some roll => exact ⟨_, rfl, (current_eq_some.mp found).2, fun who => by simp⟩

/-- **An arrival**: all who were there stay on the roll, for another lifetime. -/
theorem mem_listed_arrive :
    who ∈ listed now (renew time lifetime (enter time other cell)) ↔
      now < time + lifetime ∧ (who = other ∨ who ∈ listed time cell) := by
  obtain ⟨roll, entered, there, members⟩ := enter_spec time other cell
  have renewed : renew time lifetime (enter time other cell) =
      some { roll with deadline := some (time + lifetime) } := by
    simp only [renew, entered, current_eq_some.mpr ⟨rfl, there⟩]
  rw [renewed, mem_listed, ← members]
  constructor
  · rintro ⟨_, same, soon, member⟩
    cases same
    exact ⟨soon, member⟩
  · rintro ⟨soon, member⟩
    exact ⟨_, rfl, soon, member⟩

/-- **A departure** takes one off the roll and renews nothing. -/
theorem mem_listed_depart (before : time ≤ now) :
    who ∈ listed now (strike time other cell) ↔ who ≠ other ∧ who ∈ listed now cell := by
  constructor
  · intro member
    obtain ⟨left, struck, there, inside⟩ := mem_listed.mp member
    unfold strike at struck
    cases found : current time cell with
    | none =>
      rw [found] at struck
      cases struck
    | some roll =>
      obtain ⟨rfl, -⟩ := current_eq_some.mp found
      simp only [found] at struck
      split at struck
      · cases struck
        obtain ⟨apart, stayed⟩ := Finset.mem_erase.mp inside
        exact ⟨apart, mem_listed.mpr ⟨roll, rfl, there, stayed⟩⟩
      · cases struck
  · rintro ⟨apart, member⟩
    obtain ⟨roll, rfl, there, inside⟩ := mem_listed.mp member
    have stayed : who ∈ roll.members.erase other := Finset.mem_erase.mpr ⟨apart, inside⟩
    have struck : strike time other (some roll) =
        some ⟨roll.members.erase other, ⟨who, stayed⟩, roll.deadline⟩ := by
      simp only [strike, current_eq_some.mpr ⟨rfl, there.earlier before⟩]
      exact dif_pos ⟨who, stayed⟩
    rw [struck]
    exact mem_listed.mpr ⟨_, rfl, there, stayed⟩

end Roll

/-! ### Visits -/

/-- Somebody arrives or leaves at a time. -/
inductive Visit (μ : Type*)
  | arrive (who : μ) (time : Nat)
  | depart (who : μ) (time : Nat)

section Visits

variable {μ : Type*} [DecidableEq μ]

def Visit.time : Visit μ → Nat
  | .arrive _ time | .depart _ time => time

/-- The roll after a visit. -/
def Visit.enroll (lifetime : Nat) (cell : Option (Roll μ)) : Visit μ → Option (Roll μ)
  | .arrive who time => Roll.renew time lifetime (Roll.enter time who cell)
  | .depart who time => Roll.strike time who cell

/-- At every moment after the first one, up to the last one, somebody had arrived within the lifetime
before it. -/
def Attended (lifetime : Nat) (visits : List (Visit μ)) (first last : Nat) : Prop :=
  ∀ moment, first < moment → moment ≤ last →
    ∃ who time, .arrive who time ∈ visits ∧ time < moment ∧ moment < time + lifetime

/-- Somebody arrived and did not leave since, and the roll was attended all the time. -/
def Stays (lifetime : Nat) (visits : List (Visit μ)) (who : μ) (now : Nat) : Prop :=
  ∃ before time after, visits = before ++ .arrive who time :: after ∧
    (∀ later, .depart who later ∉ after) ∧
    Attended lifetime (.arrive who time :: after) time now

variable {lifetime now : Nat} {visits : List (Visit μ)} {who other : μ} {time : Nat}

/-- A split of a history with one more visit: it is the last one, or in the rest. -/
theorem append_eq_split {α : Type*} {list before after : List α} {last visit : α}
    (split : list ++ [last] = before ++ visit :: after) :
    (after = [] ∧ last = visit ∧ list = before) ∨
      ∃ rest, after = rest ++ [last] ∧ list = before ++ visit :: rest := by
  rcases List.eq_nil_or_concat after with rfl | ⟨rest, final, rfl⟩
  · obtain ⟨same, last⟩ := List.append_inj' split rfl
    exact .inl ⟨rfl, List.singleton_inj.mp last, same⟩
  · have shifted : list ++ [last] = (before ++ visit :: rest) ++ [final] := by
      rw [split, List.concat_eq_append, List.append_assoc, List.cons_append]
    obtain ⟨same, last⟩ := List.append_inj' shifted rfl
    cases last
    exact .inr ⟨rest, List.concat_eq_append, same⟩

omit [DecidableEq μ] in
/-- A departure is no arrival. -/
theorem attended_depart {first last : Nat} : Attended lifetime (visits ++ [.depart other time]) first
    last ↔ Attended lifetime visits first last := by
  constructor
  · intro attended moment later upTo
    obtain ⟨who, arrival, member, within⟩ := attended moment later upTo
    rcases List.mem_append.mp member with old | new
    · exact ⟨who, arrival, old, within⟩
    · cases List.mem_singleton.mp new
  · intro attended moment later upTo
    obtain ⟨who, arrival, member, within⟩ := attended moment later upTo
    exact ⟨who, arrival, List.mem_append_left _ member, within⟩

omit [DecidableEq μ] in
/-- The last arrival attends the roll for a lifetime, and the others did before. -/
theorem attended_arrive {first : Nat} (positive : 0 < lifetime)
    (ordered : ∀ visit ∈ visits, visit.time ≤ time) (started : first ≤ time) (reached : time ≤ now) :
    Attended lifetime (visits ++ [.arrive other time]) first now ↔
      now < time + lifetime ∧ Attended lifetime visits first time := by
  constructor
  · intro attended
    constructor
    · rcases reached.eq_or_lt with same | later
      · omega
      · obtain ⟨who, arrival, member, -, within⟩ := attended now (started.trans_lt later) le_rfl
        rcases List.mem_append.mp member with old | new
        · have before : arrival ≤ time := ordered _ old
          omega
        · cases List.mem_singleton.mp new
          exact within
    · intro moment later upTo
      obtain ⟨who, arrival, member, before, within⟩ := attended moment later (upTo.trans reached)
      rcases List.mem_append.mp member with old | new
      · exact ⟨who, arrival, old, before, within⟩
      · cases List.mem_singleton.mp new
        exact absurd upTo (not_le.mpr before)
  · rintro ⟨soon, attended⟩ moment later upTo
    rcases le_or_gt moment time with early | late
    · obtain ⟨who, arrival, member, within⟩ := attended moment later early
      exact ⟨who, arrival, List.mem_append_left _ member, within⟩
    · exact ⟨other, time, List.mem_append_right _ (List.mem_singleton_self _), late,
        upTo.trans_lt soon⟩

omit [DecidableEq μ] in
/-- One more departure: everybody else stays. -/
theorem stays_depart : Stays lifetime (visits ++ [.depart other time]) who now ↔
    who ≠ other ∧ Stays lifetime visits who now := by
  constructor
  · rintro ⟨before, arrival, after, split, stayed, attended⟩
    rcases append_eq_split split with ⟨-, same, -⟩ | ⟨rest, rfl, rfl⟩
    · cases same
    · refine ⟨?_, before, arrival, rest, rfl, ?_, ?_⟩
      · rintro rfl
        exact stayed time (List.mem_append_right _ (List.mem_singleton_self _))
      · exact fun later member => stayed later (List.mem_append_left _ member)
      · rw [← List.cons_append] at attended
        exact attended_depart.mp attended
  · rintro ⟨apart, before, arrival, after, rfl, stayed, attended⟩
    refine ⟨before, arrival, after ++ [.depart other time], by simp, ?_, ?_⟩
    · intro later member
      rcases List.mem_append.mp member with old | new
      · exact stayed later old
      · cases List.mem_singleton.mp new
        exact apart rfl
    · rw [← List.cons_append]
      exact attended_depart.mpr attended

omit [DecidableEq μ] in
/-- One more arrival, the last one of all: whoever arrives stays, and so do those who are there. -/
theorem stays_arrive (positive : 0 < lifetime) (ordered : ∀ visit ∈ visits, visit.time ≤ time)
    (reached : time ≤ now) : Stays lifetime (visits ++ [.arrive other time]) who now ↔
      now < time + lifetime ∧ (who = other ∨ Stays lifetime visits who time) := by
  constructor
  · rintro ⟨before, arrival, after, split, stayed, attended⟩
    rcases append_eq_split split with ⟨rfl, same, rfl⟩ | ⟨rest, rfl, rfl⟩
    · cases same
      have none : ∀ visit ∈ ([] : List (Visit μ)), visit.time ≤ time := fun _ member =>
        absurd member List.not_mem_nil
      have soon := (attended_arrive positive none le_rfl reached).mp attended
      exact ⟨soon.1, .inl rfl⟩
    · have since : ∀ visit ∈ .arrive who arrival :: rest, visit.time ≤ time := fun visit member =>
        ordered visit (List.mem_append_right _ member)
      rw [← List.cons_append] at attended
      obtain ⟨soon, earlier⟩ :=
        (attended_arrive positive since (since _ List.mem_cons_self) reached).mp attended
      refine ⟨soon, .inr ⟨before, arrival, rest, rfl, ?_, earlier⟩⟩
      exact fun later member => stayed later (List.mem_append_left _ member)
  · rintro ⟨soon, rfl | ⟨before, arrival, after, rfl, stayed, attended⟩⟩
    · refine ⟨visits, time, [], rfl, fun _ none => absurd none List.not_mem_nil, ?_⟩
      exact fun moment later upTo => ⟨who, time, List.mem_cons_self, later, upTo.trans_lt soon⟩
    · have since : ∀ visit ∈ .arrive who arrival :: after, visit.time ≤ time := fun visit member =>
        ordered visit (List.mem_append_right _ member)
      refine ⟨before, arrival, after ++ [.arrive other time], by simp, ?_, ?_⟩
      · intro later member
        rcases List.mem_append.mp member with old | new
        · exact stayed later old
        · cases List.mem_singleton.mp new
      · rw [← List.cons_append]
        exact (attended_arrive positive since (since _ List.mem_cons_self) reached).mpr
          ⟨soon, attended⟩

/-- **Who is on the roll** after a run of visits. -/
theorem listed_iff (positive : 0 < lifetime)
    (ordered : visits.Pairwise fun first second => first.time ≤ second.time)
    (reached : ∀ visit ∈ visits, visit.time ≤ now) :
    who ∈ Roll.listed now (run (Visit.enroll lifetime) none visits) ↔
      Stays lifetime visits who now := by
  induction visits using List.reverseRecOn generalizing now with
  | nil =>
    constructor
    · intro member
      obtain ⟨_, none, -⟩ := Roll.mem_listed.mp member
      cases none
    · rintro ⟨before, time, after, split, -⟩
      cases before <;> cases split
  | append_singleton visits visit ih =>
    obtain ⟨earlier, -, last⟩ := List.pairwise_append.mp ordered
    have latest : visit.time ≤ now :=
      reached visit (List.mem_append_right _ (List.mem_singleton_self _))
    have before : ∀ other ∈ visits, other.time ≤ visit.time := fun other member =>
      last other member visit (List.mem_singleton_self _)
    rw [run_concat]
    cases visit with
    | arrive other time =>
      have stays : Stays lifetime (visits ++ [.arrive other time]) who now ↔
          now < time + lifetime ∧ (who = other ∨ Stays lifetime visits who time) :=
        stays_arrive positive before latest
      have there : who ∈ Roll.listed time (run (Visit.enroll lifetime) none visits) ↔
          Stays lifetime visits who time := ih earlier before
      rw [stays, ← there]
      exact Roll.mem_listed_arrive
    | depart other time =>
      rw [stays_depart, ← ih earlier fun other member => (before other member).trans latest]
      exact Roll.mem_listed_depart latest

end Visits

end ScreenSync.Foundation
