/-
**Admission in two steps.**

A call checks what it sees of a total and decides on it; later it adds the charge of its decision to
the total, as it is by then. Each of the two steps is atomic, a call as a whole is not. Two calls,
named by a `Bool`, share one total.

* `proceed` — the next step of one of the calls; `alone` — the total after a call that nobody
  interrupts.
* `InOrder gate m i` — what the calls leave behind and answer when `i` runs before the other.
* `Apart` — the step does not check while the other call has checked and not yet charged.
* `run_classified` — a run whose steps are apart goes through the states of one of the two orders,
  any other run has both calls decide on the first total.
* `inOrder_iff` — a finished run looks like one of the orders exactly if its steps are apart, or if
  one of the calls decides on the first total as it does after the other one.
-/

import Mathlib.Algebra.Group.Basic
import Mathlib.Logic.Function.Basic
import ScreenSync.Foundation.Run

namespace ScreenSync.Foundation

/-- What the two calls see of the total, how each decides on it, and what a decision charges. -/
structure Gate (M ν β : Type*) where
  view : M → ν
  verdict : Bool → ν → β
  charge : Bool → β → M

/-- How far a call has come. -/
inductive Stage (ν β : Type*)
  | ready
  | checked (seen : ν)
  | charged (answer : β)

/-- The total, and how far the calls have come. -/
structure Pair (M ν β : Type*) where
  total : M
  stage : Bool → Stage ν β

section Admission

variable {M ν β : Type*} [AddCommMonoid M] (gate : Gate M ν β)

/-- Before any of the calls has started. -/
def Pair.start (m : M) : Pair M ν β := ⟨m, fun _ => .ready⟩

/-- The next step of a call. -/
def proceed (pair : Pair M ν β) (i : Bool) : Pair M ν β :=
  match pair.stage i with
  | .ready => { pair with stage := Function.update pair.stage i (.checked (gate.view pair.total)) }
  | .checked seen =>
    { total := pair.total + gate.charge i (gate.verdict i seen)
      stage := Function.update pair.stage i (.charged (gate.verdict i seen)) }
  | .charged _ => pair

/-- What call `i` decides when it sees this total. -/
def Gate.decision (i : Bool) (m : M) : β := gate.verdict i (gate.view m)

/-- The total after call `i` has run by itself. -/
def Gate.alone (i : Bool) (m : M) : M := m + gate.charge i (gate.decision i m)

/-- What is left behind when call `i` runs before the other. -/
structure InOrder (m : M) (i : Bool) (pair : Pair M ν β) : Prop where
  total : pair.total = gate.alone (!i) (gate.alone i m)
  first : pair.stage i = .charged (gate.decision i m)
  second : pair.stage (!i) = .charged (gate.decision (!i) (gate.alone i m))

/-- The step does not check between the other call's check and its charge. -/
def Apart (pair : Pair M ν β) (i : Bool) : Prop :=
  pair.stage i = .ready → ∀ seen, pair.stage (!i) ≠ .checked seen

/-- The calls have both charged. -/
def Pair.Finished (pair : Pair M ν β) : Prop := ∀ i, ∃ answer, pair.stage i = .charged answer

/-! ### The states of a run -/

/-- The stages of call `i` and of the other. -/
def Pair.of (i : Bool) (total : M) (mine other : Stage ν β) : Pair M ν β :=
  ⟨total, fun j => if j = i then mine else other⟩

variable {gate} {m : M} {i : Bool} {mine other : Stage ν β}

omit [AddCommMonoid M] in
@[simp] theorem Pair.of_stage : (Pair.of i m mine other).stage i = mine := if_pos rfl

omit [AddCommMonoid M] in
@[simp] theorem Pair.of_stage_not : (Pair.of i m mine other).stage (!i) = other :=
  if_neg (by cases i <;> decide)

omit [AddCommMonoid M] in
theorem Pair.of_not : Pair.of (!i) m other mine = Pair.of i m mine other := by
  refine congrArg (Pair.mk m) (funext fun j => ?_)
  cases i <;> cases j <;> rfl

omit [AddCommMonoid M] in
theorem Pair.start_of (i : Bool) : Pair.start m = Pair.of i m (.ready : Stage ν β) .ready :=
  congrArg (Pair.mk m) (funext fun _ => (ite_self _).symm)

omit [AddCommMonoid M] in
theorem Pair.of_update (stage : Stage ν β) :
    Function.update (Pair.of i m mine other).stage i stage = (Pair.of i m stage other).stage := by
  funext j
  rw [Function.update_apply]
  by_cases same : j = i <;> simp [Pair.of, same]

@[simp] theorem proceed_ready :
    proceed gate (Pair.of i m .ready other) i = Pair.of i m (.checked (gate.view m)) other := by
  rw [proceed, Pair.of_stage]
  exact congrArg (Pair.mk m) (Pair.of_update _)

@[simp] theorem proceed_checked {seen : ν} :
    proceed gate (Pair.of i m (.checked seen) other) i =
      Pair.of i (m + gate.charge i (gate.verdict i seen)) (.charged (gate.verdict i seen))
        other := by
  rw [proceed, Pair.of_stage]
  exact congrArg (Pair.mk _) (Pair.of_update _)

@[simp] theorem proceed_charged {answer : β} :
    proceed gate (Pair.of i m (.charged answer) other) i = Pair.of i m (.charged answer) other := by
  rw [proceed, Pair.of_stage]

/-- The states of a run in which call `i` is through before the other starts. -/
inductive Serial (gate : Gate M ν β) (m : M) (i : Bool) : Pair M ν β → Prop
  | none : Serial gate m i (.of i m .ready .ready)
  | checked : Serial gate m i (.of i m (.checked (gate.view m)) .ready)
  | charged : Serial gate m i (.of i (gate.alone i m) (.charged (gate.decision i m)) .ready)
  | second : Serial gate m i (.of i (gate.alone i m) (.charged (gate.decision i m))
      (.checked (gate.view (gate.alone i m))))
  | both : Serial gate m i (.of i (gate.alone (!i) (gate.alone i m))
      (.charged (gate.decision i m)) (.charged (gate.decision (!i) (gate.alone i m))))

/-- The states of a run in which both calls see the first total; `i` is the first to charge. -/
inductive Raced (gate : Gate M ν β) (m : M) (i : Bool) : Pair M ν β → Prop
  | none : Raced gate m i (.of i m (.checked (gate.view m)) (.checked (gate.view m)))
  | charged : Raced gate m i (.of i (gate.alone i m) (.charged (gate.decision i m))
      (.checked (gate.view m)))
  | both : Raced gate m i (.of i (gate.alone i m + gate.charge (!i) (gate.decision (!i) m))
      (.charged (gate.decision i m)) (.charged (gate.decision (!i) m)))

theorem Stage.eq_or_eq_not (i j : Bool) : j = i ∨ j = !i := by
  cases i <;> cases j <;> decide

/-- The other call's step. -/
theorem proceed_not_ready :
    proceed gate (Pair.of i m mine .ready) (!i) = Pair.of i m mine (.checked (gate.view m)) := by
  rw [← Pair.of_not, proceed_ready, Pair.of_not]

theorem proceed_not_checked {seen : ν} :
    proceed gate (Pair.of i m mine (.checked seen)) (!i) =
      Pair.of i (m + gate.charge (!i) (gate.verdict (!i) seen)) mine
        (.charged (gate.verdict (!i) seen)) := by
  rw [← Pair.of_not, proceed_checked, Pair.of_not]

theorem proceed_not_charged {answer : β} :
    proceed gate (Pair.of i m mine (.charged answer)) (!i) =
      Pair.of i m mine (.charged answer) := by
  rw [← Pair.of_not, proceed_charged]

/-- **A step that is apart** stays within the orders. -/
theorem Serial.proceed_of_apart {pair : Pair M ν β} (serial : Serial gate m i pair) {j : Bool}
    (apart : Apart pair j) : ∃ k, Serial gate m k (proceed gate pair j) := by
  obtain rfl | rfl := Stage.eq_or_eq_not i j
  · refine ⟨j, ?_⟩
    cases serial with
    | none => rw [proceed_ready]; exact .checked
    | checked => rw [proceed_checked]; exact .charged
    | charged => rw [proceed_charged]; exact .charged
    | second => rw [proceed_charged]; exact .second
    | both => rw [proceed_charged]; exact .both
  · cases serial with
    | none =>
      refine ⟨!i, ?_⟩
      rw [← Pair.of_not, proceed_ready]
      exact .checked
    | checked => exact absurd (by simp) (apart Pair.of_stage_not (gate.view m))
    | charged => exact ⟨i, by rw [proceed_not_ready]; exact .second⟩
    | second => exact ⟨i, by rw [proceed_not_checked]; exact .both⟩
    | both => exact ⟨i, by rw [proceed_not_charged]; exact .both⟩

/-- **A step that is not apart** has both calls see the first total. -/
theorem Serial.proceed_of_not_apart {pair : Pair M ν β} (serial : Serial gate m i pair) {j : Bool}
    (late : ¬ Apart pair j) : Raced gate m i (proceed gate pair j) := by
  simp only [Apart, not_forall, ne_eq, not_not] at late
  obtain ⟨ready, seen, checked⟩ := late
  obtain rfl | rfl := Stage.eq_or_eq_not i j
  · cases serial <;> simp at ready checked
  · rw [Bool.not_not] at checked
    cases serial with
    | checked => rw [proceed_not_ready]; exact .none
    | _ => simp at ready checked

/-- Once both calls have seen the first total, this cannot be undone. -/
theorem Raced.proceed {pair : Pair M ν β} (raced : Raced gate m i pair) (j : Bool) :
    ∃ k, Raced gate m k (proceed gate pair j) := by
  obtain rfl | rfl := Stage.eq_or_eq_not i j
  · refine ⟨j, ?_⟩
    cases raced with
    | none => rw [proceed_checked]; exact .charged
    | charged => rw [proceed_charged]; exact .charged
    | both => rw [proceed_charged]; exact .both
  · cases raced with
    | none =>
      refine ⟨!i, ?_⟩
      rw [← Pair.of_not, proceed_checked]
      exact .charged
    | charged => exact ⟨i, by rw [proceed_not_checked]; exact .both⟩
    | both => exact ⟨i, by rw [proceed_not_charged]; exact .both⟩

/-- Where the run so far has led, by whether its steps were apart. -/
def Classified (gate : Gate M ν β) (m : M) (past : List Bool) (pair : Pair M ν β) : Prop :=
  Meets (proceed gate) Apart (.start m) past ∧ (∃ i, Serial gate m i pair) ∨
    ¬ Meets (proceed gate) Apart (.start m) past ∧ ∃ i, Raced gate m i pair

/-- **The run rule.** -/
theorem run_classified (gate : Gate M ν β) (m : M) (schedule : List Bool) :
    Classified gate m schedule (run (proceed gate) (.start m) schedule) := by
  have start : Classified gate m [] (.start m) := by
    refine .inl ⟨.nil _ _, true, ?_⟩
    rw [Pair.start_of true]
    exact .none
  have kept : ∀ past j, Classified gate m past (run (proceed gate) (.start m) past) →
      Classified gate m (past ++ [j]) (proceed gate (run (proceed gate) (.start m) past) j) := by
    rintro past j (⟨meets, i, serial⟩ | ⟨overlap, i, raced⟩)
    · by_cases apart : Apart (run (proceed gate) (.start m) past) j
      · exact .inl ⟨meets_concat.mpr ⟨meets, apart⟩, serial.proceed_of_apart apart⟩
      · exact .inr ⟨fun all => apart (meets_concat.mp all).2, i, serial.proceed_of_not_apart apart⟩
    · exact .inr ⟨fun all => overlap (meets_concat.mp all).1, raced.proceed j⟩
  exact run_history (proceed gate) start kept schedule

/-! ### Finished runs -/

theorem Serial.inOrder {pair : Pair M ν β} (serial : Serial gate m i pair)
    (finished : pair.Finished) : InOrder gate m i pair := by
  obtain ⟨first, mine⟩ := finished i
  obtain ⟨second, others⟩ := finished (!i)
  cases serial with
  | both => exact ⟨rfl, Pair.of_stage, Pair.of_stage_not⟩
  | _ => simp at mine others

/-- What a finished run leaves behind if both calls have seen the first total. -/
structure OnFirst (gate : Gate M ν β) (m : M) (pair : Pair M ν β) : Prop where
  total : ∀ i, pair.total = gate.alone i m + gate.charge (!i) (gate.decision (!i) m)
  stage : ∀ i, pair.stage i = .charged (gate.decision i m)

theorem Raced.onFirst {pair : Pair M ν β} (raced : Raced gate m i pair)
    (finished : pair.Finished) : OnFirst gate m pair := by
  obtain ⟨second, others⟩ := finished (!i)
  cases raced with
  | both =>
    constructor
    · intro j
      obtain rfl | rfl := Stage.eq_or_eq_not i j
      · rfl
      · -- the charges commute
        rw [Bool.not_not]
        exact add_right_comm ..
    · intro j
      obtain rfl | rfl := Stage.eq_or_eq_not i j
      · exact Pair.of_stage
      · exact Pair.of_stage_not
  | _ => simp at others

theorem OnFirst.inOrder_iff {pair : Pair M ν β} (first : OnFirst gate m pair) (i : Bool) :
    InOrder gate m i pair ↔
      gate.decision (!i) (gate.alone i m) = gate.decision (!i) m := by
  constructor
  · intro order
    exact (Stage.charged.inj ((first.stage (!i)).symm.trans order.second)).symm
  · intro same
    refine ⟨?_, first.stage i, ?_⟩
    · rw [first.total i, ← same]
      rfl
    · rw [first.stage (!i), same]

/-- **Finished runs**: what the calls leave behind and answer is that of one of the two orders,
exactly if their steps are apart, or if one of them decides on the first total as it does after the
other one. -/
theorem inOrder_iff (gate : Gate M ν β) (m : M) (schedule : List Bool)
    (finished : (run (proceed gate) (.start m) schedule).Finished) :
    (∃ i, InOrder gate m i (run (proceed gate) (.start m) schedule)) ↔
      Meets (proceed gate) Apart (.start m) schedule ∨
        ∃ i, gate.decision (!i) (gate.alone i m) = gate.decision (!i) m := by
  rcases run_classified gate m schedule with ⟨meets, i, serial⟩ | ⟨overlap, i, raced⟩
  · exact iff_of_true ⟨i, serial.inOrder finished⟩ (.inl meets)
  · rw [or_iff_right overlap]
    exact exists_congr fun j => (raced.onFirst finished).inOrder_iff j

end Admission

end ScreenSync.Foundation
