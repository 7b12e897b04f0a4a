/-
**Runs of a step function.**

A component that serves one operation after another is a step function `step : σ → α → σ`, and a
run is its left fold over a finite sequence of operations. The same definition covers concurrent
calls: there an operation is the name of the call that the scheduler lets take its next atomic step.

* `run_invariant` — what every step keeps holds after every run.
* `run_history` — the same for a statement about the state and the operations so far.
* `Meets ok s ops` — every operation of the run meets `ok` in the state it finds.
  `run_invariant_of_meets` is the invariant rule under such a condition.
* `Throughout holds s ops` — `holds` in every state the run reaches. When `ok` says exactly when a
  step keeps `holds`, the two are the same thing (`throughout_iff_meets`).
* `run_eq_iff_meets` — a measure that no step lowers is the same after a run as before it exactly if
  no step raises it.
* `run_simulates` — a relation between two machines that every step keeps relates their runs.
* `watched_iff` — what is seen of a run, whenever it is looked at, is ordered by a preorder exactly
  if every step goes up.
* `serve` — the run of a step that answers and may raise; `serve_total` builds it out of a step that
  answers in every state of an invariant, as a chain of answered requests (`Served`).
-/

import Mathlib.Data.List.Induction
import Mathlib.Order.Basic
import Mathlib.Tactic.Common

namespace ScreenSync.Foundation

section Runs

variable {σ α : Type*} (step : σ → α → σ)

/-- The state after a finite sequence of operations. -/
def run (s : σ) (ops : List α) : σ := ops.foldl step s

@[simp] theorem run_nil (s : σ) : run step s [] = s := rfl

theorem run_cons (s : σ) (op : α) (ops : List α) :
    run step s (op :: ops) = run step (step s op) ops := rfl

theorem run_append (s : σ) (first second : List α) :
    run step s (first ++ second) = run step (run step s first) second :=
  List.foldl_append

theorem run_concat (s : σ) (ops : List α) (op : α) :
    run step s (ops ++ [op]) = step (run step s ops) op := by
  rw [run_append]
  rfl

/-- **The invariant rule.** -/
theorem run_invariant {holds : σ → Prop} (kept : ∀ s op, holds s → holds (step s op)) {s : σ}
    (start : holds s) (ops : List α) : holds (run step s ops) := by
  induction ops generalizing s with
  | nil => exact start
  | cons op ops ih => exact ih (kept s op start)

/-- **The history rule**: a statement about the operations so far and the state they lead to. -/
theorem run_history {holds : List α → σ → Prop} {s : σ} (start : holds [] s)
    (kept : ∀ past op, holds past (run step s past) →
      holds (past ++ [op]) (step (run step s past) op)) (ops : List α) :
    holds ops (run step s ops) := by
  induction ops using List.reverseRecOn with
  | nil => exact start
  | append_singleton past op ih =>
    rw [run_concat]
    exact kept past op ih

/-! ### Runs whose steps meet a condition -/

/-- Every operation of the run meets `ok` in the state it finds. -/
def Meets (ok : σ → α → Prop) (s : σ) (ops : List α) : Prop :=
  ∀ before op after, ops = before ++ op :: after → ok (run step s before) op

/-- `holds` in every state the run reaches, the first and the last included. -/
def Throughout (holds : σ → Prop) (s : σ) (ops : List α) : Prop :=
  ∀ before after, ops = before ++ after → holds (run step s before)

variable {step}

theorem Meets.nil (ok : σ → α → Prop) (s : σ) : Meets step ok s [] := by
  intro before op after split
  cases before <;> cases split

theorem meets_cons {ok : σ → α → Prop} {s : σ} {op : α} {ops : List α} :
    Meets step ok s (op :: ops) ↔ ok s op ∧ Meets step ok (step s op) ops := by
  constructor
  · intro meets
    refine ⟨meets [] op ops rfl, fun before next after split => ?_⟩
    exact meets (op :: before) next after (by rw [split]; rfl)
  · rintro ⟨head, tail⟩ before next after split
    cases before with
    | nil =>
      cases split
      exact head
    | cons first before =>
      cases split
      exact tail before next after rfl

theorem meets_concat {ok : σ → α → Prop} {s : σ} {ops : List α} {op : α} :
    Meets step ok s (ops ++ [op]) ↔ Meets step ok s ops ∧ ok (run step s ops) op := by
  induction ops generalizing s with
  | nil => simp [meets_cons, Meets.nil]
  | cons first ops ih => rw [List.cons_append, meets_cons, meets_cons, ih, run_cons, and_assoc]

theorem Meets.append_left {ok : σ → α → Prop} {s : σ} {first second : List α}
    (meets : Meets step ok s (first ++ second)) : Meets step ok s first := by
  intro before op after split
  refine meets before op (after ++ second) ?_
  rw [split, List.append_assoc]
  rfl

theorem Meets.append_right {ok : σ → α → Prop} {s : σ} {first second : List α}
    (meets : Meets step ok s (first ++ second)) : Meets step ok (run step s first) second := by
  intro before op after split
  rw [← run_append]
  exact meets (first ++ before) op after (by rw [split, List.append_assoc])

/-- **The invariant rule under a condition on the steps.** -/
theorem run_invariant_of_meets {ok : σ → α → Prop} {holds : σ → Prop}
    (kept : ∀ s op, holds s → ok s op → holds (step s op)) {s : σ} {ops : List α} (start : holds s)
    (meets : Meets step ok s ops) : holds (run step s ops) := by
  induction ops generalizing s with
  | nil => exact start
  | cons op ops ih =>
    obtain ⟨head, tail⟩ := meets_cons.mp meets
    exact ih (kept s op start head) tail

/-- Two conditions that agree in every state of an invariant are met by the same runs. -/
theorem meets_congr {ok other : σ → α → Prop} {inv : σ → Prop}
    (kept : ∀ s op, inv s → inv (step s op)) (same : ∀ s op, inv s → (ok s op ↔ other s op)) {s : σ}
    (start : inv s) (ops : List α) : Meets step ok s ops ↔ Meets step other s ops := by
  induction ops generalizing s with
  | nil => exact ⟨fun _ => .nil _ _, fun _ => .nil _ _⟩
  | cons op ops ih => rw [meets_cons, meets_cons, same s op start, ih (kept s op start)]

theorem throughout_nil {holds : σ → Prop} {s : σ} : Throughout step holds s [] ↔ holds s := by
  constructor
  · intro always
    exact always [] [] rfl
  · intro start before after split
    rw [(List.append_eq_nil_iff.mp split.symm).1]
    exact start

theorem throughout_cons {holds : σ → Prop} {s : σ} {op : α} {ops : List α} :
    Throughout step holds s (op :: ops) ↔ holds s ∧ Throughout step holds (step s op) ops := by
  constructor
  · intro always
    refine ⟨always [] _ rfl, fun before after split => ?_⟩
    exact always (op :: before) after (by rw [split]; rfl)
  · rintro ⟨start, tail⟩ before after split
    cases before with
    | nil => exact start
    | cons first before =>
      cases split
      exact tail before after rfl

/-- **A property and the exact condition for one step to keep it.** If `ok` says, in every state of
the invariant that has the property, exactly when the step keeps the property, then a run has the
property throughout exactly when all its steps meet `ok`. -/
theorem throughout_iff_meets {ok : σ → α → Prop} {holds : σ → Prop} (inv : σ → Prop)
    (kept : ∀ s op, inv s → inv (step s op))
    (exactly : ∀ s op, inv s → holds s → (holds (step s op) ↔ ok s op)) {s : σ} (init : inv s)
    (start : holds s) (ops : List α) : Throughout step holds s ops ↔ Meets step ok s ops := by
  induction ops generalizing s with
  | nil => exact ⟨fun _ => .nil _ _, fun _ => throughout_nil.mpr start⟩
  | cons op ops ih =>
    rw [throughout_cons, meets_cons]
    constructor
    · rintro ⟨-, later⟩
      have next : holds (step s op) := later [] ops rfl
      exact ⟨(exactly s op init start).mp next, (ih (kept s op init) next).mp later⟩
    · rintro ⟨head, tail⟩
      have next : holds (step s op) := (exactly s op init start).mpr head
      exact ⟨start, (ih (kept s op init) next).mpr tail⟩

/-- **A measure that never falls** stands still over a run exactly if it stands still at each
step. -/
theorem run_eq_iff_meets {M : Type*} [PartialOrder M] (measure : σ → M) (inv : σ → Prop)
    (kept : ∀ s op, inv s → inv (step s op))
    (grows : ∀ s op, inv s → measure s ≤ measure (step s op)) {s : σ} (init : inv s)
    (ops : List α) :
    measure s ≤ measure (run step s ops) ∧
      (measure (run step s ops) = measure s ↔
        Meets step (fun s op => measure (step s op) = measure s) s ops) := by
  induction ops generalizing s with
  | nil => exact ⟨le_rfl, fun _ => .nil _ _, fun _ => rfl⟩
  | cons op ops ih =>
    obtain ⟨later, exactly⟩ := ih (kept s op init)
    have first := grows s op init
    rw [run_cons, meets_cons, ← exactly]
    refine ⟨first.trans later, fun same => ?_, fun both => both.2.trans both.1⟩
    have still : measure (step s op) = measure s := le_antisymm (later.trans same.le) first
    exact ⟨still, same.trans still.symm⟩

/-! ### Simulation -/

/-- **Simulation of runs**: what relates two machines step by step relates their runs. -/
theorem run_simulates {τ : Type*} {other : τ → α → τ} (rel : σ → τ → Prop) (valid : α → Prop)
    (kept : ∀ s t op, rel s t → valid op → rel (step s op) (other t op)) {s : σ} {t : τ}
    (start : rel s t) {ops : List α} (all : ∀ op ∈ ops, valid op) :
    rel (run step s ops) (run other t ops) := by
  induction ops generalizing s t with
  | nil => exact start
  | cons op ops ih =>
    obtain ⟨first, rest⟩ := List.forall_mem_cons.mp all
    exact ih (kept s t op start first) rest

end Runs

/-! ### Runs that are looked at -/

section Watch

variable {σ α β : Type*} {step : σ → α → σ} {look : σ → β}

/-- An operation, or a look at the state. -/
inductive Watched (α : Type*)
  | call (op : α)
  | look

/-- The operations of a run that is looked at in between. -/
def Watched.ops (watched : List (Watched α)) : List α :=
  watched.filterMap fun
    | .call op => some op
    | .look => none

variable (step look) in
/-- One step, with what was seen so far. -/
def watch (now : σ × List β) : Watched α → σ × List β
  | .call op => (step now.1 op, now.2)
  | .look => (now.1, now.2 ++ [look now.1])

/-- Operations that nobody looks at. -/
theorem run_watch_map (now : σ × List β) (ops : List α) :
    run (watch step look) now (ops.map .call) = (run step now.1 ops, now.2) := by
  induction ops generalizing now with
  | nil => rfl
  | cons op ops ih => rw [List.map_cons, run_cons, ih, run_cons, watch]

theorem Watched.ops_map (ops : List α) : Watched.ops (ops.map .call) = ops := by
  rw [Watched.ops, List.filterMap_map]
  exact List.filterMap_some

/-- **What is seen of a run** is ordered, whenever it is looked at, exactly if every step goes up.
-/
theorem watched_iff {rel : β → β → Prop} (refl : ∀ b, rel b b)
    (trans : ∀ a b c, rel a b → rel b c → rel a c) (s : σ) (ops : List α) :
    (∀ watched, Watched.ops watched = ops →
        (run (watch step look) (s, []) watched).2.Pairwise rel) ↔
      Meets step (fun s op => rel (look s) (look (step s op))) s ops := by
  constructor
  · rintro ordered before op after rfl
    -- look before the step, and after it
    have seen := ordered (before.map .call ++ .look :: .call op :: .look :: after.map .call) (by
      have same : ∀ ops : List α, Watched.ops (ops.map .call) = ops := Watched.ops_map
      simp only [Watched.ops, List.filterMap_append, List.filterMap_cons] at same ⊢
      rw [same, same])
    rw [run_append, run_watch_map, run_cons, run_cons, run_cons, run_watch_map] at seen
    exact (List.pairwise_pair.mp seen)
  · rintro up watched rfl
    have general : ∀ now : σ × List β, now.2.Pairwise rel → (∀ b ∈ now.2, rel b (look now.1)) →
        Meets step (fun s op => rel (look s) (look (step s op))) now.1 (Watched.ops watched) →
          (run (watch step look) now watched).2.Pairwise rel := by
      clear up
      induction watched with
      | nil => exact fun now ordered _ _ => ordered
      | cons first rest ih =>
        intro now ordered below up
        cases first with
        | call op =>
          obtain ⟨head, tail⟩ := meets_cons.mp up
          exact ih _ ordered (fun b member => trans _ _ _ (below b member) head) tail
        | look =>
          refine ih _ ?_ ?_ up
          · refine List.pairwise_append.mpr ⟨ordered, List.pairwise_singleton _ _, ?_⟩
            intro b member c single
            rw [List.mem_singleton.mp single]
            exact below b member
          · intro b member
            rcases List.mem_append.mp member with old | new
            · exact below b old
            · rw [List.mem_singleton.mp new]
              exact refl _
    exact general (s, []) .nil nofun up

end Watch

/-! ### Steps that answer, or raise -/

section Serve

variable {σ α β ε : Type*} (step : σ → α → Except ε (β × σ))

/-- Serve the requests one after another and collect the answers; the first one that raises ends
the run. -/
def serve : σ → List α → Except ε (List β × σ)
  | s, [] => .ok ([], s)
  | s, request :: later =>
    match step s request with
    | .error raised => .error raised
    | .ok (answer, next) =>
      match serve next later with
      | .error raised => .error raised
      | .ok (answers, final) => .ok (answer :: answers, final)

/-- A chain of answered requests, each step related by `rel`. -/
inductive Served (rel : σ → α → β → σ → Prop) : σ → List α → List β → σ → Prop
  | nil (s : σ) : Served rel s [] [] s
  | cons {s next final : σ} {request : α} {answer : β} {later : List α} {answers : List β} :
      rel s request answer next → Served rel next later answers final →
      Served rel s (request :: later) (answer :: answers) final

/-- **A step that always answers serves every sequence.** -/
theorem serve_total {inv : σ → Prop} {valid : α → Prop} {rel : σ → α → β → σ → Prop}
    (answers : ∀ s request, inv s → valid request →
      ∃ answer next, step s request = .ok (answer, next) ∧ inv next ∧ rel s request answer next)
    {s : σ} {requests : List α} (start : inv s) (all : ∀ request ∈ requests, valid request) :
    ∃ replies final, serve step s requests = .ok (replies, final) ∧ inv final ∧
      Served rel s requests replies final := by
  induction requests generalizing s with
  | nil => exact ⟨[], s, rfl, start, .nil s⟩
  | cons request later ih =>
    obtain ⟨answer, next, stepped, kept, related⟩ :=
      answers s request start (all request List.mem_cons_self)
    obtain ⟨replies, final, served, last, chain⟩ :=
      ih kept fun other member => all other (List.mem_cons_of_mem _ member)
    exact ⟨answer :: replies, final, by simp [serve, stepped, served], last, .cons related chain⟩

variable {step} {rel : σ → α → β → σ → Prop}

/-- Two served sequences, the second from where the first one ended. -/
theorem serve_append {s mid final : σ} {first second : List α} {early late : List β}
    (before : serve step s first = .ok (early, mid))
    (after : serve step mid second = .ok (late, final)) :
    serve step s (first ++ second) = .ok (early ++ late, final) := by
  induction first generalizing s early with
  | nil =>
    cases before
    exact after
  | cons request later ih =>
    rw [serve] at before
    cases stepped : step s request with
    | error raised =>
      rw [stepped] at before
      cases before
    | ok served =>
      rw [stepped] at before
      cases rest : serve step served.2 later with
      | error raised =>
        simp only [rest] at before
        cases before
      | ok tail =>
        simp only [rest] at before
        cases before
        simp only [List.cons_append, serve, stepped, ih rest]

/-- **A chain cut at one of its entries**, where an entry is what a request and its answer say. -/
theorem Served.split_entry {γ : Type*} {label : α → β → γ} {s final : σ} {requests : List α}
    {answers : List β} (chain : Served rel s requests answers final) {before after : List γ}
    {entry : γ} (split : List.zipWith label requests answers = before ++ entry :: after) :
    ∃ first request second early answer late mid next,
      requests = first ++ request :: second ∧ answers = early ++ answer :: late ∧
        Served rel s first early mid ∧ rel mid request answer next ∧
        List.zipWith label first early = before ∧ label request answer = entry := by
  induction chain generalizing before with
  | nil s => cases before <;> cases split
  | @cons s next final request answer later answers related tail ih =>
    cases before with
    | nil =>
      cases split
      exact ⟨[], request, later, [], answer, answers, s, next, rfl, rfl, .nil s, related, rfl, rfl⟩
    | cons head before =>
      rw [List.zipWith_cons_cons, List.cons_append, List.cons.injEq] at split
      obtain ⟨rfl, split⟩ := split
      obtain ⟨first, other, second, early, reply, late, mid, after, rfl, rfl, reached, last, rfl,
        rfl⟩ := ih split
      exact ⟨request :: first, other, second, answer :: early, reply, late, mid, after, rfl, rfl,
        .cons related reached, last, rfl, rfl⟩

theorem Served.zipWith_answers {s final : σ} {requests : List α} {answers : List β}
    (chain : Served rel s requests answers final) :
    List.zipWith (fun _ answer => answer) requests answers = answers := by
  induction chain with
  | nil => rfl
  | cons _ _ ih => rw [List.zipWith_cons_cons, ih]

end Serve

end ScreenSync.Foundation
