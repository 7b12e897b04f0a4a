/-
**A value that expires.**

A cell holds a value until its deadline. Calls rewrite it one after another: a call reads what is
there, adds something of its own to it, and writes the result back with a new deadline, a lifetime
after the write. A read or a write may fail without notice. Whoever reads later sees no deadline,
only a value or none.

* `survivors` — the additions that are in the value seen at a time: back from there, one after
  another, as long as each write was still alive when it was read.
* `seen_run` — what is seen after a run is made of the survivors alone.
* `survivors_of_fresh` — with no failure and no gap as long as a lifetime, all of them survive.
-/

import ScreenSync.Foundation.Run

namespace ScreenSync.Foundation

/-- A value and the time from which on it is gone. -/
structure Expiring (α : Type*) where
  value : α
  deadline : Nat

namespace Expiring

variable {α β : Type*}

def map (f : α → β) (cell : Expiring α) : Expiring β := ⟨f cell.value, cell.deadline⟩

end Expiring

section Seen

variable {α β : Type*}

/-- What a read at a time finds. -/
def seen (now : Nat) : Option (Expiring α) → Option α
  | some cell => if now < cell.deadline then some cell.value else none
  | none => none

theorem seen_some (now : Nat) (cell : Expiring α) :
    seen now (some cell) = if now < cell.deadline then some cell.value else none := rfl

theorem seen_map (f : α → β) (now : Nat) (cell : Option (Expiring α)) :
    seen now (cell.map (Expiring.map f)) = (seen now cell).map f := by
  cases cell with
  | none => rfl
  | some held =>
    show (if now < held.deadline then some (f held.value) else none) =
      (if now < held.deadline then some held.value else none).map f
    split <;> rfl

/-- What is seen has been written. -/
theorem held_of_seen {now : Nat} {cell : Option (Expiring α)} {value : α}
    (found : seen now cell = some value) : ∃ deadline, cell = some ⟨value, deadline⟩ := by
  cases cell with
  | none => cases found
  | some held =>
    rw [seen_some] at found
    split at found
    · cases found
      exact ⟨held.deadline, rfl⟩
    · cases found

end Seen

/-- A call that rewrites the cell: what it adds, when it reads and writes, and whether each of the
two goes through. -/
structure Rewrite (β : Type*) where
  addition : β
  readAt : Nat
  writeAt : Nat
  reads : Bool
  writes : Bool

section Rewrites

variable {α β : Type*} (ttl : Nat) (add : Option α → β → α)

/-- What a call reads. -/
def Rewrite.found (call : Rewrite β) (cell : Option (Expiring α)) : Option α :=
  if call.reads then seen call.readAt cell else none

/-- The cell after a call. -/
def Rewrite.apply (cell : Option (Expiring α)) (call : Rewrite β) : Option (Expiring α) :=
  if call.writes then some ⟨add (call.found cell) call.addition, call.writeAt + ttl⟩ else cell

/-- The additions that are in the value seen at a time. The latest call comes first. -/
def survivors : Nat → List (Rewrite β) → List β
  | _, [] => []
  | now, call :: past =>
    if call.writes then
      if now < call.writeAt + ttl then
        call.addition :: if call.reads then survivors call.readAt past else []
      else []
    else survivors now past

/-- The value made of some additions, the latest first. -/
def build : List β → Option α
  | [] => none
  | addition :: past => some (add (build past) addition)

theorem seen_apply (now : Nat) (past : List (Rewrite β)) (call : Rewrite β)
    {cell : Option (Expiring α)}
    (before : ∀ at', seen at' cell = build add (survivors ttl at' past)) :
    seen now (call.apply ttl add cell) = build add (survivors ttl now (call :: past)) := by
  unfold Rewrite.apply
  rw [survivors]
  by_cases writes : call.writes = true
  · rw [if_pos writes, if_pos writes, seen_some]
    by_cases alive : now < call.writeAt + ttl
    · rw [if_pos alive, if_pos alive, build]
      unfold Rewrite.found
      by_cases reads : call.reads = true
      · rw [if_pos reads, if_pos reads, before]
      · rw [if_neg reads, if_neg reads]
        rfl
    · rw [if_neg alive, if_neg alive]
      rfl
  · rw [if_neg writes, if_neg writes]
    exact before now

/-- **What is seen is made of the survivors**, after every run of calls on an empty cell. -/
theorem seen_run (calls : List (Rewrite β)) (now : Nat) :
    seen now (run (fun cell call => call.apply ttl add cell) none calls) =
      build add (survivors ttl now calls.reverse) := by
  induction calls using List.reverseRecOn generalizing now with
  | nil => rfl
  | append_singleton before call ih =>
    rw [run_concat, List.reverse_append]
    exact seen_apply ttl add now before.reverse call ih

/-- No failure, and every write is read before its lifetime is over: by the next call, or at the
given time. The latest call comes first. -/
def Fresh : Nat → List (Rewrite β) → Prop
  | _, [] => True
  | now, call :: past =>
    call.writes = true ∧ call.reads = true ∧ now < call.writeAt + ttl ∧ Fresh call.readAt past

/-- **Nothing is lost** as long as the cell is kept fresh. -/
theorem survivors_of_fresh {now : Nat} {past : List (Rewrite β)} (fresh : Fresh ttl now past) :
    survivors ttl now past = past.map Rewrite.addition := by
  induction past generalizing now with
  | nil => rfl
  | cons call past ih =>
    obtain ⟨writes, reads, alive, earlier⟩ := fresh
    rw [survivors, if_pos writes, if_pos alive, if_pos reads, ih earlier]
    rfl

end Rewrites

end ScreenSync.Foundation
