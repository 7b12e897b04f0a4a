/-
**A ledger.**

Accounts are opened for an owner, posted to, and closed; only the owner posts to an account or
closes it, and a transaction that may not be entered is left out. An account that is not open holds
nothing.

* `enter_opened`, `enter_posted`, `enter_closed` — what each transaction does to each account, and
  `enter_refused` for those that are left out.
-/

import Mathlib.Logic.Function.Basic

namespace ScreenSync.Foundation

/-- An account with its owner and what has been posted to it, the earliest first. -/
structure Account (O E : Type*) where
  owner : O
  entries : List E

/-- The accounts that are open. -/
abbrev Ledger (A O E : Type*) : Type _ := A → Option (Account O E)

inductive Transaction (A O E : Type*)
  | opened (account : A) (owner : O)
  | posted (account : A) (owner : O) (entry : E)
  | closed (account : A) (owner : O)

namespace Ledger

variable {A O E : Type*} [DecidableEq A]

/-- Write one account. -/
def write (ledger : Ledger A O E) (account : A) (holds : Option (Account O E)) : Ledger A O E :=
  Function.update ledger account holds

theorem write_apply (ledger : Ledger A O E) (account : A) (holds : Option (Account O E))
    (other : A) :
    ledger.write account holds other = if other = account then holds else ledger other :=
  Function.update_apply ledger account holds other

variable [DecidableEq O]

/-- Whether a transaction may be entered. -/
def Allowed (ledger : Ledger A O E) : Transaction A O E → Prop
  | .opened account _ => ledger account = none
  | .posted account owner _ | .closed account owner =>
    (ledger account).map Account.owner = some owner

/-- Enter a transaction, or leave it out. -/
def enter (ledger : Ledger A O E) : Transaction A O E → Ledger A O E
  | .opened account owner =>
    match ledger account with
    | none => ledger.write account (some ⟨owner, []⟩)
    | some _ => ledger
  | .posted account owner entry =>
    match ledger account with
    | none => ledger
    | some holds =>
      if holds.owner = owner then
        ledger.write account (some { holds with entries := holds.entries ++ [entry] })
      else ledger
  | .closed account owner =>
    match ledger account with
    | none => ledger
    | some holds => if holds.owner = owner then ledger.write account none else ledger

variable {ledger : Ledger A O E} {account : A} {owner : O}

theorem enter_opened (free : ledger account = none) :
    ledger.enter (.opened account owner) = ledger.write account (some ⟨owner, []⟩) := by
  simp only [enter, free]

theorem enter_posted {holds : Account O E} (found : ledger account = some holds)
    (own : holds.owner = owner) (entry : E) :
    ledger.enter (.posted account owner entry) =
      ledger.write account (some { holds with entries := holds.entries ++ [entry] }) := by
  simp only [enter, found, if_pos own]

theorem enter_closed {holds : Account O E} (found : ledger account = some holds)
    (own : holds.owner = owner) :
    ledger.enter (.closed account owner) = ledger.write account none := by
  simp only [enter, found, if_pos own]

/-- A transaction that is not allowed is left out. -/
theorem enter_refused {transaction : Transaction A O E} (refused : ¬ ledger.Allowed transaction) :
    ledger.enter transaction = ledger := by
  cases transaction with
  | opened account owner =>
    simp only [enter]
    cases found : ledger account with
    | none => exact absurd found refused
    | some holds => rfl
  | posted account owner entry | closed account owner =>
    simp only [enter]
    cases found : ledger account with
    | none => rfl
    | some holds =>
      refine if_neg fun own => refused ?_
      simp only [Allowed, found, Option.map_some, own]

end Ledger

end ScreenSync.Foundation
