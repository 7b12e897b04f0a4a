/-
**A cell that is read and written back.**

Any number of parties read a cell, make something of what they have read and of a contribution of
their own, and write that back. Nobody is kept out in between, so a write may drop what others have
written since the read.

* `Built` — what a chain of contributions makes of an empty cell, one after the other.
* `Tracked` — the cell, the chain that its content is made of, and all contributions written so far.
* `Tracked.Sound.write` — a write keeps the content made of a chain of contributions, in the order
  in which they were written.
* `Tracked.whole_write_iff` — a write drops nothing exactly if its party had read everything.
-/

import Mathlib.Data.List.Sublists
import Mathlib.Tactic.Common

namespace ScreenSync.Foundation

variable {β ω : Type*}

/-- What a chain of contributions makes of an empty cell. -/
inductive Built (apply : Option β → ω → Option β) : List ω → Option β → Prop
  | empty : Built apply [] none
  | add {chain : List ω} {found : Option β} {contribution : ω} {made : β} :
      Built apply chain found → apply found contribution = some made →
      Built apply (chain ++ [contribution]) (some made)

/-- No contributions leave the cell empty. -/
theorem Built.eq_none {apply : Option β → ω → Option β} {chain : List ω} {content : Option β}
    (built : Built apply chain content) (nothing : chain = []) : content = none := by
  cases built with
  | empty => rfl
  | add before makes => exact absurd nothing (List.append_ne_nil_of_right_ne_nil _ (by simp))

/-- The cell, what it is made of, and everything that was written so far. -/
structure Tracked (β ω : Type*) where
  content : Option β
  chain : List ω
  written : List ω

namespace Tracked

/-- A party writes what it has made of a cell that was built out of `base`. -/
def write (cell : Tracked β ω) (base : List ω) (contribution : ω) (made : β) : Tracked β ω :=
  ⟨some made, base ++ [contribution], cell.written ++ [contribution]⟩

variable {apply : Option β → ω → Option β} {cell : Tracked β ω}

/-- The content is what the chain makes, and the chain was written in this order. -/
structure Sound (apply : Option β → ω → Option β) (cell : Tracked β ω) : Prop where
  built : Built apply cell.chain cell.content
  ordered : cell.chain.Sublist cell.written

/-- What a party has read: the chain and what it makes, out of what had been written by then. -/
structure Read (apply : Option β → ω → Option β) (cell : Tracked β ω) (base : List ω)
    (found : Option β) : Prop where
  built : Built apply base found
  ordered : base.Sublist cell.written

theorem Sound.read (sound : Sound apply cell) : Read apply cell cell.chain cell.content :=
  ⟨sound.built, sound.ordered⟩

/-- A read that finds nothing. -/
theorem Read.nothing (cell : Tracked β ω) : Read apply cell [] none :=
  ⟨.empty, List.nil_sublist _⟩

/-- What has been read was written before whatever is written later. -/
theorem Read.write {base other : List ω} {found : Option β} (read : Read apply cell base found)
    (contribution : ω) (made : β) : Read apply (cell.write other contribution made) base found :=
  ⟨read.built, read.ordered.trans (List.sublist_append_left ..)⟩

/-- **A write** leaves a chain of contributions, in the order in which they were written. -/
theorem Sound.write {base : List ω} {found : Option β} (read : Read apply cell base found)
    {contribution : ω} {made : β} (makes : apply found contribution = some made) :
    Sound apply (cell.write base contribution made) :=
  ⟨.add read.built makes, read.ordered.append (List.Sublist.refl _)⟩

/-- **A write drops nothing** exactly if its party had read all that was written. -/
theorem whole_write_iff (cell : Tracked β ω) (base : List ω) (contribution : ω) (made : β) :
    (cell.write base contribution made).chain = (cell.write base contribution made).written ↔
      base = cell.written :=
  List.append_left_inj [contribution]

end Tracked

end ScreenSync.Foundation
