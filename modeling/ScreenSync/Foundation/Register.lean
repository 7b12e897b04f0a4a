/-
**A stamped register.**

A register keeps one of the values it is offered. It does not keep the time its value was made at,
only the reading of its own clock at the last offer, accepted or not; an offer is compared with
that reading. `Timing` says when an offer was made, what the register's clock said when it was
offered, and whether it is forced.

* `offer_source` — an offer is taken exactly if there is nothing yet, or it is forced, or it was
  made no earlier than the last offer was stamped.
* `fresh_source_iff` — an offer younger than the value may still be refused, and when.
* `Sound` — the value was made no later than the register was stamped. Offers that are stamped in
  order, and made no later than they are stamped, keep it (`sound_run`), and then the value is
  never replaced by an older one (`time_mono`).
* `forced_source_iff` — after the last forced offer the value is a forced one exactly as long as
  every later offer was made before the one ahead of it was stamped.
* `latest_iff` — the value is always the last offer exactly if no offer is refused.
-/

import Mathlib.Order.Lattice
import ScreenSync.Foundation.Run

namespace ScreenSync.Foundation

/-- How the offers of type `O` are timed. -/
structure Timing (O T : Type*) where
  time : O → T
  stamp : O → T
  forced : O → Bool

/-- What the register holds: the offer its value came with, and the last offer it was made. -/
structure Held (O : Type*) where
  source : O
  last : O

namespace Timing

variable {O T : Type*} [LinearOrder T] (timing : Timing O T)

/-- The register after an offer. -/
def offer : Option (Held O) → O → Option (Held O)
  | none, o => some ⟨o, o⟩
  | some held, o =>
    some
      ⟨if timing.forced o = true ∨ timing.stamp held.last ≤ timing.time o then o else held.source,
        o⟩

/-- The register after a sequence of offers. -/
def after (offers : List O) : Option (Held O) := run timing.offer none offers

theorem after_concat (offers : List O) (o : O) :
    timing.after (offers ++ [o]) = timing.offer (timing.after offers) o :=
  run_concat ..

/-- A register that was made an offer holds something, and knows its last offer. -/
theorem after_concat_some (offers : List O) (o : O) :
    ∃ source, timing.after (offers ++ [o]) = some ⟨source, o⟩ := by
  rw [after_concat]
  cases timing.after offers <;> exact ⟨_, rfl⟩

variable {timing}

/-- **When an offer is taken.** -/
theorem offer_source {held : Held O} {o : O} (accepted : timing.forced o = true ∨
    timing.stamp held.last ≤ timing.time o) : timing.offer (some held) o = some ⟨o, o⟩ := by
  rw [offer, if_pos accepted]

theorem offer_source_of_not {held : Held O} {o : O} (refused : ¬ (timing.forced o = true ∨
    timing.stamp held.last ≤ timing.time o)) :
    timing.offer (some held) o = some ⟨held.source, o⟩ := by
  rw [offer, if_neg refused]

/-! ### The value only gets younger -/

/-- The value was made no later than the register was stamped. -/
def Sound (timing : Timing O T) (register : Option (Held O)) : Prop :=
  ∀ held, register = some held → timing.time held.source ≤ timing.stamp held.last

/-- One offer: the value stays sound, and is not replaced by an older one. -/
theorem offer_sound {held : Held O} {o : O} (sound : Sound timing (some held))
    (ordered : timing.stamp held.last ≤ timing.stamp o) (made : timing.time o ≤ timing.stamp o) :
    Sound timing (timing.offer (some held) o) := by
  intro next offered
  by_cases accepted : timing.forced o = true ∨ timing.stamp held.last ≤ timing.time o
  · rw [offer_source accepted] at offered
    cases offered
    exact made
  · rw [offer_source_of_not accepted] at offered
    cases offered
    exact (sound held rfl).trans ordered

theorem sound_run {offers : List O} (ordered : (offers.map timing.stamp).Pairwise (· ≤ ·))
    (made : ∀ o ∈ offers, timing.time o ≤ timing.stamp o) : Sound timing (timing.after offers) := by
  induction offers using List.reverseRecOn with
  | nil => exact fun held absent => (by cases absent)
  | append_singleton earlier o ih =>
    rw [List.map_append, List.pairwise_append] at ordered
    obtain ⟨before, -, across⟩ := ordered
    have sound := ih before fun other member => made other (List.mem_append_left _ member)
    have own : timing.time o ≤ timing.stamp o := made o (by simp)
    rw [after_concat]
    cases found : timing.after earlier with
    | none =>
      rintro held offered
      cases offered
      exact own
    | some held =>
      rw [found] at sound
      refine offer_sound sound ?_ own
      -- the last offer is one of the earlier ones
      cases earlier using List.reverseRecOn with
      | nil => cases found
      | append_singleton first last =>
        obtain ⟨source, kept⟩ := after_concat_some timing first last
        cases found.symm.trans kept
        exact across _ (by simp) _ (by simp)

/-- **An unforced offer never makes the value older.** -/
theorem time_mono {held next : Held O} {o : O} (sound : Sound timing (some held))
    (unforced : timing.forced o = false) (offered : timing.offer (some held) o = some next) :
    timing.time held.source ≤ timing.time next.source := by
  by_cases accepted : timing.forced o = true ∨ timing.stamp held.last ≤ timing.time o
  · rw [offer_source accepted] at offered
    cases offered
    rcases accepted with forced | later
    · cases unforced.symm.trans forced
    · exact (sound held rfl).trans later
  · rw [offer_source_of_not accepted] at offered
    cases offered
    exact le_rfl

/-- **An offer younger than the value** is taken exactly if it was made no earlier than the register
was last stamped. -/
theorem fresh_source_iff {held next : Held O} {o : O} (unforced : timing.forced o = false)
    (fresh : timing.time held.source < timing.time o)
    (offered : timing.offer (some held) o = some next) :
    next.source = o ↔ timing.stamp held.last ≤ timing.time o := by
  by_cases later : timing.stamp held.last ≤ timing.time o
  · rw [offer_source (.inr later)] at offered
    cases offered
    exact ⟨fun _ => later, fun _ => rfl⟩
  · rw [offer_source_of_not (by simp [unforced, later])] at offered
    cases offered
    refine ⟨fun same => ?_, fun accepted => absurd accepted later⟩
    exact absurd (congrArg timing.time same) fresh.ne

/-! ### Forced values -/

/-- An offer is made before the one ahead of it was stamped. -/
def Stale (timing : Timing O T) (ahead o : O) : Prop := timing.time o < timing.stamp ahead

/-- Over unforced offers a forced value is kept exactly as long as all of them are stale. -/
theorem forced_run_iff {held : Held O} {offers : List O}
    (unforced : ∀ o ∈ offers, timing.forced o = false) :
    (∃ final, run timing.offer (some held) offers = some final ∧
        timing.forced final.source = true) ↔
      timing.forced held.source = true ∧ List.IsChain (Stale timing) (held.last :: offers) := by
  induction offers generalizing held with
  | nil => simp
  | cons o later ih =>
    obtain ⟨first, rest⟩ := List.forall_mem_cons.mp unforced
    rw [run_cons, List.isChain_cons_cons]
    by_cases accepted : timing.stamp held.last ≤ timing.time o
    · have young : ¬ Stale timing held.last o := not_lt.mpr accepted
      rw [offer_source (.inr accepted), ih rest]
      simp [first, young]
    · have stale : Stale timing held.last o := not_le.mp accepted
      rw [offer_source_of_not (by simp [first, accepted]), ih rest]
      simp [stale]

/-- **When a forced value is still there.** After the last forced offer, the value is a forced one
exactly if every offer since was stale. -/
theorem forced_source_iff {before after : List O} {o : O} (forced : timing.forced o = true)
    (unforced : ∀ later ∈ after, timing.forced later = false) :
    (∃ final, timing.after (before ++ o :: after) = some final ∧
        timing.forced final.source = true) ↔ List.IsChain (Stale timing) (o :: after) := by
  have taken : timing.offer (timing.after before) o = some ⟨o, o⟩ := by
    cases timing.after before with
    | none => rfl
    | some held => exact offer_source (.inl forced)
  rw [Timing.after, run_append, run_cons, ← Timing.after, taken, forced_run_iff unforced]
  exact and_iff_right forced

omit [LinearOrder T] in
/-- A sequence with a forced offer has a last one. -/
theorem exists_last_forced {offers : List O} (someForced : ∃ o ∈ offers, timing.forced o = true) :
    ∃ before o after, offers = before ++ o :: after ∧ timing.forced o = true ∧
      ∀ later ∈ after, timing.forced later = false := by
  induction offers using List.reverseRecOn with
  | nil => simp at someForced
  | append_singleton earlier last ih =>
    cases forced : timing.forced last with
    | true => exact ⟨earlier, last, [], rfl, forced, fun later member => (by cases member)⟩
    | false =>
      have sooner : ∃ o ∈ earlier, timing.forced o = true := by
        obtain ⟨o, member, isForced⟩ := someForced
        rcases List.mem_append.mp member with inside | isLast
        · exact ⟨o, inside, isForced⟩
        · rw [List.mem_singleton.mp isLast, forced] at isForced
          cases isForced
      obtain ⟨before, o, after, rfl, isForced, rest⟩ := ih sooner
      refine ⟨before, o, after ++ [last], by simp, isForced, fun later member => ?_⟩
      rcases List.mem_append.mp member with inside | isLast
      · exact rest later inside
      · rw [List.mem_singleton.mp isLast, forced]

/-! ### The last offer -/

/-- An offer is forced, or made no earlier than the one ahead of it was stamped. -/
def Accepts (timing : Timing O T) (ahead o : O) : Prop :=
  timing.forced o = true ∨ timing.stamp ahead ≤ timing.time o

/-- The value is that of the last offer. -/
def Latest (register : Option (Held O)) : Prop :=
  ∀ held, register = some held → held.source = held.last

/-- What a register holds was offered to it. -/
theorem after_mem {offers : List O} {held : Held O} (found : timing.after offers = some held) :
    held.source ∈ offers ∧ held.last ∈ offers := by
  induction offers using List.reverseRecOn generalizing held with
  | nil => cases found
  | append_singleton earlier o ih =>
    rw [after_concat] at found
    cases before : timing.after earlier with
    | none =>
      rw [before] at found
      cases found
      simp
    | some past =>
      rw [before] at found
      have older := (ih before).1
      by_cases accepted : timing.forced o = true ∨ timing.stamp past.last ≤ timing.time o
      · rw [offer_source accepted] at found
        cases found
        simp
      · rw [offer_source_of_not accepted] at found
        cases found
        simp [older]

theorem latest_run_iff {held : Held O} {offers : List O} (latest : held.source = held.last)
    (distinct : (held.last :: offers).Nodup) :
    Throughout timing.offer Latest (some held) offers ↔
      List.IsChain (Accepts timing) (held.last :: offers) := by
  have start : Latest (some held) := by
    intro other same
    cases same
    exact latest
  induction offers generalizing held with
  | nil => simp [throughout_nil, start]
  | cons o later ih =>
    obtain ⟨apart, rest⟩ := List.nodup_cons.mp distinct
    rw [throughout_cons, List.isChain_cons_cons, and_iff_right start]
    by_cases accepted : Accepts timing held.last o
    · have taken : Latest (some ⟨o, o⟩ : Option (Held O)) := by
        intro other same
        cases same
        rfl
      have tail : Throughout timing.offer Latest (some ⟨o, o⟩) later ↔
          List.IsChain (Accepts timing) (o :: later) := ih rfl rest taken
      rw [offer_source accepted, and_iff_right accepted]
      exact tail
    · rw [offer_source_of_not accepted]
      constructor
      · intro always
        -- the offer was refused, so the register holds an earlier one
        have same : held.source = o := always [] later rfl _ rfl
        rw [latest] at same
        exact absurd (same ▸ List.mem_cons_self) apart
      · intro chain
        exact absurd chain.1 accepted

/-- **When the value is always the last offer**, for offers that are pairwise different. -/
theorem latest_iff {offers : List O} (distinct : offers.Nodup) :
    Throughout timing.offer Latest none offers ↔ List.IsChain (Accepts timing) offers := by
  have start : Latest (none : Option (Held O)) := by
    intro held same
    cases same
  cases offers with
  | nil => simp [throughout_nil, start]
  | cons o later =>
    rw [throughout_cons, and_iff_right start]
    show Throughout timing.offer Latest (some ⟨o, o⟩) later ↔ _
    exact latest_run_iff rfl distinct

end Timing

end ScreenSync.Foundation
