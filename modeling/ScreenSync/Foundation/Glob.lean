/-
**Glob patterns.**

`*` stands for any text, `?` for one character, `[…]` for one character of a class, and a backslash
takes the next character literally. Of all that, a pattern made of a stem of plain characters and a
final `*` needs two rules only.

* `Globbing` — a matcher that keeps those rules.
* `Globbing.accepts_stem` — a stem and a final `*` match the texts that start with the stem.
* `Globbing.full` — the matcher of the whole language.
-/

import Mathlib.Data.List.Infix

namespace ScreenSync.Foundation

/-- The characters that stand for something else than themselves. -/
def globSpecials : List Char := ['*', '?', '[', '\\']

/-- A matcher of globs: what the empty pattern, a plain character and a star accept. -/
structure Globbing where
  accepts : List Char → List Char → Bool
  accepts_nil : ∀ text, accepts [] text = true ↔ text = []
  accepts_plain : ∀ c pattern text, c ∉ globSpecials →
    (accepts (c :: pattern) text = true ↔ ∃ rest, text = c :: rest ∧ accepts pattern rest = true)
  accepts_star : ∀ pattern text,
    accepts ('*' :: pattern) text = true ↔ ∃ rest, rest <:+ text ∧ accepts pattern rest = true

/-- **A stem and a final star** match what starts with the stem. -/
theorem Globbing.accepts_stem (globs : Globbing) {stem : List Char}
    (plain : ∀ c ∈ stem, c ∉ globSpecials) (text : List Char) :
    globs.accepts (stem ++ ['*']) text = true ↔ stem <+: text := by
  induction stem generalizing text with
  | nil =>
    show globs.accepts ['*'] text = true ↔ [] <+: text
    rw [globs.accepts_star]
    exact iff_of_true ⟨[], List.nil_suffix, (globs.accepts_nil []).mpr rfl⟩ List.nil_prefix
  | cons c stem ih =>
    obtain ⟨literal, others⟩ := List.forall_mem_cons.mp plain
    rw [List.cons_append, globs.accepts_plain c _ text literal]
    constructor
    · rintro ⟨rest, rfl, matched⟩
      exact List.cons_prefix_cons.mpr ⟨rfl, (ih others rest).mp matched⟩
    · rintro ⟨rest, rfl⟩
      exact ⟨stem ++ rest, rfl, (ih others _).mpr (List.prefix_append stem rest)⟩

/-! ### The whole language -/

/-- A class of characters: its ranges, and whether they are left out. -/
structure GlobClass where
  negated : Bool
  ranges : List (Char × Char)

def GlobClass.add (members : GlobClass) (first last : Char) : GlobClass :=
  { members with ranges := (first, last) :: members.ranges }

def GlobClass.has (members : GlobClass) (c : Char) : Bool :=
  -- the ends of a range in either order
  let inside := members.ranges.any fun (first, last) =>
    (first ≤ c && c ≤ last) || (last ≤ c && c ≤ first)
  inside != members.negated

inductive GlobToken
  | star
  | one
  | member (members : GlobClass)
  | literal (c : Char)

/-- The tokens of a pattern; inside brackets, with the class read so far. An unclosed class ends
with the pattern. -/
def globTokens : Option GlobClass → List Char → List GlobToken
  | none, [] => []
  | none, '*' :: rest => .star :: globTokens none rest
  | none, '?' :: rest => .one :: globTokens none rest
  | none, '[' :: '^' :: rest => globTokens (some ⟨true, []⟩) rest
  | none, '[' :: rest => globTokens (some ⟨false, []⟩) rest
  | none, '\\' :: c :: rest => .literal c :: globTokens none rest
  | none, c :: rest => .literal c :: globTokens none rest
  | some members, [] => [.member members]
  | some members, '\\' :: c :: rest => globTokens (some (members.add c c)) rest
  | some members, ']' :: rest => .member members :: globTokens none rest
  | some members, first :: '-' :: last :: rest => globTokens (some (members.add first last)) rest
  | some members, c :: rest => globTokens (some (members.add c c)) rest

/-- Whether a text matches some tokens. -/
def globMatches : List GlobToken → List Char → Bool
  | [], text => text.isEmpty
  | .star :: tokens, text => text.tails.any fun rest => globMatches tokens rest
  | .one :: tokens, _ :: text => globMatches tokens text
  | .member members :: tokens, c :: text => members.has c && globMatches tokens text
  | .literal expected :: tokens, c :: text => c == expected && globMatches tokens text
  | _ :: _, [] => false

theorem globTokens_plain {c : Char} (plain : c ∉ globSpecials) (rest : List Char) :
    globTokens none (c :: rest) = .literal c :: globTokens none rest := by
  simp only [globSpecials, List.mem_cons, List.not_mem_nil, or_false, not_or] at plain
  rw [globTokens.eq_def]
  split <;> simp_all

/-- The matcher of the whole language. -/
def Globbing.full : Globbing where
  accepts pattern text := globMatches (globTokens none pattern) text
  accepts_nil text := by
    show text.isEmpty = true ↔ text = []
    exact List.isEmpty_iff
  accepts_plain c pattern text plain := by
    rw [globTokens_plain plain]
    cases text with
    | nil => simp [globMatches]
    | cons first text => simp [globMatches, and_assoc]
  accepts_star pattern text := by
    show (text.tails.any fun rest => globMatches (globTokens none pattern) rest) = true ↔ _
    simp only [List.any_eq_true, List.mem_tails]

example : Globbing.full.accepts "a?[x-z]*".toList "aby:tail".toList = true := by decide +kernel

end ScreenSync.Foundation
