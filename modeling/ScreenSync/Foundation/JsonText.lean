/-
**JSON text.**

`dumps` writes a value as the language's `json` module does by default: `", "` and `": "` between
the parts, and everything outside printable ASCII escaped. `loads` reads a text; of an object
that names a key twice it keeps the later value. The text of a float is a parameter, `FloatText`.

* `scanString_escape` — a string literal is read back.
* `parseValue_dumps`, `parseItems_dumps`, `parseEntries_dumps` — so is a value, by induction on it,
  whatever text follows.
* `loads_dumps` — a value in which no object names a key twice is read back from its text.
-/

import ScreenSync.Foundation.Json

namespace ScreenSync.Foundation.JsonText

/-! ### Strings -/

/-- Four hexadecimal digits. -/
def hexQuad (n : Nat) : List Char :=
  [Nat.digitChar (n / 4096 % 16), Nat.digitChar (n / 256 % 16), Nat.digitChar (n / 16 % 16),
    Nat.digitChar (n % 16)]

def unicodeEscape (n : Nat) : List Char := '\\' :: 'u' :: hexQuad n

/-- The characters that have an escape of one letter, and the letter. -/
def shortEscapes : List (Char × Char) :=
  [('"', '"'), ('\\', '\\'), ('\n', 'n'), ('\r', 'r'), ('\t', 't'), ('\x0c', 'f'), ('\x08', 'b')]

/-- A character inside a string literal. -/
def escapeChar (c : Char) : List Char :=
  match shortEscapes.lookup c with
  | some letter => ['\\', letter]
  | none =>
    if 0x20 ≤ c.toNat ∧ c.toNat ≤ 0x7e then [c]
    else if c.toNat < 0x10000 then unicodeEscape c.toNat
    else
      unicodeEscape (0xd800 + (c.toNat - 0x10000) / 0x400) ++
        unicodeEscape (0xdc00 + (c.toNat - 0x10000) % 0x400)

/-- A string literal. -/
def quote (text : String) : List Char := '"' :: text.toList.flatMap escapeChar ++ ['"']

def hexValue (c : Char) : Option Nat :=
  if '0' ≤ c ∧ c ≤ '9' then some (c.toNat - 48)
  else if 'a' ≤ c ∧ c ≤ 'f' then some (c.toNat - 87)
  else if 'A' ≤ c ∧ c ≤ 'F' then some (c.toNat - 55)
  else none

def readQuad : List Char → Option (Nat × List Char)
  | a :: b :: c :: d :: rest => do
    return (4096 * (← hexValue a) + 256 * (← hexValue b) + 16 * (← hexValue c) + (← hexValue d),
      rest)
  | _ => none

/-- The character of a code point; a surrogate is none. -/
def charOf (n : Nat) : Option Char :=
  if (Char.ofNat n).toNat = n then some (Char.ofNat n) else none

/-- What follows `\u`: a code point, or the two halves of one. -/
def readUnicode (text : List Char) : Option (Char × List Char) := do
  let (first, rest) ← readQuad text
  if 0xd800 ≤ first ∧ first ≤ 0xdbff then
    match rest with
    | '\\' :: 'u' :: more => do
      let (second, rest) ← readQuad more
      if 0xdc00 ≤ second ∧ second ≤ 0xdfff then
        return (← charOf (0x10000 + (first - 0xd800) * 0x400 + (second - 0xdc00)), rest)
      else none
    | _ => none
  else return (← charOf first, rest)

/-- What the letter after a backslash stands for. -/
def letterValues : List (Char × Char) :=
  [('"', '"'), ('\\', '\\'), ('/', '/'), ('n', '\n'), ('r', '\r'), ('t', '\t'), ('f', '\x0c'),
    ('b', '\x08')]

/-- What follows a backslash. -/
def readEscape : List Char → Option (Char × List Char)
  | [] => none
  | letter :: rest =>
    if letter = 'u' then readUnicode rest
    else (letterValues.lookup letter).map fun c => (c, rest)

/-- The rest of a string literal, and what follows it. Each character takes one unit of fuel. -/
def scanString : Nat → List Char → Option (List Char × List Char)
  | 0, _ => none
  | _ + 1, [] => none
  | fuel + 1, c :: rest =>
    if c = '"' then some ([], rest)
    else if c = '\\' then do
      let (value, rest) ← readEscape rest
      let (text, rest) ← scanString fuel rest
      return (value :: text, rest)
    else if c.toNat < 0x20 then none
    else do
      let (text, rest) ← scanString fuel rest
      return (c :: text, rest)

/-! ### Reading back a string -/

theorem charOf_toNat (c : Char) : charOf c.toNat = some c := by
  unfold charOf
  rw [Char.ofNat_toNat, if_pos rfl]

theorem hexValue_digitChar {d : Nat} (digit : d < 16) : hexValue (Nat.digitChar d) = some d := by
  have all : ∀ d < 16, hexValue (Nat.digitChar d) = some d := by
    decide
  exact all d digit

theorem readQuad_hexQuad {n : Nat} (short : n < 65536) (rest : List Char) :
    readQuad (hexQuad n ++ rest) = some (n, rest) := by
  have digit : ∀ m, hexValue (Nat.digitChar (m % 16)) = some (m % 16) := fun m =>
    hexValue_digitChar (Nat.mod_lt m (by decide))
  show (do
    return (4096 * (← hexValue (Nat.digitChar (n / 4096 % 16))) +
      256 * (← hexValue (Nat.digitChar (n / 256 % 16))) +
      16 * (← hexValue (Nat.digitChar (n / 16 % 16))) +
      (← hexValue (Nat.digitChar (n % 16))), rest)) = some (n, rest)
  rw [digit, digit, digit, digit]
  have value : 4096 * (n / 4096 % 16) + 256 * (n / 256 % 16) + 16 * (n / 16 % 16) + n % 16 = n := by
    omega
  show some (4096 * (n / 4096 % 16) + 256 * (n / 256 % 16) + 16 * (n / 16 % 16) + n % 16, rest) = _
  rw [value]

/-- No character lies between the halves of the code points above `0xffff`. -/
theorem not_surrogate (c : Char) : ¬ (0xd800 ≤ c.toNat ∧ c.toNat ≤ 0xdfff) := by
  have valid : c.toNat < 0xd800 ∨ 0xdfff < c.toNat ∧ c.toNat < 0x110000 := c.valid
  omega

theorem readUnicode_hexQuad {c : Char} (short : c.toNat < 0x10000) (rest : List Char) :
    readUnicode (hexQuad c.toNat ++ rest) = some (c, rest) := by
  have whole : ¬ (0xd800 ≤ c.toNat ∧ c.toNat ≤ 0xdbff) := fun half =>
    not_surrogate c ⟨half.1, half.2.trans (by decide)⟩
  unfold readUnicode
  rw [readQuad_hexQuad short]
  show (if 0xd800 ≤ c.toNat ∧ c.toNat ≤ 0xdbff then _ else _) = _
  rw [if_neg whole, charOf_toNat]
  rfl

theorem readUnicode_pair {first second : Nat} (high : 0xd800 ≤ first ∧ first ≤ 0xdbff)
    (low : 0xdc00 ≤ second ∧ second ≤ 0xdfff) (rest : List Char) :
    readUnicode (hexQuad first ++ (unicodeEscape second ++ rest)) =
      (charOf (0x10000 + (first - 0xd800) * 0x400 + (second - 0xdc00))).map fun c => (c, rest) := by
  unfold readUnicode unicodeEscape
  rw [readQuad_hexQuad (by omega)]
  simp only [Option.bind_eq_bind, Option.bind_some]
  rw [if_pos high]
  simp only [List.cons_append]
  rw [readQuad_hexQuad (by omega)]
  simp only [Option.bind_some]
  rw [if_pos low]
  cases charOf (0x10000 + (first - 0xd800) * 0x400 + (second - 0xdc00)) <;> rfl

/-- Half of a long character, each. -/
theorem readUnicode_halves {c : Char} (long : 0x10000 ≤ c.toNat) (rest : List Char) :
    readUnicode (hexQuad (0xd800 + (c.toNat - 0x10000) / 0x400) ++
      (unicodeEscape (0xdc00 + (c.toNat - 0x10000) % 0x400) ++ rest)) = some (c, rest) := by
  have bound : c.toNat < 0x110000 := by
    have valid : c.toNat < 0xd800 ∨ 0xdfff < c.toNat ∧ c.toNat < 0x110000 := c.valid
    omega
  have value : 0x10000 + (0xd800 + (c.toNat - 0x10000) / 0x400 - 0xd800) * 0x400 +
      (0xdc00 + (c.toNat - 0x10000) % 0x400 - 0xdc00) = c.toNat := by omega
  rw [readUnicode_pair (by omega) (by omega), value, charOf_toNat, Option.map_some]

/-- An escape stands for one character. -/
theorem scanString_escapeChar (fuel : Nat) (c : Char) (rest : List Char) :
    scanString (fuel + 1) (escapeChar c ++ rest) =
      (scanString fuel rest).map fun read => (c :: read.1, read.2) := by
  have escaped : ∀ (after : List Char), readEscape after = some (c, rest) →
      scanString (fuel + 1) ('\\' :: after) =
        (scanString fuel rest).map fun read => (c :: read.1, read.2) := by
    intro after read
    rw [scanString, if_neg (by decide), if_pos rfl, read]
    simp only [Option.bind_eq_bind, Option.bind_some]
    cases scanString fuel rest <;> rfl
  unfold escapeChar
  split
  · rename_i letter short
    have listed : (c, letter) ∈ shortEscapes := by
      obtain ⟨before, after, split, -⟩ := List.lookup_eq_some_iff.mp short
      rw [split]
      exact List.mem_append_right _ List.mem_cons_self
    have table : ∀ entry ∈ shortEscapes, entry.2 ≠ 'u' ∧
        letterValues.lookup entry.2 = some entry.1 := by
      decide
    obtain ⟨plain, value⟩ := table _ listed
    refine escaped (letter :: rest) ?_
    rw [readEscape, if_neg plain, value, Option.map_some]
  · rename_i unlisted
    split
    · rename_i printable
      have quoted : c ≠ '"' := by
        rintro rfl
        simp [shortEscapes] at unlisted
      have slashed : c ≠ '\\' := by
        rintro rfl
        simp [shortEscapes] at unlisted
      rw [List.cons_append, List.nil_append, scanString, if_neg quoted, if_neg slashed,
        if_neg (by omega)]
      cases scanString fuel rest <;> rfl
    · split
      · rename_i short
        exact escaped _ (readUnicode_hexQuad short rest)
      · rename_i long
        rw [List.append_assoc]
        exact escaped _ (readUnicode_halves (Nat.not_lt.mp long) rest)

/-- **A string literal is read back.** -/
theorem scanString_escape {text : List Char} {fuel : Nat} (enough : text.length < fuel)
    (rest : List Char) :
    scanString fuel (text.flatMap escapeChar ++ '"' :: rest) = some (text, rest) := by
  induction text generalizing fuel with
  | nil =>
    obtain ⟨less, rfl⟩ := Nat.exists_eq_succ_of_ne_zero (Nat.ne_of_gt enough)
    rfl
  | cons c text ih =>
    obtain ⟨less, rfl⟩ := Nat.exists_eq_succ_of_ne_zero (Nat.ne_of_gt (Nat.zero_lt_of_lt enough))
    rw [List.flatMap_cons, List.append_assoc, scanString_escapeChar,
      ih (Nat.lt_of_succ_lt_succ enough), Option.map_some]

/-! ### Numbers -/

def isNumberChar (c : Char) : Bool := c.isDigit || c ∈ ['-', '+', '.', 'e', 'E']

/-- What tells the text of a float from that of an integer. -/
def isFloatMark (c : Char) : Bool := c ∈ ['.', 'e', 'E']

/-- The text of a float, and its reading. -/
structure FloatText where
  repr : ℚ → List Char
  read : List Char → Option ℚ
  read_repr : ∀ x, read (repr x) = some x
  isNumberChar_repr : ∀ x, ∀ c ∈ repr x, isNumberChar c = true
  isFloatMark_repr : ∀ x, (repr x).any isFloatMark = true

def intText : Int → List Char
  | .ofNat n => Nat.toDigits 10 n
  | .negSucc n => '-' :: Nat.toDigits 10 (n + 1)

/-- A natural number without leading zeros. -/
def readNat (digits : List Char) : Option Nat :=
  let n := Nat.ofDigitChars 10 digits 0
  if digits = Nat.toDigits 10 n then some n else none

def readInt : List Char → Option Int
  | '-' :: digits => (readNat digits).map fun n => -(n : Int)
  | digits => (readNat digits).map fun n => (n : Int)

theorem readNat_toDigits (n : Nat) : readNat (Nat.toDigits 10 n) = some n := by
  unfold readNat
  rw [Nat.ofDigitChars_ten_toDigits, if_pos rfl]

theorem isDigit_toDigits {n : Nat} {c : Char} (member : c ∈ Nat.toDigits 10 n) :
    c.isDigit = true :=
  Nat.isDigit_of_mem_toDigits (by decide) (by decide) member

theorem readInt_intText (n : Int) : readInt (intText n) = some n := by
  cases n with
  | ofNat n =>
    show readInt (Nat.toDigits 10 n) = _
    unfold readInt
    split
    · rename_i digits signed
      have minus : '-' ∈ Nat.toDigits 10 n := signed ▸ List.mem_cons_self
      exact absurd (isDigit_toDigits minus) (by decide)
    · rw [readNat_toDigits]
      rfl
  | negSucc n =>
    simp only [intText, readInt, readNat_toDigits]
    rfl

/-! ### Values -/

section Values

variable (floats : FloatText)

mutual

/-- The text of a value. -/
def dumpsValue : Json → List Char
  | .null => "null".toList
  | .bool value => if value then "true".toList else "false".toList
  | .int value => intText value
  | .float value => floats.repr value
  | .str text => quote text
  | .arr [] => ['[', ']']
  | .arr (first :: rest) => '[' :: (dumpsValue first ++ dumpsItems rest)
  | .obj [] => ['{', '}']
  | .obj ((key, value) :: rest) =>
    '{' :: (quote key ++ ':' :: ' ' :: (dumpsValue value ++ dumpsEntries rest))

/-- The items after the first, and the end of the array. -/
def dumpsItems : List Json → List Char
  | [] => [']']
  | item :: rest => ',' :: ' ' :: (dumpsValue item ++ dumpsItems rest)

/-- The entries after the first, and the end of the object. -/
def dumpsEntries : List (String × Json) → List Char
  | [] => ['}']
  | (key, value) :: rest =>
    ',' :: ' ' :: (quote key ++ ':' :: ' ' :: (dumpsValue value ++ dumpsEntries rest))

end

/-- `json.dumps`. -/
def dumps (value : Json) : String := String.ofList (dumpsValue floats value)

def isJsonSpace (c : Char) : Bool := c ∈ [' ', '\t', '\n', '\r']

def skipSpace (text : List Char) : List Char := text.dropWhile isJsonSpace

/-- `null`, `true` and `false`. -/
def keywords : List (List Char × Json) :=
  [("null".toList, .null), ("true".toList, .bool true), ("false".toList, .bool false)]

def parseKeyword (text : List Char) : Option (Json × List Char) :=
  keywords.findSome? fun entry => (entry.1.isPrefixOf? text).map fun rest => (entry.2, rest)

def readNumber (digits : List Char) : Option Json :=
  if digits.any isFloatMark then (floats.read digits).map .float else (readInt digits).map .int

def parseNumber (text : List Char) : Option (Json × List Char) :=
  (readNumber floats (text.takeWhile isNumberChar)).map fun value =>
    (value, text.dropWhile isNumberChar)

/-- The key of an entry, up to its value. -/
def parseKey (fuel : Nat) : List Char → Option (String × List Char)
  | '"' :: rest => do
    let (key, rest) ← scanString fuel rest
    match skipSpace rest with
    | ':' :: rest => some (String.ofList key, skipSpace rest)
    | _ => none
  | _ => none

/-- The dictionary of some entries; a later value replaces an earlier one. -/
def dictOf (entries : List (String × Json)) : Dict Json :=
  entries.foldl (fun d entry => Dict.set d entry.1 entry.2) []

mutual

def parseValue : Nat → List Char → Option (Json × List Char)
  | 0, _ => none
  | _ + 1, [] => none
  | fuel + 1, c :: rest =>
    if c = '"' then
      (scanString fuel rest).map fun read => (.str (String.ofList read.1), read.2)
    else if c = '[' then
      match skipSpace rest with
      | ']' :: rest => some (.arr [], rest)
      | rest => do
        let (first, rest) ← parseValue fuel rest
        let (items, rest) ← parseItems fuel rest
        return (.arr (first :: items), rest)
    else if c = '{' then
      match skipSpace rest with
      | '}' :: rest => some (.obj [], rest)
      | rest => do
        let (key, rest) ← parseKey fuel rest
        let (value, rest) ← parseValue fuel rest
        let (entries, rest) ← parseEntries fuel rest
        return (.obj (dictOf ((key, value) :: entries)), rest)
    else (parseKeyword (c :: rest)).or (parseNumber floats (c :: rest))

/-- The items after the first, and the end of the array. -/
def parseItems : Nat → List Char → Option (List Json × List Char)
  | 0, _ => none
  | fuel + 1, text =>
    match skipSpace text with
    | ']' :: rest => some ([], rest)
    | ',' :: rest => do
      let (item, rest) ← parseValue fuel (skipSpace rest)
      let (items, rest) ← parseItems fuel rest
      return (item :: items, rest)
    | _ => none

/-- The entries after the first, and the end of the object. -/
def parseEntries : Nat → List Char → Option (List (String × Json) × List Char)
  | 0, _ => none
  | fuel + 1, text =>
    match skipSpace text with
    | '}' :: rest => some ([], rest)
    | ',' :: rest => do
      let (key, rest) ← parseKey fuel (skipSpace rest)
      let (value, rest) ← parseValue fuel rest
      let (entries, rest) ← parseEntries fuel rest
      return ((key, value) :: entries, rest)
    | _ => none

end

/-- `json.loads`; `none` where it raises. -/
def loads (text : String) : Option Json :=
  match parseValue floats (text.toList.length + 1) (skipSpace text.toList) with
  | some (value, rest) => if skipSpace rest = [] then some value else none
  | none => none

end Values

/-! ### Reading back a value -/

mutual

/-- No object names a key twice. -/
def Proper : Json → Prop
  | .arr items => ProperItems items
  | .obj entries => (entries.map Prod.fst).Nodup ∧ ProperEntries entries
  | _ => True

def ProperItems : List Json → Prop
  | [] => True
  | item :: rest => Proper item ∧ ProperItems rest

def ProperEntries : List (String × Json) → Prop
  | [] => True
  | (_, value) :: rest => Proper value ∧ ProperEntries rest

end

/-- No number goes on in this text. -/
def Stops (rest : List Char) : Prop := ∀ c ∈ rest.head?, isNumberChar c = false

variable {floats : FloatText}

theorem dumpsItems_stops (items : List Json) (rest : List Char) :
    Stops (dumpsItems floats items ++ rest) := by
  intro c head
  cases items with
  | nil =>
    obtain rfl : ']' = c := by simpa [dumpsItems] using head
    decide
  | cons item items =>
    obtain rfl : ',' = c := by simpa [dumpsItems] using head
    decide

theorem dumpsEntries_stops (entries : List (String × Json)) (rest : List Char) :
    Stops (dumpsEntries floats entries ++ rest) := by
  intro c head
  cases entries with
  | nil =>
    obtain rfl : '}' = c := by simpa [dumpsEntries] using head
    decide
  | cons entry entries =>
    obtain rfl : ',' = c := by simpa [dumpsEntries] using head
    decide

/-- The text of a number is read as a number. -/
theorem parseValue_number {fuel : Nat} {text rest : List Char} {value : Json} (given : text ≠ [])
    (number : ∀ c ∈ text, isNumberChar c = true) (stops : Stops rest)
    (read : readNumber floats text = some value) :
    parseValue floats (fuel + 1) (text ++ rest) = some (value, rest) := by
  obtain ⟨c, text, rfl⟩ := List.exists_cons_of_ne_nil given
  have first : isNumberChar c = true := number c List.mem_cons_self
  have ends : rest.takeWhile isNumberChar = [] ∧ rest.dropWhile isNumberChar = rest := by
    cases rest with
    | nil => exact ⟨rfl, rfl⟩
    | cons d rest =>
      have beyond : isNumberChar d = false := stops d rfl
      rw [List.takeWhile_cons, List.dropWhile_cons, beyond]
      exact ⟨rfl, rfl⟩
  have others : 'n' ≠ c ∧ 't' ≠ c ∧ 'f' ≠ c := by
    refine ⟨?_, ?_, ?_⟩ <;> rintro rfl <;> exact absurd first (by decide)
  have word : parseKeyword (c :: text ++ rest) = none := by
    simp [parseKeyword, keywords, List.isPrefixOf?, others]
  rw [List.cons_append, parseValue, if_neg, if_neg, if_neg, ← List.cons_append, word,
    Option.none_or]
  · unfold parseNumber
    rw [List.takeWhile_append_of_pos number, List.dropWhile_append_of_pos number, ends.1, ends.2,
      List.append_nil, read]
    rfl
  · rintro rfl
    exact absurd first (by decide)
  · rintro rfl
    exact absurd first (by decide)
  · rintro rfl
    exact absurd first (by decide)

/-- A value may start with this character: no space, and not the end of an array. -/
def Starts (c : Char) : Prop := isJsonSpace c = false ∧ c ≠ ']'

theorem starts_of_number {c : Char} (number : isNumberChar c = true) : Starts c := by
  constructor
  · by_contra space
    have spaces : ∀ d ∈ [' ', '\t', '\n', '\r'], isNumberChar d = false := by
      simp [isNumberChar]
    rw [Bool.not_eq_false, isJsonSpace, decide_eq_true_iff] at space
    rw [spaces c space] at number
    exact absurd number (by decide)
  · rintro rfl
    exact absurd number (by decide)

theorem isNumberChar_intText (value : Int) : ∀ c ∈ intText value, isNumberChar c = true := by
  have digits : ∀ n, ∀ c ∈ Nat.toDigits 10 n, isNumberChar c = true := by
    intro n c member
    rw [isNumberChar, isDigit_toDigits member, Bool.true_or]
  cases value with
  | ofNat n => exact digits n
  | negSucc n => exact List.forall_mem_cons.mpr ⟨by decide, digits (n + 1)⟩

theorem isFloatMark_intText (value : Int) : ¬ (intText value).any isFloatMark = true := by
  have digits : ∀ n, ¬ (Nat.toDigits 10 n).any isFloatMark = true := by
    intro n marked
    obtain ⟨c, member, mark⟩ := List.any_eq_true.mp marked
    have marks : ∀ d ∈ ['.', 'e', 'E'], ¬ d.isDigit = true := by simp
    rw [isFloatMark, decide_eq_true_iff] at mark
    exact marks c mark (isDigit_toDigits member)
  cases value with
  | ofNat n => exact digits n
  | negSucc n =>
    rw [intText, List.any_cons, show isFloatMark '-' = false by decide, Bool.false_or]
    exact digits (n + 1)

theorem intText_ne_nil (value : Int) : intText value ≠ [] := by
  cases value with
  | ofNat n => exact Nat.toDigits_ne_nil
  | negSucc n => exact List.cons_ne_nil _ _

theorem repr_ne_nil (value : ℚ) : floats.repr value ≠ [] := by
  intro empty
  have marked := floats.isFloatMark_repr value
  rw [empty] at marked
  simp at marked

theorem dumpsValue_starts (floats : FloatText) (value : Json) :
    ∃ c text, dumpsValue floats value = c :: text ∧ Starts c := by
  have number : ∀ text, text ≠ [] → (∀ c ∈ text, isNumberChar c = true) →
      ∃ c rest, text = c :: rest ∧ Starts c := by
    intro text given all
    obtain ⟨c, rest, rfl⟩ := List.exists_cons_of_ne_nil given
    exact ⟨c, rest, rfl, starts_of_number (all c List.mem_cons_self)⟩
  have solid : ∀ c ∈ ['n', 't', 'f', '"', '[', '{'], Starts c := by
    simp [Starts, isJsonSpace]
  cases value with
  | null => exact ⟨'n', _, by rw [dumpsValue]; rfl, solid _ (by decide)⟩
  | bool value =>
    cases value
    · exact ⟨'f', _, by rw [dumpsValue]; rfl, solid _ (by decide)⟩
    · exact ⟨'t', _, by rw [dumpsValue]; rfl, solid _ (by decide)⟩
  | int value =>
    rw [dumpsValue]
    exact number _ (intText_ne_nil value) (isNumberChar_intText value)
  | float value =>
    rw [dumpsValue]
    exact number _ (repr_ne_nil value) (floats.isNumberChar_repr value)
  | str text => exact ⟨'"', _, by rw [dumpsValue]; rfl, solid _ (by decide)⟩
  | arr items => cases items <;> exact ⟨'[', _, by rw [dumpsValue], solid _ (by decide)⟩
  | obj entries =>
    rcases entries with - | ⟨⟨key, value⟩, entries⟩ <;>
      exact ⟨'{', _, by rw [dumpsValue], solid _ (by decide)⟩

theorem skipSpace_cons {c : Char} (solid : isJsonSpace c = false) (rest : List Char) :
    skipSpace (c :: rest) = c :: rest := by
  unfold skipSpace
  rw [List.dropWhile_cons, solid]
  rfl

theorem length_le_flatMap_escapeChar (text : List Char) :
    text.length ≤ (text.flatMap escapeChar).length := by
  have one : ∀ c, 1 ≤ (escapeChar c).length := by
    intro c
    unfold escapeChar unicodeEscape
    split
    · simp
    · split
      · simp
      · split <;> simp
  induction text with
  | nil => exact Nat.le_refl _
  | cons c text ih =>
    have first := one c
    rw [List.flatMap_cons, List.length_append, List.length_cons]
    omega

theorem length_quote (text : String) :
    (quote text).length = (text.toList.flatMap escapeChar).length + 2 := by
  simp [quote]

/-- A quoted text is read back. -/
theorem scanString_quote {text : String} {fuel : Nat} (enough : (quote text).length ≤ fuel + 1)
    (rest : List Char) :
    quote text ++ rest = '"' :: (text.toList.flatMap escapeChar ++ '"' :: rest) ∧
      scanString fuel (text.toList.flatMap escapeChar ++ '"' :: rest) =
        some (text.toList, rest) := by
  have long := length_le_flatMap_escapeChar text.toList
  rw [length_quote] at enough
  exact ⟨by simp [quote], scanString_escape (by omega) rest⟩

theorem parseKey_quote {key : String} {fuel : Nat} (enough : (quote key).length ≤ fuel + 1)
    {text : List Char} (solid : skipSpace text = text) :
    parseKey fuel (quote key ++ ':' :: ' ' :: text) = some (key, text) := by
  obtain ⟨split, read⟩ := scanString_quote enough (':' :: ' ' :: text)
  rw [split, parseKey, read]
  have colon : skipSpace (':' :: ' ' :: text) = ':' :: ' ' :: text := skipSpace_cons (by decide) _
  have space : skipSpace (' ' :: text) = skipSpace text := rfl
  simp only [Option.bind_eq_bind, Option.bind_some, colon, space, solid, String.ofList_toList]

/-- Entries with distinct keys are their own dictionary. -/
theorem dictOf_of_nodup {entries : List (String × Json)} (distinct : (entries.map Prod.fst).Nodup) :
    dictOf entries = entries := by
  have general : ∀ (later : List (String × Json)) (d : Dict Json),
      ((d ++ later).map Prod.fst).Nodup →
        later.foldl (fun d entry => Dict.set d entry.1 entry.2) d = d ++ later := by
    intro later
    induction later with
    | nil =>
      intro d _
      exact (List.append_nil d).symm
    | cons entry later ih =>
      intro d apart
      have new : entry.1 ∉ d.map Prod.fst := by
        rw [List.map_append, List.map_cons, List.nodup_middle, List.nodup_cons,
          List.mem_append, not_or] at apart
        exact apart.1.1
      rw [List.foldl_cons, Dict.set_of_new new, ih _ (by rwa [List.append_assoc]),
        List.append_assoc]
      rfl
  exact general entries [] distinct

theorem skipSpace_dumpsValue (floats : FloatText) (value : Json) (rest : List Char) :
    skipSpace (dumpsValue floats value ++ rest) = dumpsValue floats value ++ rest := by
  obtain ⟨c, text, split, starts⟩ := dumpsValue_starts floats value
  rw [split]
  exact skipSpace_cons starts.1 _

/-! One case for each constructor: if the parts are read back, so is the whole. -/

section Parts

variable {fuel : Nat} {rest : List Char}

theorem parseValue_arr {first : Json} {items : List Json}
    (head : parseValue floats fuel (dumpsValue floats first ++ (dumpsItems floats items ++ rest)) =
      some (first, dumpsItems floats items ++ rest))
    (tail : parseItems floats fuel (dumpsItems floats items ++ rest) = some (items, rest)) :
    parseValue floats (fuel + 1) (dumpsValue floats (.arr (first :: items)) ++ rest) =
      some (.arr (first :: items), rest) := by
  obtain ⟨c, text, split, starts⟩ := dumpsValue_starts floats first
  rw [dumpsValue, List.cons_append, List.append_assoc, parseValue, if_neg (by decide), if_pos rfl,
    skipSpace_dumpsValue]
  split
  · rename_i after closed
    rw [split, List.cons_append, List.cons.injEq] at closed
    exact absurd closed.1 starts.2
  · rw [head]
    simp only [Option.bind_eq_bind, Option.bind_some, tail, Option.pure_def]

theorem parseItems_cons {item : Json} {items : List Json}
    (head : parseValue floats fuel (dumpsValue floats item ++ (dumpsItems floats items ++ rest)) =
      some (item, dumpsItems floats items ++ rest))
    (tail : parseItems floats fuel (dumpsItems floats items ++ rest) = some (items, rest)) :
    parseItems floats (fuel + 1) (dumpsItems floats (item :: items) ++ rest) =
      some (item :: items, rest) := by
  have space : skipSpace (' ' :: (dumpsValue floats item ++ (dumpsItems floats items ++ rest))) =
      dumpsValue floats item ++ (dumpsItems floats items ++ rest) :=
    skipSpace_dumpsValue floats item _
  rw [dumpsItems, List.cons_append, List.cons_append, List.append_assoc, parseItems,
    skipSpace_cons (by decide)]
  simp only [space, head, Option.bind_eq_bind, Option.bind_some, tail, Option.pure_def]

variable {key : String} {value : Json} {entries : List (String × Json)}

theorem parseValue_obj (distinct : (((key, value) :: entries).map Prod.fst).Nodup)
    (named : (quote key).length ≤ fuel + 1)
    (head : parseValue floats fuel
      (dumpsValue floats value ++ (dumpsEntries floats entries ++ rest)) =
        some (value, dumpsEntries floats entries ++ rest))
    (tail : parseEntries floats fuel (dumpsEntries floats entries ++ rest) = some (entries, rest)) :
    parseValue floats (fuel + 1) (dumpsValue floats (.obj ((key, value) :: entries)) ++ rest) =
      some (.obj ((key, value) :: entries), rest) := by
  have start : skipSpace (quote key ++ ':' :: ' ' ::
      (dumpsValue floats value ++ (dumpsEntries floats entries ++ rest))) =
        '"' :: (key.toList.flatMap escapeChar ++ ['"'] ++ ':' :: ' ' ::
          (dumpsValue floats value ++ (dumpsEntries floats entries ++ rest))) :=
    skipSpace_cons (by decide) _
  rw [dumpsValue, List.cons_append, List.append_assoc, List.cons_append, List.cons_append,
    List.append_assoc, parseValue, if_neg (by decide), if_neg (by decide), if_pos rfl, start]
  show (do
    let (key, rest) ← parseKey fuel (quote key ++ ':' :: ' ' ::
      (dumpsValue floats value ++ (dumpsEntries floats entries ++ rest)))
    let (value, rest) ← parseValue floats fuel rest
    let (entries, rest) ← parseEntries floats fuel rest
    return (.obj (dictOf ((key, value) :: entries)), rest) : Option (Json × List Char)) = _
  rw [parseKey_quote named (skipSpace_dumpsValue floats value _)]
  simp only [Option.bind_eq_bind, Option.bind_some, head, tail, Option.pure_def,
    dictOf_of_nodup distinct]

theorem parseEntries_cons (named : (quote key).length ≤ fuel + 1)
    (head : parseValue floats fuel
      (dumpsValue floats value ++ (dumpsEntries floats entries ++ rest)) =
        some (value, dumpsEntries floats entries ++ rest))
    (tail : parseEntries floats fuel (dumpsEntries floats entries ++ rest) = some (entries, rest)) :
    parseEntries floats (fuel + 1) (dumpsEntries floats ((key, value) :: entries) ++ rest) =
      some ((key, value) :: entries, rest) := by
  have space : skipSpace (' ' :: (quote key ++ ':' :: ' ' ::
      (dumpsValue floats value ++ (dumpsEntries floats entries ++ rest)))) =
        quote key ++ ':' :: ' ' ::
          (dumpsValue floats value ++ (dumpsEntries floats entries ++ rest)) :=
    skipSpace_cons (c := '"') (by decide) _
  rw [dumpsEntries, List.cons_append, List.cons_append, List.append_assoc, List.cons_append,
    List.cons_append, List.append_assoc, parseEntries, skipSpace_cons (by decide)]
  simp only [space, parseKey_quote named (skipSpace_dumpsValue floats value _), head, tail,
    Option.bind_eq_bind, Option.bind_some, Option.pure_def]

end Parts

/-! The induction: a value, the items of an array, the entries of an object. -/

mutual

/-- **A value is read back from its text**, whatever follows that does not go on with a number. -/
theorem parseValue_dumps (value : Json) (proper : Proper value) {fuel : Nat} {rest : List Char}
    (enough : (dumpsValue floats value).length ≤ fuel) (stops : Stops rest) :
    parseValue floats (fuel + 1) (dumpsValue floats value ++ rest) = some (value, rest) := by
  match value with
  | .null => simp [dumpsValue, parseValue, parseKeyword, keywords, List.isPrefixOf?]
  | .bool true => simp [dumpsValue, parseValue, parseKeyword, keywords, List.isPrefixOf?]
  | .bool false => simp [dumpsValue, parseValue, parseKeyword, keywords, List.isPrefixOf?]
  | .int value =>
    rw [dumpsValue]
    refine parseValue_number (intText_ne_nil value) (isNumberChar_intText value) stops ?_
    rw [readNumber, if_neg (isFloatMark_intText value), readInt_intText, Option.map_some]
  | .float value =>
    rw [dumpsValue]
    refine parseValue_number (repr_ne_nil value) (floats.isNumberChar_repr value) stops ?_
    rw [readNumber, if_pos (floats.isFloatMark_repr value), floats.read_repr, Option.map_some]
  | .str text =>
    rw [dumpsValue] at enough ⊢
    obtain ⟨split, read⟩ := scanString_quote (enough.trans (Nat.le_succ fuel)) rest
    rw [split, parseValue, if_pos rfl, read]
    simp only [Option.map_some, String.ofList_toList]
  | .arr [] => simp [dumpsValue, parseValue, skipSpace, isJsonSpace]
  | .arr (first :: items) =>
    rw [dumpsValue, List.length_cons, List.length_append] at enough
    obtain ⟨less, rfl⟩ : ∃ less, fuel = less + 1 := Nat.exists_eq_add_one.mpr (by omega)
    exact parseValue_arr (parseValue_dumps first proper.1 (by omega) (dumpsItems_stops items rest))
      (parseItems_dumps items proper.2 (by omega))
  | .obj [] => simp [dumpsValue, parseValue, skipSpace, isJsonSpace]
  | .obj ((key, value) :: entries) =>
    rw [dumpsValue, List.length_cons, List.length_append, List.length_cons, List.length_cons,
      List.length_append] at enough
    obtain ⟨less, rfl⟩ : ∃ less, fuel = less + 1 := Nat.exists_eq_add_one.mpr (by omega)
    exact parseValue_obj proper.1 (by omega)
      (parseValue_dumps value proper.2.1 (by omega) (dumpsEntries_stops entries rest))
      (parseEntries_dumps entries proper.2.2 (by omega))

theorem parseItems_dumps (items : List Json) (proper : ProperItems items) {fuel : Nat}
    {rest : List Char} (enough : (dumpsItems floats items).length ≤ fuel) :
    parseItems floats (fuel + 1) (dumpsItems floats items ++ rest) = some (items, rest) := by
  match items with
  | [] => simp [dumpsItems, parseItems, skipSpace, isJsonSpace]
  | item :: items =>
    rw [dumpsItems, List.length_cons, List.length_cons, List.length_append] at enough
    obtain ⟨less, rfl⟩ : ∃ less, fuel = less + 1 := Nat.exists_eq_add_one.mpr (by omega)
    exact parseItems_cons (parseValue_dumps item proper.1 (by omega) (dumpsItems_stops items rest))
      (parseItems_dumps items proper.2 (by omega))

theorem parseEntries_dumps (entries : List (String × Json)) (proper : ProperEntries entries)
    {fuel : Nat} {rest : List Char} (enough : (dumpsEntries floats entries).length ≤ fuel) :
    parseEntries floats (fuel + 1) (dumpsEntries floats entries ++ rest) =
      some (entries, rest) := by
  match entries with
  | [] => simp [dumpsEntries, parseEntries, skipSpace, isJsonSpace]
  | (key, value) :: entries =>
    rw [dumpsEntries, List.length_cons, List.length_cons, List.length_append, List.length_cons,
      List.length_cons, List.length_append] at enough
    obtain ⟨less, rfl⟩ : ∃ less, fuel = less + 1 := Nat.exists_eq_add_one.mpr (by omega)
    exact parseEntries_cons (by omega)
      (parseValue_dumps value proper.1 (by omega) (dumpsEntries_stops entries rest))
      (parseEntries_dumps entries proper.2 (by omega))

end

/-- **`loads` undoes `dumps`.** -/
theorem loads_dumps {value : Json} (proper : Proper value) :
    loads floats (dumps floats value) = some value := by
  have read : parseValue floats ((dumpsValue floats value).length + 1) (dumpsValue floats value) =
      some (value, []) := by
    have whole := @parseValue_dumps floats value proper _ [] (Nat.le_refl _) fun c head => by
      simp at head
    rwa [List.append_nil] at whole
  have start : skipSpace (dumpsValue floats value) = dumpsValue floats value := by
    have whole := skipSpace_dumpsValue floats value []
    rwa [List.append_nil] at whole
  unfold loads dumps
  rw [String.toList_ofList, start, read]
  rfl

/-- A float written as its fraction, a point between the two numbers. -/
def FloatText.fraction : FloatText where
  repr value := intText value.num ++ '.' :: Nat.toDigits 10 value.den
  read text :=
    match readInt (text.takeWhile (· ≠ '.')), readNat (text.dropWhile (· ≠ '.')).tail with
    | some num, some den => some (mkRat num den)
    | _, _ => none
  read_repr value := by
    have pointless : ∀ c ∈ intText value.num, decide (c ≠ '.') = true := by
      intro c member
      refine decide_eq_true fun point => isFloatMark_intText value.num (List.any_eq_true.mpr ?_)
      exact ⟨c, member, point ▸ by decide⟩
    rw [List.takeWhile_append_of_pos pointless, List.dropWhile_append_of_pos pointless]
    simp [readInt_intText, readNat_toDigits, Rat.mkRat_self]
  isNumberChar_repr value c member := by
    rcases List.mem_append.mp member with num | rest
    · exact isNumberChar_intText value.num c num
    · rcases List.mem_cons.mp rest with rfl | den
      · decide
      · rw [isNumberChar, isDigit_toDigits den, Bool.true_or]
  isFloatMark_repr value := by
    rw [List.any_append, List.any_cons, show isFloatMark '.' = true by decide, Bool.true_or,
      Bool.or_true]

example : dumps .fraction (.obj [("a", .arr [.int (-1), .null]), ("b", .str "\"é😀")]) =
    "\x7b\"a\": [-1, null], \"b\": \"\\\"\\u00e9\\ud83d\\ude00\"\x7d" := by
  decide +kernel

end ScreenSync.Foundation.JsonText
