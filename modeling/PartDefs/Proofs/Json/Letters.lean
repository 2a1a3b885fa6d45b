import PartDefs.Proofs.Json.Outcome

/-!
# Letters of JSON strings

A JSON string stands for a sequence of UTF-16 units.  Each unit may be written as an escape of its
own, so a string can hold a surrogate without its partner; then it stands for no text.  A string
that is kept is read as the text of its units, and one that is skipped may hold any units.
-/

namespace PartDefs.Json

/-! ## UTF-16 units -/

/-- The UTF-16 units of a character. -/
def unitsOf (c : Char) : List Nat :=
  if c.toNat < 0x10000 then [c.toNat]
  else [0xd800 + (c.toNat - 0x10000) / 0x400, 0xdc00 + (c.toNat - 0x10000) % 0x400]

/-- The UTF-16 units of a text. -/
def units (text : String) : List Nat :=
  text.toList.flatMap unitsOf

/-- The characters that UTF-16 units stand for, unless a surrogate has no partner. -/
def charsOf? : List Nat → Option (List Char)
  | [] => some []
  | unit :: rest =>
      if isLowSurrogate unit then none
      else if isHighSurrogate unit then
        match rest with
        | [] => none
        | low :: rest =>
            if isLowSurrogate low then (charsOf? rest).map (pairedChar unit low :: ·) else none
      else (charsOf? rest).map (Char.ofNat unit :: ·)

theorem isLowSurrogate_iff {unit : Nat} :
    isLowSurrogate unit = true ↔ 0xdc00 ≤ unit ∧ unit ≤ 0xdfff := by
  simp [isLowSurrogate]

theorem isHighSurrogate_iff {unit : Nat} :
    isHighSurrogate unit = true ↔ 0xd800 ≤ unit ∧ unit ≤ 0xdbff := by
  simp [isHighSurrogate]

theorem not_isLowSurrogate_of_isHighSurrogate {unit : Nat}
    (high : isHighSurrogate unit = true) : ¬isLowSurrogate unit = true := by
  rw [isHighSurrogate_iff] at high
  rw [isLowSurrogate_iff]
  omega

theorem charsOf?_basic {unit : Nat} (notLow : ¬isLowSurrogate unit = true)
    (notHigh : ¬isHighSurrogate unit = true) (rest : List Nat) :
    charsOf? (unit :: rest) = (charsOf? rest).map (Char.ofNat unit :: ·) := by
  rw [charsOf?.eq_def]
  simp only [if_neg notLow, if_neg notHigh]

theorem charsOf?_low {unit : Nat} (isLow : isLowSurrogate unit = true) (rest : List Nat) :
    charsOf? (unit :: rest) = none := by
  unfold charsOf?
  rw [if_pos isLow]

theorem charsOf?_high_nil {unit : Nat} (isHigh : isHighSurrogate unit = true) :
    charsOf? [unit] = none := by
  unfold charsOf?
  rw [if_neg (not_isLowSurrogate_of_isHighSurrogate isHigh), if_pos isHigh]

theorem charsOf?_high_cons {unit : Nat} (isHigh : isHighSurrogate unit = true) (low : Nat)
    (rest : List Nat) : charsOf? (unit :: low :: rest) =
      if isLowSurrogate low then (charsOf? rest).map (pairedChar unit low :: ·) else none := by
  rw [charsOf?.eq_def]
  simp only [if_neg (not_isLowSurrogate_of_isHighSurrogate isHigh), if_pos isHigh]

/-- No character is a surrogate. -/
theorem toNat_range (c : Char) : c.toNat < 0xd800 ∨ 0xdfff < c.toNat ∧ c.toNat < 0x110000 :=
  c.valid

/-- The units of a character are one that is no surrogate, or a surrogate pair. -/
theorem unitsOf_cases (c : Char) :
    (unitsOf c = [c.toNat] ∧ ¬isLowSurrogate c.toNat = true ∧ ¬isHighSurrogate c.toNat = true) ∨
      ∃ high low, unitsOf c = [high, low] ∧ isHighSurrogate high = true ∧
        isLowSurrogate low = true ∧ pairedChar high low = c := by
  have range := toNat_range c
  by_cases basic : c.toNat < 0x10000
  · refine .inl ⟨if_pos basic, ?_, ?_⟩
    · rw [isLowSurrogate_iff]
      omega
    · rw [isHighSurrogate_iff]
      omega
  · refine .inr ⟨_, _, if_neg basic, isHighSurrogate_iff.2 ?_, isLowSurrogate_iff.2 ?_, ?_⟩
    · omega
    · omega
    · have whole : 0x10000 + (0xd800 + (c.toNat - 0x10000) / 0x400 - 0xd800) * 0x400 +
          (0xdc00 + (c.toNat - 0x10000) % 0x400 - 0xdc00) = c.toNat := by omega
      rw [pairedChar, whole, Char.ofNat_toNat]

theorem charsOf?_unitsOf_append (c : Char) (rest : List Nat) :
    charsOf? (unitsOf c ++ rest) = (charsOf? rest).map (c :: ·) := by
  rcases unitsOf_cases c with ⟨alone, notLow, notHigh⟩ | ⟨high, low, pair, isHigh, isLow, same⟩
  · rw [alone, List.singleton_append, charsOf?_basic notLow notHigh, Char.ofNat_toNat]
  · rw [pair, List.cons_append, List.singleton_append, charsOf?_high_cons isHigh, if_pos isLow,
      same]

theorem charsOf?_units (text : String) : charsOf? (units text) = some text.toList := by
  rw [units]
  induction text.toList with
  | nil => rfl
  | cons c rest ih => rw [List.flatMap_cons, charsOf?_unitsOf_append, ih, Option.map_some]

/-- No partner for a high surrogate begins a character. -/
theorem charsOf?_high_unitsOf {high : Nat} (isHigh : isHighSurrogate high = true) (c : Char)
    (rest : List Nat) : charsOf? (high :: (unitsOf c ++ rest)) = none := by
  rcases unitsOf_cases c with ⟨alone, other, -⟩ | ⟨first, second, pair, isFirst, -, -⟩
  · rw [alone, List.singleton_append, charsOf?_high_cons isHigh, if_neg other]
  · rw [pair, List.cons_append, charsOf?_high_cons isHigh,
      if_neg (not_isLowSurrogate_of_isHighSurrogate isFirst)]

/-! ## Spellings -/

/-- The letters that may stand behind a backslash, with the characters they stand for. -/
def shortEscapes : List (Char × Char) :=
  [('"', '"'), ('\\', '\\'), ('/', '/'), ('b', '\x08'), ('f', '\x0c'), ('n', '\n'), ('r', '\r'),
    ('t', '\t')]

/-- The hexadecimal digits in lower case. -/
def lowerDigits : List Char :=
  ['0', '1', '2', '3', '4', '5', '6', '7', '8', '9', 'a', 'b', 'c', 'd', 'e', 'f']

/-- The hexadecimal digits in upper case. -/
def upperDigits : List Char :=
  ['0', '1', '2', '3', '4', '5', '6', '7', '8', '9', 'A', 'B', 'C', 'D', 'E', 'F']

/-- A hexadecimal digit, in either case, with its value. -/
def IsHexDigit (c : Char) (value : Nat) : Prop :=
  lowerDigits[value]? = some c ∨ upperDigits[value]? = some c

/-- The text from behind the opening quote of a string begins with the letters of some units and the
closing quote, and a rest is left behind. -/
inductive Letters : List Char → List Nat → List Char → Prop where
  | close {rest : List Char} : Letters ('"' :: rest) [] rest
  /-- A character stands for itself. -/
  | raw {c : Char} {text rest : List Char} {later : List Nat} :
      c ≠ '"' → c ≠ '\\' → 0x20 ≤ c.toNat →
      Letters text later rest →
      Letters (c :: text) (unitsOf c ++ later) rest
  /-- A character is told by a letter. -/
  | short {letter c : Char} {text rest : List Char} {later : List Nat} :
      (letter, c) ∈ shortEscapes →
      Letters text later rest →
      Letters ('\\' :: letter :: text) (unitsOf c ++ later) rest
  /-- A unit is told by its number. -/
  | unit {a b c d : Char} {i j k l : Nat} {text rest : List Char} {later : List Nat} :
      IsHexDigit a i → IsHexDigit b j → IsHexDigit c k → IsHexDigit d l →
      Letters text later rest →
      Letters ('\\' :: 'u' :: a :: b :: c :: d :: text)
        ((((i * 16 + j) * 16 + k) * 16 + l) :: later) rest

theorem shortEscape?_of_mem {letter c : Char} (listed : (letter, c) ∈ shortEscapes) :
    letter ≠ 'u' ∧ shortEscape? letter = some c := by
  have all : ∀ pair ∈ shortEscapes, pair.1 ≠ 'u' ∧ shortEscape? pair.1 = some pair.2 := by decide
  exact all _ listed

theorem hexDigit?_of_isHexDigit {c : Char} {value : Nat} (digit : IsHexDigit c value) :
    hexDigit? c = some value := by
  have lower : ∀ place : Fin 16, hexDigit? lowerDigits[place] = some place.1 := by decide
  have upper : ∀ place : Fin 16, hexDigit? upperDigits[place] = some place.1 := by decide
  rcases digit with listed | listed
  · obtain ⟨inside, rfl⟩ := List.getElem?_eq_some_iff.1 listed
    exact lower ⟨value, inside⟩
  · obtain ⟨inside, rfl⟩ := List.getElem?_eq_some_iff.1 listed
    exact upper ⟨value, inside⟩

theorem outcome_hexUnit {a b c d : Char} {i j k l : Nat} (first : IsHexDigit a i)
    (second : IsHexDigit b j) (third : IsHexDigit c k) (fourth : IsHexDigit d l)
    (rest : List Char) :
    Read.outcome (hexUnit (a :: b :: c :: d :: rest)) =
      some (((i * 16 + j) * 16 + k) * 16 + l, rest) := by
  have number : hexNumber? a b c d = some (((i * 16 + j) * 16 + k) * 16 + l) := by
    simp only [hexNumber?, hexDigit?_of_isHexDigit first, hexDigit?_of_isHexDigit second,
      hexDigit?_of_isHexDigit third, hexDigit?_of_isHexDigit fourth]
  simp only [hexUnit, number]
  rfl

/-! ## Reading -/

theorem outcome_unicodeEscape (text : List Char) :
    Read.outcome (unicodeEscape text) = (Read.outcome (hexUnit text)).bind fun unit =>
      if isLowSurrogate unit.1 then none
      else if isHighSurrogate unit.1 then
        (Read.outcome (lowSurrogate unit.2)).map fun low => (pairedChar unit.1 low.1, low.2)
      else some (Char.ofNat unit.1, unit.2) := by
  refine Read.outcome_bind fun unit => ?_
  simp only
  split
  · rfl
  · split
    · generalize pairedChar unit.value = pair
      exact Read.outcome_map pair (fun _ => rfl) fun _ => rfl
    · rfl

theorem outcome_lowSurrogate_escape (rest : List Char) :
    Read.outcome (lowSurrogate ('\\' :: 'u' :: rest)) =
      (Read.outcome (hexUnit rest)).bind fun low =>
        if isLowSurrogate low.1 then some low else none := by
  rw [lowSurrogate]
  refine Read.outcome_bind fun low => ?_
  simp only
  split <;> rfl

theorem outcome_lowSurrogate_of_ne {c : Char} (other : c ≠ '\\') (rest : List Char) :
    Read.outcome (lowSurrogate (c :: rest)) = none := by
  simp [lowSurrogate, other, Read.outcome]

theorem outcome_lowSurrogate_of_short {letter : Char} (other : letter ≠ 'u') (rest : List Char) :
    Read.outcome (lowSurrogate ('\\' :: letter :: rest)) = none := by
  simp [lowSurrogate, Read.outcome]

theorem outcome_escape_short {letter c : Char} (listed : (letter, c) ∈ shortEscapes)
    (rest : List Char) : Read.outcome (escape (letter :: rest)) = some (c, rest) := by
  obtain ⟨other, found⟩ := shortEscape?_of_mem listed
  simp only [escape, if_neg other, found]
  rfl

theorem outcome_escape_unicode (rest : List Char) :
    Read.outcome (escape ('u' :: rest)) = Read.outcome (unicodeEscape rest) :=
  Read.outcome_pass (fun _ => rfl) fun _ => rfl

theorem outcome_characters_close (rest : List Char) :
    Read.outcome (characters ('"' :: rest)) = some ([], rest) := by
  rw [characters]
  rfl

theorem outcome_characters_escape (rest : List Char) :
    Read.outcome (characters ('\\' :: rest)) = (Read.outcome (escape rest)).bind fun escaped =>
      (Read.outcome (characters escaped.2)).map fun tail => (escaped.1 :: tail.1, tail.2) := by
  rw [characters]
  exact Read.outcome_bind fun _ => Read.outcome_map _ (fun _ => rfl) fun _ => rfl

theorem outcome_characters_raw {c : Char} (notQuote : c ≠ '"') (notEscape : c ≠ '\\')
    (visible : 0x20 ≤ c.toNat) (rest : List Char) :
    Read.outcome (characters (c :: rest)) =
      (Read.outcome (characters rest)).map fun tail => (c :: tail.1, tail.2) := by
  have plain : ¬isControl c = true := by simpa [isControl] using visible
  rw [characters, if_neg notQuote, if_neg notEscape, if_neg plain]
  exact Read.outcome_map _ (fun _ => rfl) fun _ => rfl

/-- A string that is kept is read as the text of its units. -/
theorem Letters.outcome_characters {text rest : List Char} {spelled : List Nat} :
    Letters text spelled rest →
      Read.outcome (characters text) = (charsOf? spelled).map fun chars => (chars, rest)
  | .close => outcome_characters_close rest
  | .raw notQuote notEscape visible later => by
      rw [outcome_characters_raw notQuote notEscape visible, later.outcome_characters,
        charsOf?_unitsOf_append, Option.map_map, Option.map_map]
      rfl
  | .short listed later => by
      rw [outcome_characters_escape, outcome_escape_short listed, Option.bind_some,
        later.outcome_characters, charsOf?_unitsOf_append, Option.map_map, Option.map_map]
      rfl
  | @Letters.unit _ _ _ _ i j k l _ _ spelled first second third fourth later => by
      rw [outcome_characters_escape, outcome_escape_unicode, outcome_unicodeEscape,
        outcome_hexUnit first second third fourth, Option.bind_some]
      generalize ((i * 16 + j) * 16 + k) * 16 + l = unit
      by_cases isLow : isLowSurrogate unit = true
      · rw [if_pos isLow, charsOf?_low isLow]
        rfl
      · rw [if_neg isLow]
        by_cases isHigh : isHighSurrogate unit = true
        · rw [if_pos isHigh]
          -- The partner has to follow at once and as an escape of its own.
          match later with
          | .close =>
              rw [outcome_lowSurrogate_of_ne (by decide), charsOf?_high_nil isHigh]
              rfl
          | .raw _ notEscape _ _ =>
              rw [outcome_lowSurrogate_of_ne notEscape, charsOf?_high_unitsOf isHigh]
              rfl
          | .short listed _ =>
              rw [outcome_lowSurrogate_of_short (shortEscape?_of_mem listed).1,
                charsOf?_high_unitsOf isHigh]
              rfl
          | .unit first second third fourth later =>
              rw [outcome_lowSurrogate_escape, outcome_hexUnit first second third fourth,
                charsOf?_high_cons isHigh, Option.bind_some]
              split
              · simp only [Option.map_some, Option.bind_some]
                rw [later.outcome_characters, Option.map_map, Option.map_map]
                rfl
              · rfl
        · rw [if_neg isHigh, Option.bind_some, later.outcome_characters,
            charsOf?_basic isLow isHigh, Option.map_map, Option.map_map]
          rfl

theorem Letters.outcome_stringTail {text rest : List Char} {spelled : List Nat}
    (letters : Letters text spelled rest) :
    Read.outcome (stringTail text) =
      (charsOf? spelled).map fun chars => (String.ofList chars, rest) := by
  have read : Read.outcome (stringTail text) =
      (Read.outcome (characters text)).map fun read => (String.ofList read.1, read.2) :=
    Read.outcome_map String.ofList (fun _ => rfl) fun _ => rfl
  rw [read, letters.outcome_characters, Option.map_map]
  rfl

/-! ## Skipping -/

theorem outcome_skipString_close (rest : List Char) :
    Read.outcome (skipString ('"' :: rest)) = some ((), rest) := by
  rw [skipString]
  rfl

theorem outcome_skipString_escape (rest : List Char) :
    Read.outcome (skipString ('\\' :: rest)) =
      (Read.outcome (skipEscape rest)).bind fun escaped => Read.outcome (skipString escaped.2) := by
  rw [skipString]
  exact Read.outcome_bind fun _ => Read.outcome_pass (fun _ => rfl) fun _ => rfl

theorem outcome_skipString_raw {c : Char} (notQuote : c ≠ '"') (notEscape : c ≠ '\\')
    (visible : 0x20 ≤ c.toNat) (rest : List Char) :
    Read.outcome (skipString (c :: rest)) = Read.outcome (skipString rest) := by
  have plain : ¬isControl c = true := by simpa [isControl] using visible
  rw [skipString, if_neg notQuote, if_neg notEscape, if_neg plain]
  exact Read.outcome_pass (fun _ => rfl) fun _ => rfl

theorem outcome_skipEscape_short {letter c : Char} (listed : (letter, c) ∈ shortEscapes)
    (rest : List Char) : Read.outcome (skipEscape (letter :: rest)) = some ((), rest) := by
  obtain ⟨other, found⟩ := shortEscape?_of_mem listed
  simp only [skipEscape, if_neg other, found]
  rfl

theorem outcome_skipEscape_unicode (rest : List Char) :
    Read.outcome (skipEscape ('u' :: rest)) =
      (Read.outcome (hexUnit rest)).map fun unit => ((), unit.2) :=
  Read.outcome_map (fun _ => ()) (fun _ => rfl) fun _ => rfl

/-- A string is skipped whatever its units are. -/
theorem Letters.outcome_skipString {text rest : List Char} {spelled : List Nat}
    (letters : Letters text spelled rest) : Read.outcome (skipString text) = some ((), rest) := by
  induction letters with
  | close => exact outcome_skipString_close _
  | raw notQuote notEscape visible _ ih =>
      rw [outcome_skipString_raw notQuote notEscape visible, ih]
  | short listed _ ih =>
      rw [outcome_skipString_escape, outcome_skipEscape_short listed, Option.bind_some, ih]
  | unit first second third fourth _ ih =>
      rw [outcome_skipString_escape, outcome_skipEscape_unicode,
        outcome_hexUnit first second third fourth, Option.map_some, Option.bind_some, ih]

end PartDefs.Json
