import PartDefs.Proofs.Json.Letters

/-!
# JSON values and their spellings

A JSON value is a tree.  Objects list their members in order and may repeat a name, numbers keep the
digits they are written with, and what strings are made of is left open.  A value has many
spellings, which differ in the space between tokens and in the escapes; the compact one has no
space.
-/

namespace PartDefs.Json

/-! ## Numerals -/

/-- A run of decimal digits. -/
structure Digits where
  first : Char
  others : List Char
  decimal : ∀ c ∈ first :: others, c.isDigit = true

/-- The characters of a run of digits. -/
def Digits.chars (run : Digits) : List Char :=
  run.first :: run.others

/-- The exponent of a numeral. -/
structure Exponent where
  mark : Char
  sign : Option Char
  digits : Digits
  isMark : mark = 'e' ∨ mark = 'E'
  isSign : ∀ c ∈ sign, c = '+' ∨ c = '-'

/-- The characters of an exponent. -/
def Exponent.chars (exponent : Exponent) : List Char :=
  exponent.mark :: (exponent.sign.toList ++ exponent.digits.chars)

/-- A number as it is written. -/
structure Numeral where
  negative : Bool
  whole : Digits
  fraction : Option Digits
  exponent : Option Exponent
  /-- The whole part has no needless zeros. -/
  tidy : whole.first = '0' → whole.others = []

namespace Numeral

/-- The characters of the exponent, if there is one. -/
def exponentChars (numeral : Numeral) : List Char :=
  numeral.exponent.elim [] Exponent.chars

/-- The characters of a numeral behind its whole part. -/
def behindWhole (numeral : Numeral) : List Char :=
  (numeral.fraction.elim [] fun places => '.' :: places.chars) ++ numeral.exponentChars

/-- The characters of a numeral behind its sign. -/
def unsigned (numeral : Numeral) : List Char :=
  numeral.whole.chars ++ numeral.behindWhole

/-- The characters of a numeral. -/
def chars (numeral : Numeral) : List Char :=
  if numeral.negative then '-' :: numeral.unsigned else numeral.unsigned

end Numeral

/-! ## Trees -/

/-- A kind of string in JSON values, given by the UTF-16 units of its strings. -/
class Lettered (σ : Type) where
  units : σ → List Nat
  /-- Every text is a string of this kind. -/
  ofText : String → σ
  units_ofText : ∀ text, units (ofText text) = Json.units text

/-- Strings that are texts. -/
instance : Lettered String where
  units := Json.units
  ofText text := text
  units_ofText _ := rfl

/-- Strings of any units, surrogates without partners among them. -/
instance : Lettered (List Nat) where
  units spelled := spelled
  ofText := Json.units
  units_ofText _ := rfl

/-- A JSON value with strings of a certain kind. -/
inductive Value (σ : Type) where
  | null
  | boolean (value : Bool)
  | number (numeral : Numeral)
  | string (letters : σ)
  | array (items : List (Value σ))
  | object (members : List (σ × Value σ))

/-! ## Spellings -/

/-- Space leads from the start of a text to a rest of it. -/
def Space (text rest : List Char) : Prop :=
  ∃ blank, text = blank ++ rest ∧ ∀ c ∈ blank, isSpace c = true

theorem Space.refl (text : List Char) : Space text text :=
  ⟨[], rfl, by simp⟩

/-- An element or member begins here: at once if it is the first, else behind a comma. -/
inductive Separated : Bool → List Char → List Char → Prop where
  | first {text : List Char} : Separated true text text
  | later {text rest : List Char} : Space text (',' :: rest) → Separated false text rest

/-- No character follows that could belong to a number. -/
def EndsNumber (rest : List Char) : Prop :=
  ∀ c ∈ rest.head?, isSpace c = true ∨ c = ',' ∨ c = ']' ∨ c = '\x7d'

variable {σ : Type} [Lettered σ]

mutual

/-- A text begins with a spelling of a value, with space before it, and a rest is left behind. -/
inductive Spells : List Char → Value σ → List Char → Prop where
  | null {text rest : List Char} :
      Space text ('n' :: 'u' :: 'l' :: 'l' :: rest) →
      Spells text .null rest
  | yes {text rest : List Char} :
      Space text ('t' :: 'r' :: 'u' :: 'e' :: rest) →
      Spells text (.boolean true) rest
  | no {text rest : List Char} :
      Space text ('f' :: 'a' :: 'l' :: 's' :: 'e' :: rest) →
      Spells text (.boolean false) rest
  | number {text rest : List Char} {numeral : Numeral} :
      Space text (numeral.chars ++ rest) →
      EndsNumber rest →
      Spells text (.number numeral) rest
  | string {text inner rest : List Char} {letters : σ} :
      Space text ('"' :: inner) →
      Letters inner (Lettered.units letters) rest →
      Spells text (.string letters) rest
  | array {text inner rest : List Char} {items : List (Value σ)} :
      Space text ('[' :: inner) →
      SpellsItems true inner items rest →
      Spells text (.array items) rest
  | object {text inner rest : List Char} {members : List (σ × Value σ)} :
      Space text ('\x7b' :: inner) →
      SpellsMembers true inner members rest →
      Spells text (.object members) rest

/-- A text begins with the elements that an array still has, and with its closing bracket. -/
inductive SpellsItems : Bool → List Char → List (Value σ) → List Char → Prop where
  | close {first : Bool} {text rest : List Char} :
      Space text (']' :: rest) →
      SpellsItems first text [] rest
  | item {first : Bool} {text inner behind rest : List Char} {value : Value σ}
      {items : List (Value σ)} :
      Separated first text inner →
      Spells inner value behind →
      SpellsItems false behind items rest →
      SpellsItems first text (value :: items) rest

/-- A text begins with the members that an object still has, and with its closing brace. -/
inductive SpellsMembers : Bool → List Char → List (σ × Value σ) → List Char → Prop where
  | close {first : Bool} {text rest : List Char} :
      Space text ('\x7d' :: rest) →
      SpellsMembers first text [] rest
  | member {first : Bool} {text inner key afterKey given behind rest : List Char} {name : σ}
      {value : Value σ} {members : List (σ × Value σ)} :
      Separated first text inner →
      Space inner ('"' :: key) →
      Letters key (Lettered.units name) afterKey →
      Space afterKey (':' :: given) →
      Spells given value behind →
      SpellsMembers false behind members rest →
      SpellsMembers first text ((name, value) :: members) rest

end

/-- A whole text consists of a spelling of a value and space around it. -/
def Value.SpelledBy (value : Value σ) (text : String) : Prop :=
  ∃ rest, Spells text.toList value rest ∧ Space rest []

/-! ## Compact texts -/

/-- A character inside a string: by a letter if it has one, a slash aside, else by its number if
it is a control character. -/
def compactChar (c : Char) : List Char :=
  match shortEscapes.find? fun pair => pair.2 = c ∧ c ≠ '/' with
  | some pair => ['\\', pair.1]
  | none =>
      if c.toNat < 0x20 then
        ['\\', 'u', '0', '0', lowerDigits.getD (c.toNat / 16) '0',
          lowerDigits.getD (c.toNat % 16) '0']
      else [c]

/-- A string in quotes. -/
def compactString (text : String) : List Char :=
  '"' :: text.toList.flatMap compactChar ++ ['"']

mutual

/-- The spelling of a value without space. -/
def Value.compact : Value String → List Char
  | .null => ['n', 'u', 'l', 'l']
  | .boolean true => ['t', 'r', 'u', 'e']
  | .boolean false => ['f', 'a', 'l', 's', 'e']
  | .number numeral => numeral.chars
  | .string text => compactString text
  | .array items => '[' :: compactItems true items
  | .object members => '\x7b' :: compactMembers true members

/-- The elements that an array still has, with its closing bracket. -/
def compactItems : Bool → List (Value String) → List Char
  | _, [] => [']']
  | first, value :: items =>
      (if first then [] else [',']) ++ (value.compact ++ compactItems false items)

/-- The members that an object still has, with its closing brace. -/
def compactMembers : Bool → List (String × Value String) → List Char
  | _, [] => ['\x7d']
  | first, (name, value) :: members =>
      (if first then [] else [',']) ++
        (compactString name ++ ':' :: (value.compact ++ compactMembers false members))

end

theorem isHexDigit_getD {value : Nat} (small : value < 16) :
    IsHexDigit (lowerDigits.getD value '0') value := by
  have inside : value < lowerDigits.length := small
  exact .inl (by simp [inside])

theorem letters_compactChar (c : Char) {text rest : List Char} {later : List Nat}
    (letters : Letters text later rest) :
    Letters (compactChar c ++ text) (unitsOf c ++ later) rest := by
  unfold compactChar
  split
  · next pair found =>
      have listed := List.mem_of_find?_eq_some found
      have fits : pair.2 = c ∧ c ≠ '/' := by simpa using List.find?_some found
      exact .short (fits.1 ▸ listed) letters
  · next absent =>
      have other : ∀ pair ∈ shortEscapes, pair.2 = c → c = '/' := by
        intro pair listed same
        have := List.find?_eq_none.1 absent pair listed
        simpa [same] using this
      split
      · next control =>
          have alone : unitsOf c = [((0 * 16 + 0) * 16 + c.toNat / 16) * 16 + c.toNat % 16] := by
            rw [unitsOf, if_pos (Nat.lt_trans control (by decide))]
            congr 1
            omega
          have zero : IsHexDigit '0' 0 := .inl rfl
          rw [alone]
          exact .unit zero zero (isHexDigit_getD (by omega))
            (isHexDigit_getD (Nat.mod_lt _ (by decide))) letters
      · next visible =>
          refine .raw ?_ ?_ (Nat.le_of_not_lt visible) letters
          · rintro rfl
            exact absurd (other ('"', '"') (by decide) rfl) (by decide)
          · rintro rfl
            exact absurd (other ('\\', '\\') (by decide) rfl) (by decide)

theorem letters_compactString (text : String) (rest : List Char) :
    Letters (text.toList.flatMap compactChar ++ '"' :: rest) (units text) rest := by
  rw [units]
  induction text.toList with
  | nil => exact .close
  | cons c text ih =>
      rw [List.flatMap_cons, List.flatMap_cons, List.append_assoc]
      exact letters_compactChar c ih

/-- What follows an element or a member ends a number. -/
theorem endsNumber_cons {c : Char} (mark : c = ',' ∨ c = ']' ∨ c = '\x7d') (rest : List Char) :
    EndsNumber (c :: rest) := by
  intro d first
  obtain rfl : c = d := by simpa using first
  exact .inr mark

theorem endsNumber_compactItems (items : List (Value String)) (rest : List Char) :
    EndsNumber (compactItems false items ++ rest) := by
  cases items with
  | nil => exact endsNumber_cons (.inr (.inl rfl)) _
  | cons value items => exact endsNumber_cons (.inl rfl) _

theorem endsNumber_compactMembers (members : List (String × Value String)) (rest : List Char) :
    EndsNumber (compactMembers false members ++ rest) := by
  cases members with
  | nil => exact endsNumber_cons (.inr (.inr rfl)) _
  | cons member members => exact endsNumber_cons (.inl rfl) _

theorem separated_compact (first : Bool) (text : List Char) :
    Separated first ((if first then [] else [',']) ++ text) text := by
  cases first with
  | true => exact .first
  | false => exact .later (.refl _)

mutual

theorem spells_compact : ∀ (value : Value String) (rest : List Char), EndsNumber rest →
    Spells (value.compact ++ rest) value rest
  | .null, _, _ => .null (.refl _)
  | .boolean true, _, _ => .yes (.refl _)
  | .boolean false, _, _ => .no (.refl _)
  | .number _, _, ends => .number (.refl _) ends
  | .string text, rest, _ => by
      have quote : Space (compactString text ++ rest)
          ('"' :: (text.toList.flatMap compactChar ++ '"' :: rest)) := by
        simpa [compactString] using Space.refl _
      rw [Value.compact]
      exact .string quote (letters_compactString text rest)
  | .array items, rest, _ => .array (.refl _) (spellsItems_compact true items rest)
  | .object members, rest, _ => .object (.refl _) (spellsMembers_compact true members rest)

theorem spellsItems_compact : ∀ (first : Bool) (items : List (Value String)) (rest : List Char),
    SpellsItems first (compactItems first items ++ rest) items rest
  | _, [], _ => .close (.refl _)
  | first, value :: items, rest => by
      rw [compactItems, List.append_assoc, List.append_assoc]
      exact .item (separated_compact first _)
        (spells_compact value _ (endsNumber_compactItems items rest))
        (spellsItems_compact false items rest)

theorem spellsMembers_compact : ∀ (first : Bool) (members : List (String × Value String))
    (rest : List Char), SpellsMembers first (compactMembers first members ++ rest) members rest
  | _, [], _ => .close (.refl _)
  | first, (name, value) :: members, rest => by
      have letters := letters_compactString name
        (':' :: (value.compact ++ (compactMembers false members ++ rest)))
      have split : compactMembers first ((name, value) :: members) ++ rest =
          (if first then [] else [',']) ++ ('"' :: (name.toList.flatMap compactChar ++
            '"' :: ':' :: (value.compact ++ (compactMembers false members ++ rest)))) := by
        simp [compactMembers, compactString]
      rw [split]
      exact .member (separated_compact first _) (.refl _) letters (.refl _)
        (spells_compact value _ (endsNumber_compactMembers members rest))
        (spellsMembers_compact false members rest)

end

/-- Every value has a compact text. -/
theorem Value.spelledBy_compact (value : Value String) :
    value.SpelledBy (String.ofList value.compact) := by
  refine ⟨[], ?_, .refl _⟩
  simpa using spells_compact value [] (by simp [EndsNumber])

end PartDefs.Json
