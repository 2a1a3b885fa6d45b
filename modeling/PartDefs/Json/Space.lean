import PartDefs.Json.Fault

/-!
# Steps through a JSON text

Reading goes through a text from left to right.  Each step yields a value and the text behind it,
with the proof that this text is shorter, so that every loop over steps ends.
-/

namespace PartDefs.Json

/-- A value read from the front of a text and what is behind it. -/
structure Read (α : Type) (text : List Char) where
  value : α
  rest : List Char
  shorter : rest.length < text.length

/-- A value found at the front of a text, possibly in none of it, and what is behind it. -/
structure Scan (α : Type) (text : List Char) where
  value : α
  rest : List Char
  bound : rest.length ≤ text.length

/-- A way to read values of one kind from the front of a text. -/
abbrev Reader (α : Type) := (text : List Char) → Except Fault (Read α text)

namespace Read

variable {α β : Type} {text longer : List Char}

/-- A value that is told by one character. -/
def ofChar (value : α) (c : Char) (rest : List Char) : Read α (c :: rest) :=
  ⟨value, rest, Nat.lt_succ_self _⟩

/-- Changes the value and leaves the place as it is. -/
def map (f : α → β) (read : Read α text) : Read β text :=
  ⟨f read.value, read.rest, read.shorter⟩

/-- Takes a character in front into the text that was read. -/
def after (c : Char) (read : Read α text) : Read α (c :: text) :=
  ⟨read.value, read.rest, Nat.lt_succ_of_lt read.shorter⟩

/-- The same value, seen as read from a longer text. -/
def inside (read : Read α text) (shorter : text.length < longer.length) : Read α longer :=
  ⟨read.value, read.rest, Nat.lt_trans read.shorter shorter⟩

/-- The value of a second step, which starts where a first one stops. -/
def andThen (first : Read β text) (second : Read α first.rest) : Read α text :=
  ⟨second.value, second.rest, Nat.lt_trans second.shorter first.shorter⟩

/-- Forgets that something was read. -/
def toScan (read : Read α text) : Scan α text :=
  ⟨read.value, read.rest, Nat.le_of_lt read.shorter⟩

/-- What was read, less the first character. -/
def toScanBehind {c : Char} (read : Read α (c :: text)) : Scan α text :=
  ⟨read.value, read.rest, Nat.le_of_lt_succ read.shorter⟩

end Read

namespace Scan

variable {α β : Type} {text longer : List Char}

/-- A value that takes nothing from the text. -/
def here (value : α) (text : List Char) : Scan α text :=
  ⟨value, text, Nat.le_refl _⟩

/-- Changes the value and leaves the place as it is. -/
def map (f : α → β) (scan : Scan α text) : Scan β text :=
  ⟨f scan.value, scan.rest, scan.bound⟩

/-- Takes a character in front into the text that was found. -/
def after (c : Char) (scan : Scan α text) : Scan α (c :: text) :=
  ⟨scan.value, scan.rest, Nat.le_succ_of_le scan.bound⟩

/-- The same value, seen as found in a longer text. -/
def inside (scan : Scan α text) (shorter : text.length < longer.length) : Scan α longer :=
  ⟨scan.value, scan.rest, Nat.le_of_lt (Nat.lt_of_le_of_lt scan.bound shorter)⟩

/-- The value of a second step, which starts where a first one stops. -/
def andThen (first : Scan β text) (second : Scan α first.rest) : Scan α text :=
  ⟨second.value, second.rest, Nat.le_trans second.bound first.bound⟩

/-- A value that is read where a scan stops. -/
def andRead (first : Scan β text) (second : Read α first.rest) : Read α text :=
  ⟨second.value, second.rest, Nat.lt_of_lt_of_le second.shorter first.bound⟩

/-- The same value, read from a text of which more is behind. -/
def toRead (scan : Scan α text) (shorter : text.length < longer.length) : Read α longer :=
  ⟨scan.value, scan.rest, Nat.lt_of_le_of_lt scan.bound shorter⟩

/-- The same value, read together with a character in front. -/
def toReadAfter (c : Char) (scan : Scan α text) : Read α (c :: text) :=
  ⟨scan.value, scan.rest, Nat.lt_succ_of_le scan.bound⟩

end Scan

/-- Changes the values that a reader yields. -/
def Reader.map {α β : Type} (f : α → β) (reader : Reader α) : Reader β := fun text => do
  return (← reader text).map f

/-! ## Space between tokens -/

/-- The four characters that may stand between tokens. -/
def isSpace (c : Char) : Bool :=
  c == ' ' || c == '\t' || c == '\n' || c == '\r'

/-- What stands first in a text, leading space aside: nothing, or a character with the text
behind it. -/
inductive Lead (text : List Char) where
  | finished
  | next (c : Char) (rest : List Char) (shorter : rest.length < text.length)

/-- The lead of a text with one more character of space in front. -/
def Lead.afterSpace {text : List Char} (c : Char) : Lead text → Lead (c :: text)
  | finished => finished
  | next d rest shorter => next d rest (Nat.lt_succ_of_lt shorter)

/-- The lead of a text that begins with a token. -/
def Lead.ofToken (c : Char) (rest : List Char) : Lead (c :: rest) :=
  next c rest (Nat.lt_succ_self _)

/-- Looks past leading space. -/
def lead : (text : List Char) → Lead text
  | [] => .finished
  | c :: rest => if isSpace c then (lead rest).afterSpace c else .ofToken c rest

@[simp]
theorem lead_nil : lead [] = .finished :=
  rfl

theorem lead_cons_of_isSpace {c : Char} (space : isSpace c = true) (rest : List Char) :
    lead (c :: rest) = (lead rest).afterSpace c := by
  simp [lead, space]

theorem lead_cons_of_not_isSpace {c : Char} (token : isSpace c = false) (rest : List Char) :
    lead (c :: rest) = .ofToken c rest := by
  simp [lead, token]

/-! ## Words -/

/-- Reads the letters of a word of which the first is behind. -/
def word : (letters text : List Char) → Except Fault (Scan Unit text)
  | [], text => .ok (.here () text)
  | _ :: _, [] => .error (.at .endInValue [])
  | letter :: letters, c :: rest =>
      if c = letter then return (← word letters rest).after c
      else .error (.beyond .expectedWord (c :: rest))

theorem word_append (letters rest : List Char) :
    (word letters (letters ++ rest)).map (·.rest) = .ok rest := by
  induction letters with
  | nil => rfl
  | cons letter letters ih =>
      cases found : word letters (letters ++ rest) with
      | error fault => simp [found, Except.map] at ih
      | ok scan =>
          simp only [found, Except.map, Except.ok.injEq] at ih
          simp [word, found, Except.map, bind, Except.bind, pure, Except.pure, Scan.after, ih]

end PartDefs.Json
