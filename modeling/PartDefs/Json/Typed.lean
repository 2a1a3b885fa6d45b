import PartDefs.Json.Skip
import PartDefs.OrderedMap

/-!
# Reading values of wanted kinds

Readers for strings, booleans, optional values, lists, maps and records.  Values are read in one
pass, and the first fault met, of form or of kind, ends the reading.  A map keeps a repeated key at
its first place with its last value.  A record takes its fields by name, each at most once and
others skipped, or as a list in the order of declaration.
-/

namespace PartDefs.Json

/-- The fault of a value of another kind, once that value has been read. -/
def foundInstead (wanted : Wanted) (found : Found) : Except Fault (List Char) → Fault
  | .error fault => fault
  | .ok ahead => .at (.wrongKind found wanted) ahead

/-- The fault of a number or a string in the wrong place, once it has been read. -/
def readInstead {α : Type} {text : List Char} (wanted : Wanted) (found : α → Found) :
    Except Fault (Read α text) → Fault
  | .error fault => fault
  | .ok read => .at (.wrongKind (found read.value) wanted) read.rest

/-- The fault of a value, beginning with `c`, that is not of the wanted kind.  A scalar is read to
its end first and may turn out to be faulty itself. -/
def wrongKind (wanted : Wanted) (c : Char) (rest : List Char) : Fault :=
  match c with
  | 'n' => foundInstead wanted .null ((word ['u', 'l', 'l'] rest).map (·.rest))
  | 't' => foundInstead wanted (.boolean true) ((word ['r', 'u', 'e'] rest).map (·.rest))
  | 'f' => foundInstead wanted (.boolean false) ((word ['a', 'l', 's', 'e'] rest).map (·.rest))
  | '"' => readInstead wanted .string (stringTail rest)
  | '-' => readInstead wanted .number (number true rest)
  | '[' => .at (.wrongKind .sequence wanted) (c :: rest)
  | '\x7b' => .at (.wrongKind .map wanted) (c :: rest)
  | _ =>
      if c.isDigit then readInstead wanted .number (number false (c :: rest))
      else .beyond .expectedValue (c :: rest)

/-! ## Scalars -/

/-- Reads a string. -/
def string : Reader String := fun text =>
  match lead text with
  | .finished => .error (.beyond .endInValue [])
  | .next c rest shorter =>
      if c = '"' then return (← stringTail rest).inside shorter
      else .error (wrongKind .string c rest)

/-- Reads a boolean. -/
def boolean : Reader Bool := fun text =>
  match lead text with
  | .finished => .error (.beyond .endInValue [])
  | .next c rest shorter =>
      if c = 't' then
        return ((← word ['r', 'u', 'e'] rest).map fun _ => true).toRead shorter
      else if c = 'f' then
        return ((← word ['a', 'l', 's', 'e'] rest).map fun _ => false).toRead shorter
      else .error (wrongKind .boolean c rest)

/-- Reads `null` as nothing, and anything else as `reader` does. -/
def optional {α : Type} (reader : Reader α) : Reader (Option α) := fun text =>
  match lead text with
  | .finished => .error (.beyond .endInValue [])
  | .next c rest shorter =>
      if c = 'n' then
        return ((← word ['u', 'l', 'l'] rest).map fun _ => none).toRead shorter
      else return (← reader text).map some

/-! ## Lists -/

/-- What follows in an open list: its closing bracket, or another element. -/
inductive NextElement (text : List Char) where
  | closed (bracket : Read Unit text)
  | element (start : Scan Unit text)

/-- Goes to the next element of a list or behind its closing bracket. -/
def nextElement (first : Bool) (text : List Char) : Except Fault (NextElement text) :=
  match lead text with
  | .finished => .error (.beyond .endInList [])
  | .next c rest shorter =>
      if c = ']' then .ok (.closed ⟨(), rest, shorter⟩)
      else if first then .ok (.element (.here () text))
      else if c = ',' then
        match lead rest with
        | .finished => .error (.beyond .endInValue [])
        | .next d behind _ =>
            if d = ']' then .error (.beyond .trailingComma (d :: behind))
            else .ok (.element ((Scan.here () rest).inside shorter))
      else .error (.beyond .expectedCommaOrBracket (c :: rest))

/-- Reads the elements of a list up to its closing bracket. -/
def elements {α : Type} (element : Reader α) (first : Bool) (text : List Char) :
    Except Fault (Read (List α) text) := do
  match ← nextElement first text with
  | .closed bracket => return bracket.map fun _ => []
  | .element start =>
      let read := start.andRead (← element start.rest)
      let tail ← elements element false read.rest
      return (read.andThen tail).map (read.value :: ·)
termination_by text.length
decreasing_by exact read.shorter

/-- Reads a list. -/
def list {α : Type} (element : Reader α) : Reader (List α) := fun text =>
  match lead text with
  | .finished => .error (.beyond .endInValue [])
  | .next c rest shorter =>
      if c = '[' then return (← elements element true rest).inside shorter
      else .error (wrongKind .sequence c rest)

/-! ## Maps -/

/-- What follows in an open object: its closing brace, or another key. -/
inductive NextKey (text : List Char) where
  | closed (brace : Read Unit text)
  | key (name : Read String text)

/-- Reads the key of the next member of an object, or goes behind its closing brace. -/
def nextKey (first : Bool) (text : List Char) : Except Fault (NextKey text) :=
  match lead text with
  | .finished => .error (.beyond .endInObject [])
  | .next c rest shorter =>
      if c = '\x7d' then .ok (.closed ⟨(), rest, shorter⟩)
      else if first then
        if c = '"' then return .key ((← stringTail rest).inside shorter)
        else .error (.beyond .keyNotString (c :: rest))
      else if c = ',' then
        match lead rest with
        | .finished => .error (.beyond .endInValue [])
        | .next d behind further =>
            if d = '"' then return .key (((← stringTail behind).inside further).inside shorter)
            else if d = '\x7d' then .error (.beyond .trailingComma (d :: behind))
            else .error (.beyond .keyNotString (d :: behind))
      else .error (.beyond .expectedCommaOrBrace (c :: rest))

/-- Reads the value of a member, its key being behind. -/
def memberValue {α : Type} (value : Reader α) (text : List Char) :
    Except Fault (Read α text) := do
  let passed ← colon text
  return passed.andThen (← value passed.rest)

/-- Reads the members of an object up to its closing brace into a map. -/
def members {α : Type} (value : Reader α) (first : Bool) (kept : OrderedMap String α)
    (text : List Char) : Except Fault (Read (OrderedMap String α) text) := do
  match ← nextKey first text with
  | .closed brace => return brace.map fun _ => kept
  | .key name =>
      let read := name.andThen (← memberValue value name.rest)
      return read.andThen (← members value false (kept.insert name.value read.value) read.rest)
termination_by text.length
decreasing_by exact read.shorter

/-- Reads a map. -/
def map {α : Type} (value : Reader α) : Reader (OrderedMap String α) := fun text =>
  match lead text with
  | .finished => .error (.beyond .endInValue [])
  | .next c rest shorter =>
      if c = '\x7b' then return (← members value true ∅ rest).inside shorter
      else .error (wrongKind .map c rest)

/-! ## Records -/

/-- A field of a record: its name, and how its value is read and put into the record. -/
structure Field (ρ : Type) where
  name : String
  read : Reader (ρ → ρ)

/-- The field of a name, filled with what a reader yields. -/
def field {ρ α : Type} (name : String) (reader : Reader α) (set : α → ρ → ρ) : Field ρ :=
  ⟨name, reader.map set⟩

/-- The fault of a field that is given again, its second key being behind.  It is reported behind
the space that follows, and behind the closing brace if that comes next. -/
def duplicateField (name : String) (text : List Char) : Fault :=
  match lead text with
  | .finished => .at (.duplicateField name) []
  | .next c rest _ => .at (.duplicateField name) (if c = '\x7d' then rest else c :: rest)

/-- Reads the members of an object into a record.  The names in `given` have been read already. -/
def namedFields {ρ : Type} (fields : List (Field ρ)) (given : List String) (first : Bool)
    (record : ρ) (text : List Char) : Except Fault (Read ρ text) := do
  match ← nextKey first text with
  | .closed brace => return brace.map fun _ => record
  | .key name =>
      match fields.find? (·.name = name.value) with
      | some field =>
          if name.value ∈ given then .error (duplicateField name.value name.rest)
          else
            let read := name.andThen (← memberValue field.read name.rest)
            let all ← namedFields fields (name.value :: given) false (read.value record) read.rest
            return read.andThen all
      | none =>
          let skipped := name.andThen (← memberValue skipValue name.rest)
          return skipped.andThen (← namedFields fields given false record skipped.rest)
termination_by text.length
decreasing_by
  · exact read.shorter
  · exact skipped.shorter

/-- Passes the closing bracket behind the last field of a record that is written as a list. -/
def closeFields (text : List Char) : Except Fault (Read Unit text) :=
  match lead text with
  | .finished => .error (.beyond .endInList [])
  | .next c rest shorter =>
      if c = ']' then .ok ⟨(), rest, shorter⟩
      else if c = ',' then
        match lead rest with
        | .finished => .error (.beyond .trailingCharacters [])
        | .next d behind _ =>
            .error (.beyond (if d = ']' then .trailingComma else .trailingCharacters) (d :: behind))
      else .error (.beyond .trailingCharacters (c :: rest))

/-- Reads the elements of a list into the fields of a record, one after another. -/
def listedFields {ρ : Type} (fields : List (Field ρ)) (first : Bool) (record : ρ)
    (text : List Char) : Except Fault (Read ρ text) :=
  match fields with
  | [] => return (← closeFields text).map fun _ => record
  | field :: fields => do
      match ← nextElement first text with
      | .closed bracket => return bracket.map fun _ => record
      | .element start =>
          let read := start.andRead (← field.read start.rest)
          return read.andThen (← listedFields fields false (read.value record) read.rest)

/-- Reads a record, written as an object or as a list.  Fields that are not given keep the value
they have in `initial`. -/
def record {ρ : Type} (wanted : Wanted) (fields : List (Field ρ)) (initial : ρ) : Reader ρ :=
  fun text =>
    match lead text with
    | .finished => .error (.beyond .endInValue [])
    | .next c rest shorter =>
        if c = '\x7b' then return (← namedFields fields [] true initial rest).inside shorter
        else if c = '[' then return (← listedFields fields true initial rest).inside shorter
        else .error (wrongKind wanted c rest)

/-! ## Whole texts -/

/-- Reads a text that consists of one value and space around it. -/
def document {α : Type} (reader : Reader α) (text : List Char) : Except Fault α := do
  let read ← reader text
  match lead read.rest with
  | .finished => return read.value
  | .next c rest _ => .error (.beyond .trailingCharacters (c :: rest))

end PartDefs.Json
