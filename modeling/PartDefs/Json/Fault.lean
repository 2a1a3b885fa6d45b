import PartDefs.Decimal.Shortest
import PartDefs.Text.Quoted

/-!
# Faults in a JSON text

Reading stops at the first fault.  A fault keeps its cause, the text that was still ahead, and how
many bytes of that text count as already passed; the position in lines and bytes is worked out from
these when the fault is reported.
-/

namespace PartDefs.Json

/-- A number as read: a whole number that fits 64 bits, or a double with its sign. -/
inductive Number where
  | whole (value : Int)
  | real (negative : Bool) (magnitude : Double)
deriving DecidableEq

/-- The value found where another kind was wanted. -/
inductive Found where
  | null
  | boolean (value : Bool)
  | number (value : Number)
  | string (value : String)
  | sequence
  | map
deriving DecidableEq

/-- The kind of value wanted at a place of a descriptor file. -/
inductive Wanted where
  | map
  | sequence
  | string
  | boolean
  | part
  | method
deriving DecidableEq

/-- What is wrong with a text. -/
inductive Cause where
  | endInValue
  | endInList
  | endInObject
  | endInString
  | expectedWord
  | expectedValue
  | expectedCommaOrBracket
  | expectedCommaOrBrace
  | expectedColon
  | trailingComma
  | trailingCharacters
  | keyNotString
  | controlCharacter
  | invalidEscape
  | loneSurrogate
  | unpairedSurrogate
  | invalidNumber
  | numberOutOfRange
  | wrongKind (found : Found) (wanted : Wanted)
  | duplicateField (name : String)
deriving DecidableEq

/-- A cause and the place where reading stopped. -/
structure Fault where
  cause : Cause
  /-- The text not yet consumed. -/
  ahead : List Char
  /-- How many bytes of `ahead` lie before the reported position. -/
  passed : Nat
deriving DecidableEq

/-- A fault reported right where the text ahead begins. -/
def Fault.at (cause : Cause) (ahead : List Char) : Fault :=
  ⟨cause, ahead, 0⟩

/-- A fault reported behind the next byte, or at the end when nothing is ahead. -/
def Fault.beyond (cause : Cause) (ahead : List Char) : Fault :=
  ⟨cause, ahead, 1⟩

/-! ## Wording -/

/-- The text of a number in a message. -/
def Number.message : Number → String
  | .whole value => "integer `" ++ toString value ++ "`"
  | .real negative magnitude =>
      "floating point `" ++ (if negative then "-" else "") ++ magnitude.text ++ "`"

/-- The text of a found value in a message. -/
def Found.message : Found → String
  | .null => "null"
  | .boolean true => "boolean `true`"
  | .boolean false => "boolean `false`"
  | .number value => value.message
  | .string value => "string " ++ Text.quoted value
  | .sequence => "sequence"
  | .map => "map"

/-- The text of a wanted kind in a message. -/
def Wanted.message : Wanted → String
  | .map => "a map"
  | .sequence => "a sequence"
  | .string => "a string"
  | .boolean => "a boolean"
  | .part => "struct RawPart"
  | .method => "struct RawMethod"

/-- The wording of each cause. -/
def Cause.message : Cause → String
  | .endInValue => "EOF while parsing a value"
  | .endInList => "EOF while parsing a list"
  | .endInObject => "EOF while parsing an object"
  | .endInString => "EOF while parsing a string"
  | .expectedWord => "expected ident"
  | .expectedValue => "expected value"
  | .expectedCommaOrBracket => "expected `,` or `]`"
  | .expectedCommaOrBrace => "expected `,` or `\x7d`"
  | .expectedColon => "expected `:`"
  | .trailingComma => "trailing comma"
  | .trailingCharacters => "trailing characters"
  | .keyNotString => "key must be a string"
  | .controlCharacter => "control character (\\u0000-\\u001F) found while parsing a string"
  | .invalidEscape => "invalid escape"
  | .loneSurrogate => "lone leading surrogate in hex escape"
  | .unpairedSurrogate => "unexpected end of hex escape"
  | .invalidNumber => "invalid number"
  | .numberOutOfRange => "number out of range"
  | .wrongKind found wanted =>
      "invalid type: " ++ found.message ++ ", expected " ++ wanted.message
  | .duplicateField name => "duplicate field `" ++ name ++ "`"

/-- Faults fall into three classes: the text ends too early, it is no JSON, or its values are of
the wrong kind. -/
inductive Category where
  | ended
  | syntactic
  | data
deriving DecidableEq

/-- The class of a cause. -/
def Cause.category : Cause → Category
  | .endInValue | .endInList | .endInObject | .endInString => .ended
  | .wrongKind _ _ | .duplicateField _ => .data
  | _ => .syntactic

/-! ## Positions -/

/-- A position in a text: the line, counted from one, and the bytes of that line before it. -/
structure Position where
  line : Nat
  column : Nat
deriving DecidableEq

namespace Position

/-- The start of a text. -/
def start : Position := ⟨1, 0⟩

/-- The position behind one more character. -/
def step (position : Position) (c : Char) : Position :=
  if c = '\n' then ⟨position.line + 1, 0⟩ else ⟨position.line, position.column + c.utf8Size⟩

/-- The position a number of bytes further on, but not beyond the end of the text ahead. -/
def advance (position : Position) : Nat → List Char → Position
  | _, [] => position
  | bytes, c :: rest =>
      if bytes = 0 then position
      else if c.utf8Size ≤ bytes then (position.step c).advance (bytes - c.utf8Size) rest
      else ⟨position.line, position.column + bytes⟩

end Position

/-- Where in a text a fault is reported. -/
def Fault.position (fault : Fault) (text : List Char) : Position :=
  let consumed := text.take (text.length - fault.ahead.length)
  (consumed.foldl Position.step .start).advance fault.passed fault.ahead

/-- A fault with its position, ready to be reported. -/
structure Report where
  cause : Cause
  position : Position
deriving DecidableEq

/-- The report of a fault in a text. -/
def Fault.report (fault : Fault) (text : List Char) : Report :=
  ⟨fault.cause, fault.position text⟩

/-- The wording of a report: the cause, then its line and column. -/
def Report.message (report : Report) : String :=
  report.cause.message ++ " at line " ++ toString report.position.line ++ " column " ++
    toString report.position.column

end PartDefs.Json
