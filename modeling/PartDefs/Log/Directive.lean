import PartDefs.Log.Pattern
import PartDefs.Notice
import PartDefs.Text.Blank
import PartDefs.Text.Letter

/-!
# Directives of the log

A directive says up to which level notices pass, and of which notices it speaks.  It is a level for
everything, or a target for the notices whose own target begins so, or a target and its level with
`=` between them.  Between target and level there may stand, in brackets, the name of a span and, in
braces behind it, a field that a notice must have, with or without a value.
-/

namespace PartDefs.Log

/-! ## Levels -/

/-- Reads a decimal numeral, in front of which a plus sign may stand. -/
def numeral? (word : List Char) : Option Nat :=
  let digits := if word.head? = some '+' then word.tail else word
  if digits.isEmpty || !digits.all Char.isDigit then none
  else some (digits.foldl (fun value digit => 10 * value + (digit.toNat - '0'.toNat)) 0)

/-- The names of the levels, each with the most detailed rank that it lets pass. -/
def levelNames : List (String × Nat) :=
  [("off", 0), ("error", Level.error.rank), ("warn", Level.warn.rank), ("info", Level.info.rank),
    ("debug", Level.debug.rank), ("trace", Level.trace.rank)]

/-- The most detailed rank that a level word lets pass.  A word is a rank as a numeral, or a name in
letters of either case. -/
def rankOfWord? (word : String) : Option Nat :=
  match numeral? word.toList with
  | some rank => if rank ≤ Level.trace.rank then some rank else none
  | none => levelNames.lookup (word.map Char.toLower)

/-! ## Directives -/

/-- A field that is asked for, and the value that it is to have. -/
structure FieldTest where
  name : String
  value : Option String
deriving DecidableEq

/-- What notices a directive speaks of, and up to which rank it lets them pass. -/
structure Directive where
  /-- With what the target of a notice begins. -/
  target : String := ""
  /-- The name of the span in which a notice is given. -/
  span : Option String := none
  /-- A field of the notice. -/
  field : Option FieldTest := none
  rank : Nat
deriving DecidableEq

/-- The field under which the message of a notice goes. -/
def messageField : String := "message"

/-- Whether a notice has a field.  The values of fields are compared in spans only. -/
def FieldTest.holds (test : FieldTest) (notice : Notice) : Bool :=
  test.value.isNone &&
    (test.name == messageField || notice.fields.any fun field => field.1 == test.name)

namespace Directive

/-- Whether a directive speaks of a notice.  No notice is given in a span. -/
def covers (directive : Directive) (notice : Notice) : Bool :=
  directive.target.toList.isPrefixOf notice.target.toList && directive.span.isNone &&
    directive.field.all (·.holds notice)

/-- Whether of two directives that speak of the same notice the second counts: that with the longer
target, else that which asks for a field, else that whose field is later in the alphabet, and at
last the second. -/
def yieldsTo (first second : Directive) : Bool :=
  first.target.length < second.target.length ||
    first.target.length == second.target.length &&
      match first.field, second.field with
      | none, _ => true
      | some _, none => false
      | some one, some other => one.name ≤ other.name

end Directive

/-! ## Reading directives -/

/-- Why a text is no directive. -/
inductive DirectiveFault where
  /-- It is not built like one. -/
  | malformed
  /-- What stands for its level is none. -/
  | unknownLevel
  /-- The value of its field cannot be compared with. -/
  | pattern (fault : PatternFault)
deriving DecidableEq

/-- The wording of each fault. -/
def DirectiveFault.message : DirectiveFault → String
  | malformed => "invalid filter directive"
  | unknownLevel =>
      "error parsing level filter: expected one of \"off\", \"error\", \"warn\", \"info\", " ++
        "\"debug\", \"trace\", or a number 0-5"
  | pattern fault => "invalid field filter: " ++ fault.message

/-- Whether a directive without brackets may begin with a character. -/
def opensDirective (c : Char) : Bool :=
  Text.isAlphanumeric c || c == '-' || c == ':' || c == '_'

/-- Reads a field and its value, if there is a sign for one.  What follows a second sign does not
count. -/
def FieldTest.ofText (text : List Char) : Except DirectiveFault FieldTest :=
  let name := String.ofList (text.takeWhile (· ≠ '='))
  match text.dropWhile (· ≠ '=') with
  | [] => .ok ⟨name, none⟩
  | _ :: rest =>
      let value := rest.takeWhile (· ≠ '=')
      match checkPattern value with
      | .ok () => .ok ⟨name, some (String.ofList value)⟩
      | .error fault => .error (.pattern fault)

/-- Reads the level at the end of a directive.  Everything passes if there is none. -/
def readLevel (word : List Char) : Except DirectiveFault Nat :=
  if word.isEmpty then .ok Level.trace.rank
  else
    match rankOfWord? (String.ofList word) with
    | some rank => .ok rank
    | none => .error .unknownLevel

/-- A directive while it is read.  Its words are found by their places behind the blanks in front,
but cut out by these places from the whole text, so that each begins too early by the number of
those blanks. -/
structure Reading where
  /-- The number of blanks in front. -/
  blanks : Nat
  /-- All that has been passed, blanks included. -/
  passed : List Char

namespace Reading

/-- Passes over a stretch of the text. -/
def skip (reading : Reading) (text : List Char) : Reading :=
  { reading with passed := reading.passed ++ text }

/-- The word that comes next, cut out by its places. -/
def word (reading : Reading) (text : List Char) : List Char :=
  ((reading.passed ++ text).drop (reading.passed.length - reading.blanks)).take text.length

/-- The rest of the text, cut out by its places. -/
def last (reading : Reading) (text : List Char) : List Char :=
  (reading.passed ++ text).drop (reading.passed.length - reading.blanks)

/-- Reads what is behind the brackets of a directive.  Blanks at the end do not count. -/
def behindBrackets (reading : Reading) (text : List Char) : Except DirectiveFault Nat :=
  match text with
  | '=' :: level => readLevel ((reading.skip ['=']).last level)
  | rest => if rest.all Text.isBlank then .ok Level.trace.rank else .error .malformed

/-- Reads the brackets of a directive and what is behind them, the opening bracket being passed. -/
def brackets (reading : Reading) (target : String) (text : List Char) :
    Except DirectiveFault Directive := do
  let ends (c : Char) : Bool := c == ']' || c == '\x7b'
  let name := text.takeWhile (!ends ·)
  let span := String.ofList (reading.word name)
  let passed := reading.skip name
  match text.dropWhile (!ends ·) with
  | ']' :: rest =>
      return { target, span := some span, rank := ← (passed.skip [']']).behindBrackets rest }
  | '\x7b' :: rest =>
      let passed := passed.skip ['\x7b']
      let field := rest.takeWhile (· ≠ '\x7d')
      let behind := rest.dropWhile (· ≠ '\x7d')
      if field.isEmpty || behind.isEmpty then throw .malformed
      let test ← FieldTest.ofText (passed.word field)
      match behind with
      | '\x7d' :: ']' :: rest =>
          return {
            target
            span := if name.isEmpty then none else some span
            field := some test
            rank := ← ((passed.skip field).skip ['\x7d', ']']).behindBrackets rest }
      | _ => throw .malformed
  | _ => throw .malformed

end Reading

/-- Reads a directive.  Blanks in front displace its words, and blanks behind it belong to a word at
its end. -/
def Directive.ofText (text : String) : Except DirectiveFault Directive :=
  let blanks := text.toList.takeWhile Text.isBlank
  let start : Reading := ⟨blanks.length, blanks⟩
  match text.toList.dropWhile Text.isBlank with
  | [] => .error .malformed
  | '[' :: rest => (start.skip ['[']).brackets "" rest
  | first :: later =>
      let ends (c : Char) : Bool := c == '=' || c == '['
      let name := (first :: later).takeWhile (!ends ·)
      let target := String.ofList (start.word name)
      let passed := start.skip name
      if !opensDirective first then .error .malformed
      else
        match (first :: later).dropWhile (!ends ·) with
        | '=' :: level => do return { target, rank := ← readLevel ((passed.skip ['=']).last level) }
        | '[' :: rest => (passed.skip ['[']).brackets target rest
        | _ =>
            match rankOfWord? text with
            | some rank => .ok { rank }
            | none => .ok { target := text, rank := Level.trace.rank }

end PartDefs.Log
