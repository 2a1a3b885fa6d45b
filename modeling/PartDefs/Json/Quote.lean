import PartDefs.Json.Escape

/-!
# JSON strings

A string runs from one quote to the next that is not escaped and holds no control character.  A
string that is kept yields its characters; one that is skipped is checked for its form only.
-/

namespace PartDefs.Json

/-- The characters that may stand in a string only as escapes. -/
def isControl (c : Char) : Bool :=
  c.toNat < 0x20

/-- Reads the characters of a string up to its closing quote, the opening one being behind. -/
def characters (text : List Char) : Except Fault (Read (List Char) text) :=
  match text with
  | [] => .error (.at .endInString [])
  | c :: rest =>
      if c = '"' then .ok (.ofChar [] c rest)
      else if c = '\\' then do
        let escaped ← escape rest
        let tail ← characters escaped.rest
        return ((escaped.andThen tail).map (escaped.value :: ·)).after c
      else if isControl c then .error (.beyond .controlCharacter (c :: rest))
      else do
        let tail ← characters rest
        return (tail.map (c :: ·)).after c
termination_by text.length
decreasing_by
  · exact Nat.lt_succ_of_lt escaped.shorter
  · exact Nat.lt_succ_self _

/-- Reads the text of a string, the opening quote being behind. -/
def stringTail : Reader String :=
  Reader.map String.ofList characters

/-- Skips a string up to its closing quote, the opening one being behind. -/
def skipString (text : List Char) : Except Fault (Read Unit text) :=
  match text with
  | [] => .error (.at .endInString [])
  | c :: rest =>
      if c = '"' then .ok (.ofChar () c rest)
      else if c = '\\' then do
        let escaped ← skipEscape rest
        let tail ← skipString escaped.rest
        return (escaped.andThen tail).after c
      else if isControl c then .error (.at .controlCharacter (c :: rest))
      else do
        let tail ← skipString rest
        return tail.after c
termination_by text.length
decreasing_by
  · exact Nat.lt_succ_of_lt escaped.shorter
  · exact Nat.lt_succ_self _

end PartDefs.Json
