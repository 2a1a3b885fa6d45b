import PartDefs.Json.Numeral
import PartDefs.Json.Quote

/-!
# Skipping JSON values

A value that nobody wants is passed over with a check of its form only.  The brackets that are still
open stand on a stack of frames, innermost first, so values may nest to any depth.
-/

namespace PartDefs.Json

/-- What an open bracket belongs to. -/
inductive Frame where
  | array
  | object
deriving DecidableEq

namespace Frame

/-- The bracket that closes a frame. -/
def closing : Frame → Char
  | array => ']'
  | object => '\x7d'

/-- The cause when the text ends inside a frame. -/
def ended : Frame → Cause
  | array => .endInList
  | object => .endInObject

/-- The cause when neither a comma nor the closing bracket follows a member. -/
def expectedComma : Frame → Cause
  | array => .expectedCommaOrBracket
  | object => .expectedCommaOrBrace

/-- The frame that a character opens. -/
def ofOpening? : Char → Option Frame
  | '[' => some array
  | '\x7b' => some object
  | _ => none

end Frame

/-- Passes the colon behind a key. -/
def colon (text : List Char) : Except Fault (Read Unit text) :=
  match lead text with
  | .finished => .error (.beyond .endInObject [])
  | .next c rest shorter =>
      if c = ':' then .ok ⟨(), rest, shorter⟩ else .error (.beyond .expectedColon (c :: rest))

/-- Skips a key with its colon. -/
def skipKey (text : List Char) : Except Fault (Read Unit text) :=
  match lead text with
  | .finished => .error (.beyond .endInObject [])
  | .next c rest shorter =>
      if c = '"' then do
        let key ← skipString rest
        return (key.andThen (← colon key.rest)).inside shorter
      else .error (.beyond .keyNotString (c :: rest))

/-- Skips what comes before the value of a member: a key in an object, nothing in an array. -/
def skipMemberStart (frame : Frame) (text : List Char) : Except Fault (Scan Unit text) :=
  match frame with
  | .array => .ok (.here () text)
  | .object => return (← skipKey text).toScan

/-- Goes on behind a value: closes frames as long as their brackets follow, and stops where the
next value begins.  Yields the frames that are open there; there are none when all is closed. -/
def behindValue (frames : List Frame) (text : List Char) :
    Except Fault (Scan (List Frame) text) :=
  match frames with
  | [] => .ok (.here [] text)
  | frame :: frames =>
      match lead text with
      | .finished => .error (.beyond frame.ended [])
      | .next c rest shorter =>
          if c = frame.closing then return (← behindValue frames rest).inside shorter
          else if c = ',' then do
            let start ← skipMemberStart frame rest
            return (start.map fun _ => frame :: frames).inside shorter
          else .error (.beyond frame.expectedComma (c :: rest))

/-- Goes on behind an opening bracket to where the first value begins, or behind the closing
bracket. -/
def behindOpening (frame : Frame) (frames : List Frame) (text : List Char) :
    Except Fault (Scan (List Frame) text) :=
  match lead text with
  | .finished => .error (.beyond frame.ended [])
  | .next c rest shorter =>
      if c = frame.closing then return (← behindValue frames rest).inside shorter
      else do
        let start ← skipMemberStart frame text
        return start.map fun _ => frame :: frames

/-- Skips a value without parts that begins with a given character. -/
def skipScalar (c : Char) (rest : List Char) : Except Fault (Scan Unit rest) :=
  match c with
  | 'n' => word ['u', 'l', 'l'] rest
  | 't' => word ['r', 'u', 'e'] rest
  | 'f' => word ['a', 'l', 's', 'e'] rest
  | '"' => return (← skipString rest).toScan
  | '-' => return (← skipNumber rest).toScan
  | _ =>
      if c.isDigit then return (← skipNumber (c :: rest)).toScanBehind
      else .error (.beyond .expectedValue (c :: rest))

/-- Goes from the first character of a value, `c`, to where the next value begins, or behind
everything when no frame is left open. -/
def behindFirst (frames : List Frame) (c : Char) (rest : List Char) :
    Except Fault (Scan (List Frame) rest) :=
  match Frame.ofOpening? c with
  | some frame => behindOpening frame frames rest
  | none => do
      let scalar ← skipScalar c rest
      return scalar.andThen (← behindValue frames scalar.rest)

/-- Skips the value at hand and all that is left of the frames around it. -/
def skipWithin (frames : List Frame) (text : List Char) : Except Fault (Read Unit text) :=
  match lead text with
  | .finished => .error (.beyond .endInValue [])
  | .next c rest shorter => do
      let scan ← behindFirst frames c rest
      let read := scan.toRead shorter
      match read.value with
      | [] => return read.map fun _ => ()
      | frame :: frames => return read.andThen (← skipWithin (frame :: frames) read.rest)
termination_by text.length
decreasing_by exact read.shorter

/-- Skips one value of any kind. -/
def skipValue : Reader Unit :=
  skipWithin []

end PartDefs.Json
