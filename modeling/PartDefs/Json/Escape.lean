import PartDefs.Json.Space

/-!
# Escapes inside JSON strings

A backslash is followed by one of eight letters or by `u` and the four hexadecimal digits of a
UTF-16 unit.  A character beyond the basic plane takes two such units, a high surrogate and a low
one; in a string that is kept, neither may stand alone.
-/

namespace PartDefs.Json

/-- The value of a hexadecimal digit. -/
def hexDigit? (c : Char) : Option Nat :=
  if '0' ≤ c ∧ c ≤ '9' then some (c.toNat - '0'.toNat)
  else if 'a' ≤ c ∧ c ≤ 'f' then some (c.toNat - 'a'.toNat + 10)
  else if 'A' ≤ c ∧ c ≤ 'F' then some (c.toNat - 'A'.toNat + 10)
  else none

/-- The number that four hexadecimal digits spell. -/
def hexNumber? (a b c d : Char) : Option Nat :=
  match hexDigit? a, hexDigit? b, hexDigit? c, hexDigit? d with
  | some i, some j, some k, some l => some (((i * 16 + j) * 16 + k) * 16 + l)
  | _, _, _, _ => none

/-- The number of bytes of a text. -/
def byteSize : List Char → Nat
  | [] => 0
  | c :: rest => c.utf8Size + byteSize rest

/-- Reads the unit that four hexadecimal digits spell.  Four bytes are taken whatever they are,
and with fewer left the text has ended. -/
def hexUnit : Reader Nat
  | a :: b :: c :: d :: rest =>
      match hexNumber? a b c d with
      | some unit => .ok ((((Read.ofChar unit d rest).after c).after b).after a)
      | none => .error ⟨.invalidEscape, a :: b :: c :: d :: rest, 4⟩
  | short =>
      if byteSize short < 4 then .error (.at .endInString []) else .error ⟨.invalidEscape, short, 4⟩

/-- Whether a unit is the first half of a surrogate pair. -/
def isHighSurrogate (unit : Nat) : Bool :=
  0xd800 ≤ unit && unit ≤ 0xdbff

/-- Whether a unit is the second half of a surrogate pair. -/
def isLowSurrogate (unit : Nat) : Bool :=
  0xdc00 ≤ unit && unit ≤ 0xdfff

/-- The character that a surrogate pair stands for. -/
def pairedChar (high low : Nat) : Char :=
  Char.ofNat (0x10000 + (high - 0xd800) * 0x400 + (low - 0xdc00))

/-- Reads the low surrogate that has to follow a high one. -/
def lowSurrogate : Reader Nat
  | [] | ['\\'] => .error (.at .endInString [])
  | '\\' :: 'u' :: rest => do
      let low ← hexUnit rest
      if isLowSurrogate low.value then return (low.after 'u').after '\\'
      else .error (.at .loneSurrogate low.rest)
  | '\\' :: c :: rest => .error (.beyond .unpairedSurrogate (c :: rest))
  | c :: rest => .error (.beyond .unpairedSurrogate (c :: rest))

/-- Reads the character whose escape begins with `u`, the `u` being behind. -/
def unicodeEscape : Reader Char := fun text => do
  let unit ← hexUnit text
  if isLowSurrogate unit.value then .error (.at .loneSurrogate unit.rest)
  else if isHighSurrogate unit.value then
    return (unit.andThen (← lowSurrogate unit.rest)).map (pairedChar unit.value)
  else return unit.map Char.ofNat

/-- The character that a letter behind a backslash stands for. -/
def shortEscape? : Char → Option Char
  | '"' => some '"'
  | '\\' => some '\\'
  | '/' => some '/'
  | 'b' => some '\x08'
  | 'f' => some '\x0c'
  | 'n' => some '\n'
  | 'r' => some '\r'
  | 't' => some '\t'
  | _ => none

/-- Reads the escaped character behind a backslash. -/
def escape : Reader Char
  | [] => .error (.at .endInString [])
  | c :: rest =>
      if c = 'u' then return (← unicodeEscape rest).after c
      else
        match shortEscape? c with
        | some d => .ok (.ofChar d c rest)
        | none => .error (.beyond .invalidEscape (c :: rest))

/-- Skips the escape behind a backslash: as `escape`, but the units need not form pairs. -/
def skipEscape : Reader Unit
  | [] => .error (.at .endInString [])
  | c :: rest =>
      if c = 'u' then return ((← hexUnit rest).map fun _ => ()).after c
      else
        match shortEscape? c with
        | some _ => .ok (.ofChar () c rest)
        | none => .error (.beyond .invalidEscape (c :: rest))

end PartDefs.Json
