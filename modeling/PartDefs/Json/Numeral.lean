import PartDefs.Json.Space

/-!
# JSON numbers

A number has a whole part without needless zeros, then possibly decimal places and an exponent.  Its
digits are gathered into a significand of at most 64 bits.  Digits of the whole part that no longer
fit only raise the exponent, and decimal places that no longer fit are dropped.
-/

namespace PartDefs.Json

/-- The value of a decimal digit. -/
def digitValue (c : Char) : Nat :=
  c.toNat - '0'.toNat

/-- The decimal digits at the front of a text. -/
def digits (text : List Char) : Scan (List Char) text where
  value := text.takeWhile Char.isDigit
  rest := text.dropWhile Char.isDigit
  bound := (List.dropWhile_suffix Char.isDigit).length_le

/-- Whether a text goes on with a digit. -/
def startsWithDigit : List Char → Bool
  | [] => false
  | c :: _ => c.isDigit

/-! ## Gathering digits -/

/-- The largest significand, the largest number of 64 bits. -/
def maxSignificand : Nat := 18446744073709551615

/-- The largest exponent that may be written, the largest number of 31 bits. -/
def maxWrittenExponent : Nat := 2147483647

/-- The size of the smallest whole number of 64 bits with a sign. -/
def maxNegative : Nat := 9223372036854775808

/-- The number `significand * 10 ^ exponent` gathered so far, and whether a digit of the current
part was left out because the significand was full. -/
structure Gathered where
  significand : Nat
  exponent : Int
  full : Bool

namespace Gathered

/-- The significand with one more digit, if it fits. -/
def push? (number : Gathered) (c : Char) : Option Nat :=
  let next := number.significand * 10 + digitValue c
  if number.full || maxSignificand < next then none else some next

/-- Takes a digit of the whole part. -/
def wholeDigit (number : Gathered) (c : Char) : Gathered :=
  match number.push? c with
  | some significand => ⟨significand, number.exponent, false⟩
  | none => ⟨number.significand, number.exponent + 1, true⟩

/-- Takes a decimal place. -/
def decimalPlace (number : Gathered) (c : Char) : Gathered :=
  match number.push? c with
  | some significand => ⟨significand, number.exponent - 1, false⟩
  | none => ⟨number.significand, number.exponent, true⟩

/-- The number of a whole part. -/
def ofWhole (run : List Char) : Gathered :=
  run.foldl wholeDigit ⟨0, 0, false⟩

/-- Takes a run of decimal places. -/
def places (number : Gathered) (run : List Char) : Gathered :=
  run.foldl decimalPlace ⟨number.significand, number.exponent, false⟩

/-- The value of a number written with neither a point nor an exponent, if it is a whole number
of 64 bits.  Minus zero is not. -/
def whole? (number : Gathered) (negative : Bool) : Option Int :=
  if number.full then none
  else if negative then
    if 1 ≤ number.significand ∧ number.significand ≤ maxNegative then some (-number.significand)
    else none
  else some number.significand

end Gathered

/-- The double of a significand and an exponent, which may be out of range. -/
def real (negative : Bool) (significand : Nat) (exponent : Int) (ahead : List Char) :
    Except Fault Number :=
  match (Double.ofNat? significand).bind (·.scale? exponent) with
  | some magnitude => .ok (.real negative magnitude)
  | none => .error (.at .numberOutOfRange ahead)

/-! ## Reading -/

/-- Reads on through the digits of an exponent.  Stops behind the first digit that makes it too
large to be written, and then yields nothing. -/
def exponentDigits (value : Nat) : (text : List Char) → Scan (Option Nat) text
  | [] => .here (some value) []
  | c :: rest =>
      if c.isDigit then
        if value * 10 + digitValue c ≤ maxWrittenExponent then
          (exponentDigits (value * 10 + digitValue c) rest).after c
        else (Scan.here none rest).after c
      else .here (some value) (c :: rest)

/-- The number whose exponent has been read to `scan`.  An exponent too large to be written leads
out of range, unless it is negative or belongs to zero: then the rest of it is passed over. -/
def withExponent (negative : Bool) (number : Gathered) (negativeExponent : Bool)
    {text : List Char} (scan : Scan (Option Nat) text) : Except Fault (Scan Number text) :=
  match scan.value with
  | some written => do
      let exponent : Int := if negativeExponent then -written else written
      let value ← real negative number.significand (number.exponent + exponent) scan.rest
      return scan.map fun _ => value
  | none =>
      if number.significand ≠ 0 ∧ negativeExponent = false then
        .error (.at .numberOutOfRange scan.rest)
      else .ok (scan.andThen ((digits scan.rest).map fun _ => .real negative .zero))

/-- Reads the digits of an exponent and completes the number. -/
def exponentTail (negative : Bool) (number : Gathered) (negativeExponent : Bool) :
    (text : List Char) → Except Fault (Scan Number text)
  | [] => .error (.at .endInValue [])
  | c :: rest =>
      if c.isDigit then
        withExponent negative number negativeExponent ((exponentDigits (digitValue c) rest).after c)
      else .error (.beyond .invalidNumber (c :: rest))

/-- Whether a character is a sign. -/
def isSign (c : Char) : Bool :=
  c == '+' || c == '-'

/-- Whether a character begins an exponent. -/
def isExponentMark (c : Char) : Bool :=
  c == 'e' || c == 'E'

/-- Reads the sign and the digits of an exponent, the letter being behind. -/
def exponentPart (negative : Bool) (number : Gathered) :
    (text : List Char) → Except Fault (Scan Number text)
  | [] => exponentTail negative number false []
  | c :: rest =>
      if isSign c then return (← exponentTail negative number (c == '-') rest).after c
      else exponentTail negative number false (c :: rest)

/-- Reads an exponent if one follows.  Without one the number is `plain`. -/
def exponentOr (plain : Except Fault Number) (negative : Bool) (number : Gathered) :
    (text : List Char) → Except Fault (Scan Number text)
  | [] => return .here (← plain) []
  | c :: rest =>
      if isExponentMark c then return (← exponentPart negative number rest).after c
      else return .here (← plain) (c :: rest)

/-- Reads the decimal places behind a point, and an exponent if one follows. -/
def fractionPart (negative : Bool) (number : Gathered) (text : List Char) :
    Except Fault (Scan Number text) :=
  let run := digits text
  if run.value.isEmpty then
    .error (.beyond (if text.isEmpty then .endInValue else .invalidNumber) text)
  else do
    let gathered := number.places run.value
    let plain := real negative gathered.significand gathered.exponent run.rest
    return run.andThen (← exponentOr plain negative gathered run.rest)

/-- The value of a number that consists of its whole part only. -/
def wholeNumber (negative : Bool) (number : Gathered) (ahead : List Char) : Except Fault Number :=
  match number.whole? negative with
  | some value => .ok (.whole value)
  | none => real negative number.significand number.exponent ahead

/-- Completes a number of which the whole part is behind. -/
def numberTail (negative : Bool) (number : Gathered) :
    (text : List Char) → Except Fault (Scan Number text)
  | [] => exponentOr (wholeNumber negative number []) negative number []
  | c :: rest =>
      if c = '.' then return (← fractionPart negative number rest).after c
      else exponentOr (wholeNumber negative number (c :: rest)) negative number (c :: rest)

/-- Reads a number that is kept, its minus sign being behind if it has one. -/
def number (negative : Bool) : Reader Number
  | [] => .error (.at .endInValue [])
  | c :: rest =>
      if c = '0' then
        if startsWithDigit rest then .error (.beyond .invalidNumber rest)
        else return (← numberTail negative (.ofWhole [c]) rest).toReadAfter c
      else if c.isDigit then do
        let run := digits rest
        let tail ← numberTail negative (.ofWhole (c :: run.value)) run.rest
        return (run.andThen tail).toReadAfter c
      else .error (.beyond .invalidNumber (c :: rest))

/-! ## Skipping -/

/-- Skips the digits of an exponent. -/
def skipExponentTail (text : List Char) : Except Fault (Scan Unit text) :=
  if startsWithDigit text then .ok ((digits text).map fun _ => ())
  else .error (.beyond .invalidNumber text)

/-- Skips the sign and the digits of an exponent. -/
def skipExponentPart : (text : List Char) → Except Fault (Scan Unit text)
  | [] => .error (.at .invalidNumber [])
  | c :: rest =>
      if isSign c then return (← skipExponentTail rest).after c
      else skipExponentTail (c :: rest)

/-- Skips an exponent if one follows. -/
def skipExponent : (text : List Char) → Except Fault (Scan Unit text)
  | [] => .ok (.here () [])
  | c :: rest =>
      if isExponentMark c then return (← skipExponentPart rest).after c
      else .ok (.here () (c :: rest))

/-- Skips decimal places and an exponent, as far as they follow. -/
def skipFraction : (text : List Char) → Except Fault (Scan Unit text)
  | [] => .ok (.here () [])
  | c :: rest =>
      if c = '.' then
        if startsWithDigit rest then do
          let run := digits rest
          return (run.andThen (← skipExponent run.rest)).after c
        else .error (.beyond .invalidNumber rest)
      else skipExponent (c :: rest)

/-- Skips a number, its minus sign being behind if it has one. -/
def skipNumber : Reader Unit
  | [] => .error (.at .invalidNumber [])
  | c :: rest =>
      if c = '0' then
        if startsWithDigit rest then .error (.beyond .invalidNumber rest)
        else return (← skipFraction rest).toReadAfter c
      else if c.isDigit then do
        let run := digits rest
        return (run.andThen (← skipFraction run.rest)).toReadAfter c
      else .error (.beyond .invalidNumber (c :: rest))

end PartDefs.Json
