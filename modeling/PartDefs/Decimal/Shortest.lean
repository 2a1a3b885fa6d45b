import PartDefs.Decimal.Double

/-!
# Shortest decimal text of a double

The decimal number with the fewest digits that rounds to a given double; of several the nearest to
the double, and of two equally near the one with an even last digit.  Numbers of moderate size are
written out with at least one decimal place, all others with an exponent.
-/

namespace PartDefs

/-- The decimal number `digits * 10 ^ exponent`. -/
structure Decimal where
  digits : Nat
  exponent : Int
deriving DecidableEq

namespace Double

/-- Compares `a * 2 ^ i` with `b * 10 ^ j`, both brought to natural numbers by common factors. -/
def common (a : Nat) (i : Int) (b : Nat) (j : Int) : Nat × Nat :=
  (a * binary i.toNat * decimal (-j).toNat, b * decimal j.toNat * binary (-i).toNat)

/-- Four times the mantissa, less the distance to the lower end of the interval of numbers that
round to the double, in quarter units.  Below a power of two the next double is only half as far. -/
def lowerEnd (value : Double) : Nat :=
  if value.mantissa = binary (precision - 1) ∧ minExponent < value.exponent then
    4 * value.mantissa - 1
  else 4 * value.mantissa - 2

/-- Four times the mantissa, plus the distance to the upper end of that interval. -/
def upperEnd (value : Double) : Nat :=
  4 * value.mantissa + 2

/-- Whether a decimal number rounds to the double.  The ends of the interval do so when the
mantissa is even. -/
def roundsTo (value : Double) (decimal : Decimal) : Bool :=
  let low := common value.lowerEnd (value.exponent - 2) decimal.digits decimal.exponent
  let high := common value.upperEnd (value.exponent - 2) decimal.digits decimal.exponent
  if value.mantissa % 2 = 0 then decide (low.1 ≤ low.2 ∧ high.2 ≤ high.1)
  else decide (low.1 < low.2 ∧ high.2 < high.1)

/-- The multiple of `10 ^ exponent` next to the double on either side that rounds to it, the
nearer one if both do. -/
def onGrid? (value : Double) (exponent : Int) : Option Decimal :=
  let scaled := common value.mantissa value.exponent 1 exponent
  let below : Decimal := ⟨scaled.1 / scaled.2, exponent⟩
  let above : Decimal := ⟨scaled.1 / scaled.2 + 1, exponent⟩
  let nearest : Decimal := ⟨roundHalfEven scaled.1 scaled.2, exponent⟩
  match value.roundsTo below, value.roundsTo above with
  | true, true => some nearest
  | true, false => some below
  | false, true => some above
  | false, false => none

/-- The powers of ten from the largest to the smallest that a shortest text can need. -/
def gridExponents : List Int :=
  (List.range 660).map fun (i : Nat) => (309 : Int) - i

/-- The shortest decimal number that rounds to the double. -/
def shortest (value : Double) : Decimal :=
  (gridExponents.findSome? value.onGrid?).getD ⟨0, 0⟩

end Double

namespace Decimal

/-- Which decimal exponents are written out without an exponent mark. -/
structure Style where
  lowestPlain : Int
  highestPlain : Int

/-- Numbers are written out from `0.00001` up to sixteen places before the point. -/
def style : Style := ⟨-5, 15⟩

/-- A run of zeros. -/
def zeros (n : Nat) : String :=
  String.ofList (List.replicate n '0')

/-- The text of a decimal number: written out with at least one decimal place while its leading
digit is in the plain range of `style`, otherwise with a signed exponent. -/
def text (number : Decimal) : String :=
  let digits := number.digits.repr
  let leading := number.exponent + digits.length - 1
  if number.digits = 0 then "0.0"
  else if style.lowestPlain ≤ leading ∧ leading ≤ style.highestPlain then
    if 0 ≤ number.exponent then digits ++ zeros number.exponent.toNat ++ ".0"
    else if 0 ≤ leading then
      let whole := leading.toNat + 1
      (String.ofList (digits.toList.take whole)) ++ "." ++ String.ofList (digits.toList.drop whole)
    else "0." ++ zeros (-leading - 1).toNat ++ digits
  else
    let places := String.ofList (digits.toList.drop 1)
    let fraction := if places.isEmpty then "" else "." ++ places
    let sign := if 0 ≤ leading then "+" else "-"
    String.ofList (digits.toList.take 1) ++ fraction ++ "e" ++ sign ++ leading.natAbs.repr

end Decimal

/-- The shortest text that reads back as the double. -/
def Double.text (value : Double) : String :=
  value.shortest.text

end PartDefs
