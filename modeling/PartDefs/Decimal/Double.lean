/-!
# Finite doubles

Non-negative double-precision numbers as exact values `mantissa * 2 ^ exponent`, and the rounding of
a quotient of natural numbers to the nearest of them.  Products and quotients of doubles round once
from the exact result, a tie going to the even mantissa.
-/

namespace PartDefs

/-- The non-negative double `mantissa * 2 ^ exponent`. -/
structure Double where
  mantissa : Nat
  exponent : Int
deriving DecidableEq

namespace Double

/-- Mantissas have fewer bits than this. -/
def precision : Nat := 53

/-- The smallest number of `bits + 1` bits. -/
def binary (bits : Nat) : Nat :=
  1 <<< bits

/-- The smallest number of `places + 1` decimal places. -/
def decimal (places : Nat) : Nat :=
  Nat.pow 10 places

/-- The exponent of the smallest positive double. -/
def minExponent : Int := -1074

/-- The exponent of the largest finite doubles. -/
def maxExponent : Int := 971

/-- Zero. -/
def zero : Double := ⟨0, minExponent⟩

/-- The natural number nearest to `num / den`; of two equally near, the even one. -/
def roundHalfEven (num den : Nat) : Nat :=
  let quotient := num / den
  let rest := num % den
  if den < 2 * rest ∨ (den = 2 * rest ∧ quotient % 2 = 1) then quotient + 1 else quotient

/-- Writes `num / den` as a quotient times `2 ^ exponent`. -/
def unscaled (num den : Nat) (exponent : Int) : Nat × Nat :=
  if 0 ≤ exponent then (num, den * binary exponent.toNat)
  else (num * binary (-exponent).toNat, den)

/-- The exponent at which the nearest double of `num / den` has its mantissa. -/
def exponentFor (num den : Nat) : Int :=
  let least := max minExponent ((num.log2 : Int) - den.log2 - precision)
  let scaled := unscaled num den least
  if scaled.1 / scaled.2 < binary precision then least else least + 1

/-- The double nearest to `num / den`, or nothing when that is beyond the largest finite double. -/
def nearest? (num den : Nat) : Option Double :=
  if num = 0 then some zero
  else
    let exponent := exponentFor num den
    let scaled := unscaled num den exponent
    let mantissa := roundHalfEven scaled.1 scaled.2
    let rounded : Double :=
      if mantissa = binary precision then ⟨binary (precision - 1), exponent + 1⟩
      else ⟨mantissa, exponent⟩
    if rounded.exponent ≤ maxExponent then some rounded else none

/-- The double nearest to `mantissa * 2 ^ exponent / den`. -/
def nearestScaled? (mantissa den : Nat) (exponent : Int) : Option Double :=
  if 0 ≤ exponent then nearest? (mantissa * binary exponent.toNat) den
  else nearest? mantissa (den * binary (-exponent).toNat)

/-- The double nearest to a natural number, if it is within range. -/
def ofNat? (n : Nat) : Option Double :=
  nearest? n 1

/-- The product, rounded; nothing when it is out of range. -/
def mul? (a b : Double) : Option Double :=
  nearestScaled? (a.mantissa * b.mantissa) 1 (a.exponent + b.exponent)

/-- The quotient by a number that is at least one, rounded. -/
def div (a b : Double) : Double :=
  (nearestScaled? a.mantissa b.mantissa (a.exponent - b.exponent)).getD zero

/-- The largest power of ten that is a double. -/
def maxPower : Nat := 308

/-- The double nearest to `10 ^ n`, for `n` up to `maxPower`. -/
def powerOfTen (n : Nat) : Double :=
  (ofNat? (decimal n)).getD zero

/-- Multiplies by `10 ^ exponent` in steps of at most `maxPower` places, each step rounding once.
Nothing when the result is out of range. -/
def scale? (value : Double) (exponent : Int) : Option Double :=
  if exponent.natAbs ≤ maxPower then
    if 0 ≤ exponent then value.mul? (powerOfTen exponent.natAbs)
    else some (value.div (powerOfTen exponent.natAbs))
  else if value.mantissa = 0 then some value
  else if 0 ≤ exponent then none
  else scale? (value.div (powerOfTen maxPower)) (exponent + maxPower)
termination_by exponent.natAbs
decreasing_by
  simp only [maxPower] at *
  omega

end Double

end PartDefs
