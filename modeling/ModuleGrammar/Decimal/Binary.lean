/-
# Numbers of double precision

A number of double precision is a mantissa below `2 ^ 53` times a power of two
whose exponent is at least `-1074`. A decimal number is rounded to the nearest
of them; of two that are equally near, the one with the even mantissa wins. All
arithmetic is exact.
-/

namespace ModuleGrammar.Decimal

/-- The number `mantissa * 2 ^ exponent`. -/
structure Binary where
  mantissa : Nat
  exponent : Int
  deriving DecidableEq, Repr

/-- The quotient of two natural numbers, rounded to the nearest natural number
and a half to the even one. -/
def roundQuotient (dividend divisor : Nat) : Nat :=
  let quotient := dividend / divisor
  let twice := 2 * (dividend % divisor)
  if twice < divisor then quotient
  else if divisor < twice then quotient + 1
  else quotient + quotient % 2

/-- A fraction divided by a power of a base. -/
def divideByPower (base : Nat) (exponent : Int) (fraction : Nat × Nat) : Nat × Nat :=
  if 0 ≤ exponent then (fraction.1, fraction.2 * Nat.pow base exponent.toNat)
  else (fraction.1 * Nat.pow base (-exponent).toNat, fraction.2)

namespace Binary

/-- The number of bits of a mantissa. -/
def precision : Nat := 53

/-- The least mantissa of full precision. -/
def fullMantissa : Nat := Nat.pow 2 (precision - 1)

/-- The least exponent. -/
def minExponent : Int := -1074

/-- The greatest exponent of a finite number. -/
def maxExponent : Int := 971

/-- The exponent for which the mantissa of a positive fraction has full
precision, or the least exponent if that is greater. -/
def exponentOf (fraction : Nat × Nat) : Int :=
  let estimate : Int := (fraction.1.log2 : Int) - fraction.2.log2 - (precision - 1)
  let (dividend, divisor) := divideByPower 2 estimate fraction
  max minExponent (if dividend < divisor * fullMantissa then estimate - 1 else estimate)

/-- Round a positive fraction. There is no result if it is too large. -/
def round? (fraction : Nat × Nat) : Option Binary :=
  let exponent := exponentOf fraction
  let (dividend, divisor) := divideByPower 2 exponent fraction
  let mantissa := roundQuotient dividend divisor
  let result : Binary :=
    if mantissa < 2 * fullMantissa then ⟨mantissa, exponent⟩
    else ⟨mantissa / 2, exponent + 1⟩
  if result.exponent ≤ maxExponent then some result else none

end Binary

end ModuleGrammar.Decimal
