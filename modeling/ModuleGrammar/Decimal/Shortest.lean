/-
# Shortest decimals

The decimal of a number of double precision has the fewest digits that round
back to it, and among those it is the nearest. Numbers from `10 ^ -4` up to
`10 ^ 16` are written positionally, with a digit on both sides of the point; all
others with an exponent.
-/
import ModuleGrammar.Text.Basic
import ModuleGrammar.Decimal.Binary

namespace ModuleGrammar.Decimal

/-- The interval of the fractions that round to a number, with its bounds in
quarters of the last binary place, and whether the bounds belong to it. -/
structure Interval where
  lower : Nat
  upper : Nat
  closed : Bool

/-- The interval that rounds to a positive number. It is narrower on the lower
side of a power of two. -/
def Binary.interval (number : Binary) : Interval :=
  let quarters := 4 * number.mantissa
  let narrow :=
    number.mantissa == fullMantissa && minExponent < number.exponent
  ⟨quarters - (if narrow then 1 else 2), quarters + 2, number.mantissa % 2 == 0⟩

/-- The decimal number `digits * 10 ^ exponent`. -/
structure Scaled where
  digits : Nat
  exponent : Int
  deriving DecidableEq, Repr

/-- The number of quarters of the last binary place of a number that a decimal
amounts to, as a fraction. -/
def quartersOf (number : Binary) (decimal : Scaled) : Nat × Nat :=
  divideByPower 2 (number.exponent - 2)
    (divideByPower 10 (-decimal.exponent) (decimal.digits, 1))

/-- Whether a decimal rounds to a number. -/
def roundsTo (number : Binary) (decimal : Scaled) : Bool :=
  let interval := number.interval
  let (dividend, divisor) := quartersOf number decimal
  if interval.closed then
    interval.lower * divisor ≤ dividend && dividend ≤ interval.upper * divisor
  else interval.lower * divisor < dividend && dividend < interval.upper * divisor

/-- A positive number as a fraction. -/
def fractionOf (number : Binary) : Nat × Nat :=
  divideByPower 2 (-number.exponent) (number.mantissa, 1)

/-- The place of the decimal point: the least `p` such that a positive number is
below `10 ^ p`. -/
def pointOf (number : Binary) : Int :=
  let (dividend, divisor) := fractionOf number
  if divisor ≤ dividend then ((Nat.toDigits 10 (dividend / divisor)).length : Int)
  else 1 - ((Nat.toDigits 10 ((divisor - 1) / dividend)).length : Int)

/-- The decimal with a number of digits that rounds to a positive number and is
the nearest to it, if there is one. -/
def nearest? (number : Binary) (count : Nat) : Option Scaled :=
  let exponent := pointOf number - count
  let (dividend, divisor) := divideByPower 10 exponent (fractionOf number)
  let below : Scaled := ⟨dividend / divisor, exponent⟩
  let above : Scaled := ⟨dividend / divisor + 1, exponent⟩
  match roundsTo number below, roundsTo number above with
  | true, true => some ⟨roundQuotient dividend divisor, exponent⟩
  | true, false => some below
  | false, true => some above
  | false, false => none

/-- The shortest decimal of a positive number. Seventeen digits always do. -/
def shortest (number : Binary) : Scaled :=
  ((List.range 17).findSome? fun index => nearest? number (index + 1)).getD ⟨0, 0⟩

/-- The digits of a positive decimal without the zeros at the end, and the place
of the point before which no digit stands. -/
def digitsAndPoint (decimal : Scaled) : Text × Int :=
  let digits := Nat.toDigits 10 decimal.digits
  (Text.trimEnd (· == '0') digits, decimal.exponent + digits.length)

/-- Digits with the point at a place. -/
def positional (digits : Text) (point : Int) : Text :=
  if point ≤ 0 then
    '0' :: '.' :: List.replicate (-point).toNat '0' ++ digits
  else
    let place := point.toNat
    let whole := digits.take place ++ List.replicate (place - digits.length) '0'
    let part := digits.drop place
    whole ++ '.' :: if part.isEmpty then ['0'] else part

/-- Digits with a point after the first one and an exponent of at least two
digits. -/
def scientific (digits : Text) (point : Int) : Text :=
  let exponent := point - 1
  let fraction := if digits.length ≤ 1 then digits else digits.take 1 ++ '.' :: digits.drop 1
  fraction ++ 'e' :: (if exponent < 0 then '-' else '+') ::
    Text.padLeft '0' 2 (Text.ofNat exponent.natAbs)

/-- The text of a positive number of double precision. -/
def textOf (number : Binary) : Text :=
  let (digits, point) := digitsAndPoint (shortest number)
  if -4 < point && point ≤ 16 then positional digits point else scientific digits point

/-- Decimals of more than so many digits before the point are infinite, and those
with more than so many zeros behind it are zero. -/
def maxPoint : Int := 400

/-- The canonical text of the decimal number `digits * 10 ^ exponent`, rounded to
double precision. -/
def canonical (negative : Bool) (digits : Nat) (exponent : Int) : Text :=
  let sign := if negative then ['-'] else []
  let point := exponent + (Nat.toDigits 10 digits).length
  if digits = 0 || point < -maxPoint then sign ++ "0.0".toList
  else if maxPoint < point then sign ++ "inf".toList
  else
    match Binary.round? (divideByPower 10 (-exponent) (digits, 1)) with
    | none => sign ++ "inf".toList
    | some number =>
      if number.mantissa = 0 then sign ++ "0.0".toList else sign ++ textOf number

end ModuleGrammar.Decimal
