/-
# Hexadecimal numerals

Code points and bytes are written with the sixteen digits up to `f`. Numerals
are written in lower case and read in either case.
-/
import ModuleGrammar.Text.Basic

namespace ModuleGrammar

/-- The value of a hexadecimal digit. -/
def hexDigit? (c : Char) : Option Nat :=
  if '0' ≤ c ∧ c ≤ '9' then some (c.toNat - '0'.toNat)
  else if 'a' ≤ c ∧ c ≤ 'f' then some (c.toNat - 'a'.toNat + 10)
  else if 'A' ≤ c ∧ c ≤ 'F' then some (c.toNat - 'A'.toNat + 10)
  else none

/-- A hexadecimal numeral, filled with zeros up to a width. -/
def Text.hex (width n : Nat) : Text :=
  padLeft '0' width (Nat.toDigits 16 n)

end ModuleGrammar
