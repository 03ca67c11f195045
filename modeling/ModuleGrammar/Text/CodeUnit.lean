/-
# Code units of a client

An editor counts columns in the code units of an encoding that it chooses. A
character takes one or more units.
-/
import ModuleGrammar.Text.Basic

namespace ModuleGrammar

/-- The encodings whose units a client may count. -/
inductive CodeUnit
  | utf8
  | utf16
  | utf32
  deriving DecidableEq, Repr

namespace CodeUnit

/-- The number of units of one character. -/
def width (unit : CodeUnit) (c : Char) : Nat :=
  match unit with
  | .utf8 =>
    if c.toNat < 0x80 then 1
    else if c.toNat < 0x800 then 2
    else if c.toNat < 0x10000 then 3
    else 4
  | .utf16 => if c.toNat < 0x10000 then 1 else 2
  | .utf32 => 1

/-- The number of units of a text. -/
def count (unit : CodeUnit) : Text → Nat
  | [] => 0
  | c :: rest => unit.width c + count unit rest

/-- The number of characters of a text that it takes to reach a number of units.
A number that falls inside a character counts that character. -/
def reach (unit : CodeUnit) : Nat → Text → Nat
  | 0, _ => 0
  | _ + 1, [] => 0
  | units + 1, c :: rest => reach unit (units + 1 - unit.width c) rest + 1

end CodeUnit

end ModuleGrammar
