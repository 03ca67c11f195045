/-
# Positions

A position gives an offset of a source by line and column, both counted from
one. The newline character alone ends a line here.
-/
import ModuleGrammar.Text.Basic

namespace ModuleGrammar

/-- An offset of a source with its line and column. -/
structure Position where
  line : Nat
  column : Nat
  offset : Nat
  deriving DecidableEq, Repr

namespace Position

/-- The position behind the characters of a text. -/
def behind (text : Text) : Position where
  line := text.count '\n' + 1
  column := (text.reverse.takeWhile (· != '\n')).length + 1
  offset := text.length

/-- The position of an offset of a source. The end of the source is such an
offset, all beyond has no position. -/
def resolve? (source : Text) (offset : Int) : Option Position :=
  if 0 ≤ offset ∧ offset ≤ source.length then some (behind (source.take offset.toNat))
  else none

end Position

end ModuleGrammar
