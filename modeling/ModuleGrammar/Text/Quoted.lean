/-
# Quoted texts

A quoted text shows any text on one line and between quotation marks. The mark
is an apostrophe, or a double quote if the text holds an apostrophe and no
double quote. Characters that would not be seen are written as escapes.
-/
import ModuleGrammar.Text.Hexadecimal
import ModuleGrammar.Text.Printable

namespace ModuleGrammar.Text

/-- The mark that encloses a quoted text. -/
def quotationMark (text : Text) : Char :=
  if text.contains '\'' && !text.contains '"' then '"' else '\''

/-- One character between quotation marks: the mark itself and the backslash
take a backslash, three controls have escapes of their own, and any other
character that is not printable is written by its code point. -/
def escape (mark c : Char) : Text :=
  if c = mark || c = '\\' then ['\\', c]
  else if c = '\n' then ['\\', 'n']
  else if c = '\r' then ['\\', 'r']
  else if c = '\t' then ['\\', 't']
  else if isPrintable c then [c]
  else if c.toNat < 0x100 then '\\' :: 'x' :: hex 2 c.toNat
  else if c.toNat < 0x10000 then '\\' :: 'u' :: hex 4 c.toNat
  else '\\' :: 'U' :: hex 8 c.toNat

/-- Write a text between quotation marks. -/
def quote (text : Text) : Text :=
  let mark := quotationMark text
  mark :: text.flatMap (escape mark) ++ [mark]

end ModuleGrammar.Text
