/-
# Blank characters

The blank characters are the white space of the Unicode standard together with
the four information separators. They separate tokens and are trimmed from the
ends of lines.
-/
import ModuleGrammar.Text.Basic

namespace ModuleGrammar

/-- Blank characters: tab to carriage return, the information separators, the
space, and the spaces and separators beyond ASCII. -/
def isBlank (c : Char) : Bool :=
  let n := c.toNat
  (0x09 ≤ n && n ≤ 0x0D) || (0x1C ≤ n && n ≤ 0x20) || n == 0x85 || n == 0xA0 ||
    n == 0x1680 || (0x2000 ≤ n && n ≤ 0x200A) || n == 0x2028 || n == 0x2029 ||
    n == 0x202F || n == 0x205F || n == 0x3000

namespace Text

/-- A text is blank if it has a character and all its characters are blank. -/
def isBlank (text : Text) : Bool :=
  !text.isEmpty && text.all ModuleGrammar.isBlank

/-- Drop the blank characters at the end. -/
def trimBlankEnd (text : Text) : Text :=
  trimEnd ModuleGrammar.isBlank text

end Text

end ModuleGrammar
