/-
# Styles

A style says how a grammar is laid out. The last three settings are kept for
editors and do not change the text. The number of spaces of a level may be any
integer; whoever uses a style checks first that so many spaces can be made.
-/
import ModuleGrammar.Text.Basic

namespace ModuleGrammar

/-- The settings of the layout with their defaults. -/
structure Style where
  /-- The number of spaces of a level; a negative number counts as zero. -/
  indentSize : Int := 2
  /-- Indent with one tab for each level. -/
  useTabs : Bool := false
  /-- Start a line after an opening square or angle bracket. -/
  insertNewlineAfterBrackets : Bool := true
  /-- Start a line after an opening curly bracket. -/
  insertNewlineBeforeBrackets : Bool := true
  /-- End the text with a newline, unless blanks are trimmed. -/
  insertFinalNewline : Bool := true
  /-- Trim the blanks at the end of every line and of the text. -/
  trimTrailingWhitespace : Bool := true
  /-- The length of line that an editor should aim at. -/
  maxLineLength : Int := 80
  /-- Whether an editor may format at all. -/
  enabled : Bool := true
  /-- Whether an editor should format when it saves. -/
  formatOnSave : Bool := false
  deriving DecidableEq, Repr

namespace Style

/-- The text that indents by one level. -/
def indentUnit (style : Style) : Text :=
  if style.useTabs then ['\t'] else List.replicate style.indentSize.toNat ' '

/-- The text that indents by a number of levels. -/
def indent (style : Style) : Nat → Text
  | 0 => []
  | level + 1 => style.indentUnit ++ style.indent level

end Style

/-- Why the text that indents by one level cannot be made. -/
inductive IndentFault
  /-- The number of spaces is no index of 64 bits. -/
  | notIndex
  deriving DecidableEq, Repr

/-- The words for a fault. -/
def IndentFault.message : IndentFault → Text
  | .notIndex => "cannot fit 'int' into an index-sized integer".toList

namespace Style

/-- An index has 64 bits and a sign. -/
def indexBound : Int := 9223372036854775808

/-- What is wrong with the number of spaces of a style, if it counts. -/
def indentFault? (style : Style) : Option IndentFault :=
  if style.useTabs then none
  else if style.indentSize < -indexBound ∨ indexBound ≤ style.indentSize then some .notIndex
  else none

/-- Refuse a style whose indentation cannot be made. -/
def checkIndent (style : Style) : Except IndentFault Unit :=
  match style.indentFault? with
  | some fault => .error fault
  | none => .ok ()

/-- The text that indents by one level, if it can be made. -/
def tryIndentUnit (style : Style) : Except IndentFault Text := do
  style.checkIndent
  return style.indentUnit

end Style

end ModuleGrammar
