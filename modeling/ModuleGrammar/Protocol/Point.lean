/-
# Points of a document

An editor names a place in a document by line and character, both counted from
zero, where characters are counted in the code units of the client. The lines
are those of all line breaks. What becomes of a point behind the end of its line
or of the document is a rule of the library that speaks the protocol.
-/
import ModuleGrammar.Text.CodeUnit
import ModuleGrammar.Text.Line

namespace ModuleGrammar.Protocol

/-- A place in a document, in the units of a client. -/
structure Point where
  line : Nat
  character : Nat
  deriving DecidableEq, Repr

/-- The part of a document from one point to another. -/
structure Range where
  start : Point
  stop : Point
  deriving DecidableEq, Repr

namespace Point

/-- The start of a document. -/
def origin : Point :=
  ⟨0, 0⟩

/-- The point at a column of a line, for lines and columns that count characters
from zero. A line that is not there gives the point behind the last line. -/
def ofColumn (unit : CodeUnit) (lines : List Text) (line column : Nat) : Point :=
  match lines[line]? with
  | some text => ⟨line, unit.count (text.take column)⟩
  | none => ⟨lines.length, 0⟩

/-- Move a point that is behind the end of its line to the last unit of the line.
A line break counts as one character here. -/
def settle (unit : CodeUnit) (lines : List Text) (point : Point) : Point :=
  match lines[point.line]? with
  | none => point
  | some text =>
    let units := unit.count text.contractBreaks
    if units < point.character then ⟨point.line, units - 1⟩ else point

/-- The number of characters of the lines before a line. -/
def lineStart (lines : List Text) (line : Nat) : Nat :=
  (lines.take line).flatten.length

/-- The offset of a settled point. A point behind the last line counts as the
point that is as many characters into the last line as it has units. -/
def offset (unit : CodeUnit) (lines : List Text) (point : Point) : Nat :=
  match lines[point.line]? with
  | some text => lineStart lines point.line + unit.reach point.character text.contractBreaks
  | none =>
    match lines.getLast? with
    | none => 0
    | some last => lineStart lines (lines.length - 1) + unit.count last

end Point

end ModuleGrammar.Protocol
