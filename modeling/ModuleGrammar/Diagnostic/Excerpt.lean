/-
# Excerpts

An excerpt shows a message with the line of the source that it is about and with
carets under the characters that it covers. The position comes from newlines,
the line shown from all line breaks, so the two may differ in a source that has
other breaks.
-/
import ModuleGrammar.Text.Line
import ModuleGrammar.Position
import ModuleGrammar.Diagnostic

namespace ModuleGrammar.Excerpt

/-- The line of a source that an excerpt shows, without its newline and carriage
returns. Lines are counted from one; a line that is not there is empty. -/
def line (source : Text) (number : Nat) : Text :=
  match source.lines[number - 1]? with
  | none => []
  | some line => Text.trimEnd (· == '\r') (Text.trimEnd (· == '\n') line)

/-- The number of carets: the length, but at least one and not beyond the end of
the line. -/
def caretCount (line : Text) (column : Nat) (length : Int) : Nat :=
  (max 1 (min length ((line.length : Int) - column + 1))).toNat

/-- The excerpt for a message that covers `length` characters from an offset on.
An offset outside of the source is only named. -/
def render (message : Text) (offset length : Int) (source filename : Text) : Text :=
  match Position.resolve? source offset with
  | none =>
    "error: ".toList ++ message ++ "\n --> ".toList ++ filename ++ ": offset ".toList ++
      Text.ofInt offset
  | some position =>
    let shown := line source position.line
    let number := Text.ofNat position.line
    let gutter := List.replicate (number.length + 1) ' '
    "error: ".toList ++ message ++ '\n' ::
      gutter ++ "--> ".toList ++ filename ++ ':' :: number ++ ':' ::
      Text.ofNat position.column ++ '\n' ::
      gutter ++ "|\n".toList ++
      number ++ " | ".toList ++ shown ++ '\n' ::
      gutter ++ "| ".toList ++ List.replicate (position.column - 1) ' ' ++
      List.replicate (caretCount shown position.column length) '^'

end ModuleGrammar.Excerpt

namespace ModuleGrammar.Diagnostic

/-- The excerpt for a diagnostic of a source. -/
def excerpt (diagnostic : Diagnostic) (source filename : Text) : Text :=
  Excerpt.render diagnostic.message diagnostic.offset diagnostic.length source filename

end ModuleGrammar.Diagnostic
