/-
# Formatting a grammar

Formatting scans a source, checks its tokens and lays them out. No source makes
it fail: problems are reported as diagnostics and the text is laid out all the
same. Only a style whose indentation cannot be made is refused.
-/
import ModuleGrammar.Token.Segment
import ModuleGrammar.Check
import ModuleGrammar.Layout
import ModuleGrammar.Layout.Cleanup

namespace ModuleGrammar

/-- The text of a formatted source and what was found in the source. -/
structure Formatted where
  text : Text
  diagnostics : List Diagnostic
  deriving DecidableEq, Repr

namespace Formatted

/-- Whether nothing was found. -/
def isClean (formatted : Formatted) : Bool :=
  formatted.diagnostics.isEmpty

end Formatted

/-- The diagnostics of a source: first the characters that start no lexeme, then
the findings of the check. -/
def diagnose (source : Text) : List Diagnostic :=
  let tokens := Token.scan source
  Diagnostic.lexical tokens ++ Diagnostic.ofTokens tokens

/-- The layout of a source. -/
def layOut (style : Style) (source : Text) : Text :=
  Layout.cleanup style (Layout.render style (Token.scan source))

/-- Format a source. -/
def format (style : Style) (source : Text) : Formatted :=
  ⟨layOut style source, diagnose source⟩

/-- Format a source with one style after the other, each time from the text of
the time before. -/
def formatChain (source : Text) : List Style → List Formatted
  | [] => []
  | style :: styles =>
    let formatted := format style source
    formatted :: formatChain formatted.text styles

/-- Format a source, if the indentation of the style can be made. -/
def tryFormat (style : Style) (source : Text) : Except IndentFault Formatted := do
  style.checkIndent
  return format style source

/-- Format a source with one style after the other, if the indentation of every
one of them can be made. -/
def tryFormatChain (source : Text) (styles : List Style) :
    Except IndentFault (List Formatted) := do
  styles.forM Style.checkIndent
  return formatChain source styles

end ModuleGrammar
