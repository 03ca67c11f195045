/-
# Cleanup

The cleanup makes a run of newlines one newline. After that it either trims the
blanks at the end of every line and of the text, or it sees to it that the text
ends with one newline. Trimming wins if a style asks for both.
-/
import ModuleGrammar.Text.Blank
import ModuleGrammar.Style

namespace ModuleGrammar.Layout

/-- Keep one newline of every run of newlines. -/
def collapseNewlines : Text → Text
  | [] => []
  | c :: rest =>
    if c = '\n' ∧ rest.head? = some '\n' then collapseNewlines rest
    else c :: collapseNewlines rest

/-- Trim the blanks at the end of every line and of the text. -/
def trimLines (text : Text) : Text :=
  (Text.join ['\n'] ((text.cut '\n').map Text.trimBlankEnd)).trimBlankEnd

/-- Let a text end with one newline, unless it is empty. -/
def endWithNewline (text : Text) : Text :=
  if text.isEmpty then [] else Text.trimEnd (· == '\n') text ++ ['\n']

/-- Clean up a text. -/
def cleanup (style : Style) (text : Text) : Text :=
  let collapsed := collapseNewlines text
  if style.trimTrailingWhitespace then trimLines collapsed
  else if style.insertFinalNewline then endWithNewline collapsed
  else collapsed

end ModuleGrammar.Layout
