/-
# Reading configuration files

Configuration files are written in TOML, version 1.0. A reader takes a text that
starts with what it reads and gives back the result and the text after it, or
nothing if the text starts with something else. This module holds the readers
for what stands between the values: blanks, line breaks and comments.
-/
import ModuleGrammar.Text.Numeral

namespace ModuleGrammar.Toml

/-- A reader of results from the front of a text. -/
abbrev Reader (α : Type) := Text → Option (α × Text)

/-- Why a file cannot be read. -/
inductive Fault
  /-- It breaks a rule of the format. -/
  | malformed
  /-- It holds an integer with too many digits. -/
  | numeral (fault : NumeralFault)
  deriving DecidableEq, Repr

/-- What has to be there lest a rule of the format be broken. -/
def demand {α : Type} : Option α → Except Fault α
  | some result => .ok result
  | none => .error .malformed

/-- The blanks within a line. -/
def isSpace (c : Char) : Bool :=
  c == ' ' || c == '\t'

/-- The blanks within a list, which may extend over lines. -/
def isSpaceOrBreak (c : Char) : Bool :=
  isSpace c || c == '\n'

/-- The control characters that no comment and no string may hold. -/
def isControl (c : Char) : Bool :=
  (c.toNat < 0x20 && c != '\t') || c.toNat == 0x7F

/-- Skip blanks. -/
def skipSpaces (text : Text) : Text :=
  text.dropWhile isSpace

/-- Skip a comment if there is one. It extends to the end of the line. -/
def skipComment? : Text → Option Text
  | '#' :: rest =>
    if (rest.takeWhile (· != '\n')).any isControl then none
    else some (rest.dropWhile (· != '\n'))
  | text => some text

/-- Skip blanks, line breaks and comments. The flag says whether the text starts
within a comment. -/
def skipFiller? (inComment : Bool) : Text → Option Text
  | [] => some []
  | c :: rest =>
    if c = '\n' then skipFiller? false rest
    else if inComment then if isControl c then none else skipFiller? true rest
    else if isSpace c then skipFiller? false rest
    else if c = '#' then skipFiller? true rest
    else some (c :: rest)

end ModuleGrammar.Toml
