/-
# Tokens

A module grammar is written with names, brackets of three shapes, commas,
colons, weights and multipliers. A lexeme is a piece of text with its kind; a
token is a lexeme at an offset of a source.
-/
import ModuleGrammar.Text.Basic

namespace ModuleGrammar

/-- The shapes of brackets: square brackets enclose a sequence, curly brackets a
stochastic choice, angle brackets a priority selection. -/
inductive Bracket
  | square
  | curly
  | angle
  deriving DecidableEq, Repr

namespace Bracket

/-- The word for the shape of a bracket. -/
def name : Bracket → Text
  | .square => "square".toList
  | .curly => "curly".toList
  | .angle => "angle".toList

end Bracket

/-- What a token is for. A character that starts no other lexeme is an error. -/
inductive Token.Kind
  | name
  | opening (shape : Bracket)
  | closing (shape : Bracket)
  | comma
  | colon
  | multiplier
  | weight
  | error
  deriving DecidableEq, Repr

/-- A piece of text with its kind. -/
structure Lexeme where
  kind : Token.Kind
  text : Text
  deriving DecidableEq, Repr

/-- A lexeme at an offset of a source. -/
structure Token extends Lexeme where
  offset : Int
  deriving DecidableEq, Repr

namespace Token

/-- The offset just behind a token. -/
def stop (token : Token) : Int :=
  token.offset + token.text.length

namespace Kind

/-- The kind of a lexeme that is a single punctuation character. -/
def ofSymbol? : Char → Option Kind
  | '[' => some (.opening .square)
  | ']' => some (.closing .square)
  | '{' => some (.opening .curly)
  | '}' => some (.closing .curly)
  | '<' => some (.opening .angle)
  | '>' => some (.closing .angle)
  | ',' => some .comma
  | ':' => some .colon
  | _ => none

/-- Whether tokens of this kind open a group. -/
def isOpening : Kind → Bool
  | .opening _ => true
  | _ => false

/-- Whether tokens of this kind close a group. -/
def isClosing : Kind → Bool
  | .closing _ => true
  | _ => false

end Kind

end Token

/-- Digits of numerals in a grammar are ASCII digits. -/
def isDigit (c : Char) : Bool :=
  '0' ≤ c && c ≤ '9'

/-- Names consist of ASCII letters, digits, underscores and hyphens. -/
def isNameChar (c : Char) : Bool :=
  ('a' ≤ c && c ≤ 'z') || ('A' ≤ c && c ≤ 'Z') || isDigit c || c == '_' || c == '-'

/-- Multipliers behind a closing bracket consist of digits and the two
repetition signs. -/
def isMultiplierChar (c : Char) : Bool :=
  c == '*' || c == '+' || isDigit c

namespace Text

/-- A numeral has a character and all its characters are digits. -/
def isNumeral (text : Text) : Bool :=
  !text.isEmpty && text.all isDigit

end Text

end ModuleGrammar
