/-
# Segments of a source

Scanning divides a source into segments: single blank characters and lexemes.
The texts of the segments, one after the other, are the source. A lexeme depends
on the characters that follow it, and on whether the lexeme before it is a
colon; the blanks between lexemes do nothing else than separate them.
-/
import ModuleGrammar.Text.Blank
import ModuleGrammar.Token

namespace ModuleGrammar

/-- A piece of a source: a blank character or a lexeme. -/
inductive Segment
  | blank (c : Char)
  | lexeme (item : Lexeme)
  deriving DecidableEq, Repr

namespace Segment

/-- The characters of the source that a segment covers. -/
def text : Segment → Text
  | .blank c => [c]
  | .lexeme item => item.text

/-- The lexeme of a segment, if it has one. -/
def lexeme? : Segment → Option Lexeme
  | .blank _ => none
  | .lexeme item => some item

/-- The part of a run of name characters before its trailing digits. -/
def stem (run : Text) : Text :=
  run.reverse.dropWhile isDigit |>.reverse

/-- The trailing digits of a run of name characters. -/
def trailingDigits (run : Text) : Text :=
  run.reverse.takeWhile isDigit |>.reverse

/-- The lexemes of a maximal run of name characters. A numeral is a weight behind
a colon and a name otherwise. A run in front of a colon is a name with its
digits. In any other run the trailing digits are a multiplier of the name. -/
def ofRun (afterColon beforeColon : Bool) (run : Text) : List Lexeme :=
  if run.isNumeral then [⟨if afterColon then .weight else .name, run⟩]
  else if beforeColon || (trailingDigits run).isEmpty then [⟨.name, run⟩]
  else [⟨.name, stem run⟩, ⟨.multiplier, trailingDigits run⟩]

/-- Whether the next character that is not blank is a colon. -/
def meetsColon (text : Text) : Bool :=
  (text.dropWhile isBlank).head? == some ':'

/-- The lexemes that start at the character `c`, which is not blank, and the text
after them. A closing bracket takes the multiplier characters behind it along. -/
def leading (afterColon : Bool) (c : Char) (rest : Text) : List Lexeme × Text :=
  match Token.Kind.ofSymbol? c with
  | some kind =>
    let repeats := rest.takeWhile isMultiplierChar
    if kind.isClosing && !repeats.isEmpty then
      ([⟨kind, [c]⟩, ⟨.multiplier, repeats⟩], rest.dropWhile isMultiplierChar)
    else ([⟨kind, [c]⟩], rest)
  | none =>
    if isNameChar c then
      let after := rest.dropWhile isNameChar
      (ofRun afterColon (meetsColon after) (c :: rest.takeWhile isNameChar), after)
    else if c = '*' || c = '+' then ([⟨.multiplier, [c]⟩], rest)
    else ([⟨.error, [c]⟩], rest)

theorem length_leading_le (afterColon : Bool) (c : Char) (rest : Text) :
    (leading afterColon c rest).2.length ≤ rest.length := by
  unfold leading
  split
  · dsimp only
    split
    · exact Text.length_dropWhile_le _ _
    · exact Nat.le_refl _
  · split
    · exact Text.length_dropWhile_le _ _
    · split <;> exact Nat.le_refl _

/-- The segments of a text, where `afterColon` says whether the lexeme before it
is a colon. -/
def ofText (afterColon : Bool) : Text → List Segment
  | [] => []
  | c :: rest =>
    if isBlank c then .blank c :: ofText afterColon rest
    else
      (leading afterColon c rest).1.map .lexeme ++
        ofText (c == ':') (leading afterColon c rest).2
termination_by text => text.length
decreasing_by
  · simp
  · have := length_leading_le afterColon c rest
    simp only [List.length_cons]
    omega

/-- The tokens of segments that start at an offset. -/
def place (offset : Nat) : List Segment → List Token
  | [] => []
  | .blank _ :: rest => place (offset + 1) rest
  | .lexeme item :: rest => ⟨item, offset⟩ :: place (offset + item.text.length) rest

end Segment

namespace Token

/-- The tokens of a source. -/
def scan (source : Text) : List Token :=
  Segment.place 0 (Segment.ofText false source)

end Token

/-- A scan in progress: the offset it has come to, the text that it has not read
and the tokens that it has found. -/
structure Scan where
  offset : Nat
  unread : Text
  tokens : List Token
  deriving Repr

namespace Scan

/-- A scan of a source that has read nothing. -/
def start (source : Text) : Scan :=
  ⟨0, source, []⟩

/-- Read all that is unread. A scan that has nothing to read stays as it is. -/
def finish (scan : Scan) : Scan where
  offset := scan.offset + scan.unread.length
  unread := []
  tokens :=
    let afterColon := scan.tokens.getLast?.any (·.kind == .colon)
    scan.tokens ++ Segment.place scan.offset (Segment.ofText afterColon scan.unread)

end Scan

end ModuleGrammar
