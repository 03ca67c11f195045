/-
# Strings of configuration files

A string stands between double quotes and may hold escapes, or between
apostrophes and holds none. Three marks enclose a string that may extend over
lines; up to two more of them at its end belong to it.
-/
import ModuleGrammar.Text.Hexadecimal
import ModuleGrammar.Toml.Reader

namespace ModuleGrammar.Toml

/-- The character with a code point in hexadecimal digits. Surrogates and numbers
beyond the last code point have none. -/
def charOfHex? (digits : Text) : Option Char := do
  let values ← digits.mapM hexDigit?
  let number := values.foldl (fun total value => 16 * total + value) 0
  if number.isValidChar then some (Char.ofNat number) else none

/-- The escapes of a single character. -/
def escaped? : Char → Option Char
  | 'b' => some '\x08'
  | 't' => some '\t'
  | 'n' => some '\n'
  | 'f' => some '\x0c'
  | 'r' => some '\r'
  | '"' => some '"'
  | '\\' => some '\\'
  | _ => none

/-- What a string that extends over lines leaves out behind a backslash. -/
inductive Gap
  /-- Nothing is left out. -/
  | none
  /-- Blanks are left out up to a line break, which has to come. -/
  | toBreak
  /-- Blanks and line breaks are left out. -/
  | blanks
  deriving DecidableEq, Repr

/-- Put a character in front of what a reader found. -/
def found (c : Char) (result : Option (Text × Text)) : Option (Text × Text) :=
  result.map fun (text, rest) => (c :: text, rest)

/-- Read the inside of a string between double quotes, up to and with the closing
marks. -/
def basicBody (multiline : Bool) (gap : Gap) : Reader Text
  | [] => none
  | c :: rest =>
    if gap = .toBreak then
      if isSpace c then basicBody multiline .toBreak rest
      else if c = '\n' then basicBody multiline .blanks rest
      else none
    else if gap = .blanks && isSpaceOrBreak c then basicBody multiline .blanks rest
    else if c = '"' then
      if multiline then
        match rest with
        | '"' :: '"' :: after => some ([], after)
        | _ => found c (basicBody multiline .none rest)
      else some ([], rest)
    else if c = '\\' then
      match rest with
      | 'u' :: d₁ :: d₂ :: d₃ :: d₄ :: after => do
        let c ← charOfHex? [d₁, d₂, d₃, d₄]
        found c (basicBody multiline .none after)
      | 'U' :: d₁ :: d₂ :: d₃ :: d₄ :: d₅ :: d₆ :: d₇ :: d₈ :: after => do
        let c ← charOfHex? [d₁, d₂, d₃, d₄, d₅, d₆, d₇, d₈]
        found c (basicBody multiline .none after)
      | e :: after =>
        if multiline && e = '\n' then basicBody multiline .blanks after
        else if multiline && isSpace e then basicBody multiline .toBreak after
        else
          match escaped? e with
          | some c => found c (basicBody multiline .none after)
          | none => none
      | [] => none
    else if isControl c && !(multiline && c = '\n') then none
    else found c (basicBody multiline .none rest)

/-- Add up to two more closing marks to a string. -/
def withExtraMarks (mark : Char) : Text × Text → Text × Text
  | (text, rest) =>
    let extra := (rest.takeWhile (· == mark)).take 2
    (text ++ extra, rest.drop extra.length)

/-- Drop the line break that may follow the opening marks. -/
def dropFirstBreak : Text → Text
  | '\n' :: rest => rest
  | text => text

/-- Read the inside of a string between apostrophes. -/
def literalBody (text : Text) : Option (Text × Text) :=
  match text.dropWhile (· != '\'') with
  | [] => none
  | _ :: rest =>
    let body := text.takeWhile (· != '\'')
    if body.any isControl then none else some (body, rest)

/-- Divide a text at the first three apostrophes. -/
def toTripleApostrophe : Reader Text
  | '\'' :: '\'' :: '\'' :: rest => some ([], rest)
  | c :: rest => found c (toTripleApostrophe rest)
  | [] => none

/-- Read the inside of a string between three apostrophes. -/
def literalLines (text : Text) : Option (Text × Text) := do
  let (body, rest) ← toTripleApostrophe (dropFirstBreak text)
  if body.any fun c => isControl c && c != '\n' then none
  else some (withExtraMarks '\'' (body, rest))

/-- Read a string on one line. -/
def lineString : Reader Text
  | '"' :: rest => basicBody false .none rest
  | '\'' :: rest => literalBody rest
  | _ => none

/-- Read a string. -/
def string : Reader Text
  | '"' :: '"' :: '"' :: rest =>
    (basicBody true .none (dropFirstBreak rest)).map (withExtraMarks '"')
  | '\'' :: '\'' :: '\'' :: rest => literalLines rest
  | text => lineString text

end ModuleGrammar.Toml
