/-
# Listing of tokens

A listing shows one token per line: its offset, its kind and its quoted text.
The offsets are aligned to the right of a column that is as wide as the offset
of the last token. An offset with too many digits cannot be shown, and then the
listing breaks off.
-/
import ModuleGrammar.Text.Numeral
import ModuleGrammar.Text.Quoted
import ModuleGrammar.Token

namespace ModuleGrammar.Token

/-- The word for a kind in a listing. -/
def Kind.label : Kind → Text
  | .name => "MODULE".toList
  | .opening .square => "OPEN_SQUARE".toList
  | .closing .square => "CLOSE_SQUARE".toList
  | .opening .curly => "OPEN_CURLY".toList
  | .closing .curly => "CLOSE_CURLY".toList
  | .opening .angle => "OPEN_ANGLE".toList
  | .closing .angle => "CLOSE_ANGLE".toList
  | .comma => "COMMA".toList
  | .colon => "COLON".toList
  | .multiplier => "MULTIPLIER".toList
  | .weight => "WEIGHT".toList
  | .error => "ERROR".toList

/-- The line of a listing for one token. -/
def listingLine (width : Nat) (token : Token) : Text :=
  Text.padLeft ' ' width (Text.ofInt token.offset) ++ ' ' :: token.kind.label ++
    ' ' :: token.text.quote ++ ['\n']

/-- A listing as far as it was written, and what broke it off. -/
structure Listing where
  text : Text
  fault? : Option NumeralFault
  deriving DecidableEq, Repr

namespace Listing

/-- Nothing is left to list. -/
def done : Listing :=
  ⟨[], none⟩

/-- Nothing more is listed, because an offset cannot be shown. -/
def broken : Listing :=
  ⟨[], some .shown⟩

/-- A listing with a line in front of it. -/
def behind (listing : Listing) (line : Text) : Listing :=
  { listing with text := line ++ listing.text }

/-- List tokens one after the other, with a column of offsets of a width. -/
def ofTokens (width : Nat) : List Token → Listing
  | [] => done
  | token :: tokens =>
    if Text.isShowable token.offset then
      (ofTokens width tokens).behind (listingLine width token)
    else broken

end Listing

/-- The listing of some tokens. The width of the column is found first, from the
offset of the last token. -/
def listing (tokens : List Token) : Listing :=
  match tokens.getLast? with
  | none => .done
  | some last =>
    if Text.isShowable last.offset then .ofTokens (Text.ofInt last.offset).length tokens
    else .broken

end ModuleGrammar.Token
