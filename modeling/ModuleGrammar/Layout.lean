/-
# Layout

The layout writes the tokens one after the other, with line breaks between them
and with the indentation of the nesting level in front of names and brackets. A
comma, a colon or a multiplier stays on the line of what it belongs to.
-/
import ModuleGrammar.Style
import ModuleGrammar.Token

namespace ModuleGrammar.Layout

/-- The nesting level after a token. A closing bracket too many leaves it at
zero. -/
def advance (level : Nat) : Token.Kind → Nat
  | .opening _ => level + 1
  | .closing _ => level - 1
  | _ => level

/-- The nesting level after some tokens. -/
def advanceAll (level : Nat) (tokens : List Token) : Nat :=
  tokens.foldl (fun level token => advance level token.kind) level

/-- Whether a token of this kind stays on the line of the token before it. -/
def isAttached : Token.Kind → Bool
  | .multiplier | .colon | .comma => true
  | _ => false

/-- A newline, if a condition holds. -/
def newlineIf (condition : Bool) : Text :=
  if condition then ['\n'] else []

/-- Whether a line starts after an opening bracket. -/
def breaksAfter (style : Style) : Bracket → Bool
  | .square | .angle => style.insertNewlineAfterBrackets
  | .curly => style.insertNewlineBeforeBrackets

/-- What a token is written as, at a nesting level and in front of the next
token. -/
def piece (style : Style) (level : Nat) (next : Option Token.Kind) (token : Token) : Text :=
  match token.kind with
  | .opening shape => style.indent level ++ token.text ++ newlineIf (breaksAfter style shape)
  | .closing _ => style.indent (level - 1) ++ token.text ++ newlineIf (!next.any isAttached)
  | .multiplier | .weight => token.text ++ newlineIf (next != some .comma)
  | .comma => [',', '\n']
  | .colon => [':', ' ']
  | .name => style.indent level ++ token.text ++ newlineIf (!next.any isAttached)
  | .error => token.text

/-- The text of tokens that start at a nesting level. -/
def renderFrom (style : Style) (level : Nat) : List Token → Text
  | [] => []
  | token :: rest =>
    piece style level (rest.head?.map (·.kind)) token ++
      renderFrom style (advance level token.kind) rest

/-- The text of tokens. -/
def render (style : Style) (tokens : List Token) : Text :=
  renderFrom style 0 tokens

/-- The text of tokens, if the indentation of the style can be made. -/
def tryRender (style : Style) (tokens : List Token) : Except IndentFault Text := do
  style.checkIndent
  return render style tokens

end ModuleGrammar.Layout

namespace ModuleGrammar

/-- A typesetter keeps its nesting level and its text from one list of tokens to
the next. -/
structure Typesetter where
  level : Nat
  text : Text
  deriving DecidableEq, Repr

namespace Typesetter

/-- A typesetter that has written nothing. -/
def fresh : Typesetter :=
  ⟨0, []⟩

/-- A typesetter that has written nothing, if the indentation of its style can be
made. -/
def start (style : Style) : Except IndentFault Typesetter := do
  style.checkIndent
  return fresh

/-- Write a list of tokens behind what is there. -/
def write (typesetter : Typesetter) (style : Style) (tokens : List Token) : Typesetter :=
  ⟨Layout.advanceAll typesetter.level tokens,
    typesetter.text ++ Layout.renderFrom style typesetter.level tokens⟩

end Typesetter

end ModuleGrammar
