/-
# Checking a grammar

The check reads the tokens once, from left to right. All that it remembers is
the stack of open brackets and whether it is in a choice: an opening curly
bracket enters a choice and any closing curly bracket leaves it. Beyond that
every rule looks at a token and its two neighbours only.
-/
import ModuleGrammar.Diagnostic

namespace ModuleGrammar.Check

/-- An open bracket and the number of commas met directly inside it. -/
structure Frame where
  shape : Bracket
  text : Text
  offset : Int
  commas : Nat
  deriving DecidableEq, Repr

/-- What the check remembers: the open brackets, the innermost first, and whether
it is in a choice. -/
structure State where
  frames : List Frame
  inChoice : Bool
  deriving DecidableEq, Repr

namespace State

/-- Before the first token no bracket is open. -/
def initial : State :=
  ⟨[], false⟩

/-- The state after a token. -/
def advance (state : State) (token : Token) : State :=
  match token.kind with
  | .opening shape =>
    ⟨⟨shape, token.text, token.offset, 0⟩ :: state.frames, state.inChoice || shape == .curly⟩
  | .closing shape => ⟨state.frames.tail, state.inChoice && shape != .curly⟩
  | .comma =>
    match state.frames with
    | [] => state
    | frame :: frames => ⟨{ frame with commas := frame.commas + 1 } :: frames, state.inChoice⟩
  | _ => state

/-- The state after some tokens. -/
def advanceAll (state : State) (tokens : List Token) : State :=
  tokens.foldl advance state

/-- The diagnostics of the brackets that are still open, the outermost first. -/
def unclosed (state : State) : List Diagnostic :=
  state.frames.reverse.map fun frame => ⟨.unclosedBracket frame.shape, frame.offset, 1⟩

end State

/-- A diagnostic at a token, if a condition holds. -/
def report (condition : Bool) (finding : Finding) (offset : Int) (length : Nat) :
    List Diagnostic :=
  if condition then [⟨finding, offset, length⟩] else []

/-- An opening bracket must not be followed by a closing one. -/
def reviewOpening (next : Option Token.Kind) (token : Token) : List Diagnostic :=
  report (next.any Token.Kind.isClosing) .emptyGroup token.offset 1

/-- A closing bracket must have the shape of the innermost open one, and a
priority selection must have a comma of its own. -/
def reviewClosing (state : State) (shape : Bracket) (token : Token) : List Diagnostic :=
  match state.frames with
  | [] => [⟨.unexpectedClosing token.text, token.offset, 1⟩]
  | frame :: _ =>
    if frame.shape != shape then
      [⟨.mismatchedBrackets frame.text token.text, token.offset, 1⟩]
    else report (shape == .angle && frame.commas == 0) .singlePriority frame.offset 1

/-- The multipliers: a repetition sign, or a numeral with a digit other than
zero. -/
def isMultiplier (text : Text) : Bool :=
  text == ['*'] || text == ['+'] || (text.isNumeral && text.any (· != '0'))

/-- A multiplier must follow a name or a closing bracket. -/
def reviewMultiplier (previous : Option Token.Kind) (token : Token) : List Diagnostic :=
  report (!previous.any fun kind => kind == .name || kind.isClosing)
      .strayMultiplier token.offset token.text.length ++
    report (!isMultiplier token.text)
      (.invalidMultiplier token.text) token.offset token.text.length

/-- What a comma must not follow. -/
def commaFindingBefore? : Option Token.Kind → Option Finding
  | none => some .leadingComma
  | some .comma => some .repeatedComma
  | some (.opening _) => some .commaAfterOpening
  | some _ => none

/-- What a comma must not precede. -/
def commaFindingAfter? : Option Token.Kind → Option Finding
  | none => some .trailingComma
  | some (.closing _) => some .commaBeforeClosing
  | some _ => none

/-- A comma must stand between two elements. -/
def reviewComma (previous next : Option Token.Kind) (token : Token) : List Diagnostic :=
  ((commaFindingBefore? previous).toList ++ (commaFindingAfter? next).toList).map
    fun finding => ⟨finding, token.offset, 1⟩

/-- A colon must stand in a choice, between a name and a weight. -/
def reviewColon (inChoice : Bool) (previous next : Option Token.Kind) (token : Token) :
    List Diagnostic :=
  if inChoice then
    report (previous != some .name) .colonWithoutName token.offset 1 ++
      report (next != some .weight) .colonWithoutWeight token.offset 1
  else [⟨.colonOutsideChoice, token.offset, 1⟩]

/-- What may follow a name in a choice. -/
def mayFollowName : Token.Kind → Bool
  | .colon | .comma | .weight | .closing _ => true
  | _ => false

/-- A name in a choice must be followed by a colon, a comma, a weight or a
closing bracket. -/
def reviewName (inChoice : Bool) (next : Option Token.Kind) (token : Token) :
    List Diagnostic :=
  report (inChoice && !next.any mayFollowName)
    .nameWithoutSuccessor token.offset token.text.length

/-- A weight in a choice must follow a colon. -/
def reviewWeight (inChoice : Bool) (previous : Option Token.Kind) (token : Token) :
    List Diagnostic :=
  report (inChoice && previous != some .colon)
    .weightWithoutColon token.offset token.text.length

/-- The diagnostics of a token, from the state before it and its neighbours. -/
def review (state : State) (previous next : Option Token.Kind) (token : Token) :
    List Diagnostic :=
  match token.kind with
  | .opening _ => reviewOpening next token
  | .closing shape => reviewClosing state shape token
  | .multiplier => reviewMultiplier previous token
  | .comma => reviewComma previous next token
  | .colon => reviewColon state.inChoice previous next token
  | .name => reviewName state.inChoice next token
  | .weight => reviewWeight state.inChoice previous token
  | .error => []

/-- The diagnostics of tokens that follow on a state and a token. -/
def reviewAll (state : State) (previous : Option Token.Kind) : List Token → List Diagnostic
  | [] => []
  | token :: rest =>
    review state previous (rest.head?.map (·.kind)) token ++
      reviewAll (state.advance token) (some token.kind) rest

end ModuleGrammar.Check

namespace ModuleGrammar

/-- A checker keeps its state and its diagnostics from one list of tokens to the
next. -/
structure Checker where
  state : Check.State
  diagnostics : List Diagnostic
  deriving DecidableEq, Repr

namespace Checker

/-- A checker that has seen nothing. -/
def fresh : Checker :=
  ⟨.initial, []⟩

/-- Check a list of tokens. The brackets that are open at its end are reported and
stay open. -/
def check (checker : Checker) (tokens : List Token) : Checker :=
  let state := checker.state.advanceAll tokens
  ⟨state,
    checker.diagnostics ++ Check.reviewAll checker.state none tokens ++ state.unclosed⟩

end Checker

namespace Diagnostic

/-- The diagnostics of a list of tokens. -/
def ofTokens (tokens : List Token) : List Diagnostic :=
  (Checker.fresh.check tokens).diagnostics

end Diagnostic

end ModuleGrammar
