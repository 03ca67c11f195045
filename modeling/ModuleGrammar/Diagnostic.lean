/-
# Diagnostics

A diagnostic is a finding about a source, anchored at an offset and covering a
number of characters. Findings are advice: none of them stops the layout.
-/
import ModuleGrammar.Token

namespace ModuleGrammar

/-- What can be wrong with a grammar. -/
inductive Finding
  /-- A character starts no lexeme. -/
  | unexpectedCharacter (text : Text)
  /-- A closing bracket follows directly on an opening one. -/
  | emptyGroup
  /-- A closing bracket has no opening one. -/
  | unexpectedClosing (text : Text)
  /-- An opening and a closing bracket of different shapes meet. -/
  | mismatchedBrackets (opening closing : Text)
  /-- An opening bracket has no closing one. -/
  | unclosedBracket (shape : Bracket)
  /-- A priority selection has no comma of its own. -/
  | singlePriority
  /-- A multiplier follows neither a name nor a closing bracket. -/
  | strayMultiplier
  /-- A multiplier is neither a repetition sign nor a positive numeral. -/
  | invalidMultiplier (text : Text)
  /-- A comma is the first token. -/
  | leadingComma
  /-- A comma follows a comma. -/
  | repeatedComma
  /-- A comma follows an opening bracket. -/
  | commaAfterOpening
  /-- A comma is the last token. -/
  | trailingComma
  /-- A comma precedes a closing bracket. -/
  | commaBeforeClosing
  /-- A colon stands outside of a choice. -/
  | colonOutsideChoice
  /-- A colon in a choice follows no name. -/
  | colonWithoutName
  /-- A colon in a choice precedes no weight. -/
  | colonWithoutWeight
  /-- A name in a choice precedes no colon, comma, weight or closing bracket. -/
  | nameWithoutSuccessor
  /-- A weight in a choice follows no colon. -/
  | weightWithoutColon
  deriving DecidableEq, Repr

/-- The categories of findings. -/
inductive Category
  | lexical
  | structural
  | placement
  | semantic
  deriving DecidableEq, Repr

namespace Finding

/-- The category of a finding. -/
def category : Finding → Category
  | .unexpectedCharacter _ => .lexical
  | .emptyGroup | .unexpectedClosing _ | .mismatchedBrackets _ _ | .unclosedBracket _ =>
    .structural
  | .singlePriority | .invalidMultiplier _ => .semantic
  | .strayMultiplier | .leadingComma | .repeatedComma | .commaAfterOpening | .trailingComma
  | .commaBeforeClosing | .colonOutsideChoice | .colonWithoutName | .colonWithoutWeight
  | .nameWithoutSuccessor | .weightWithoutColon => .placement

/-- The words for a finding. -/
def message : Finding → Text
  | .unexpectedCharacter text => "Unexpected character: '".toList ++ text ++ "'".toList
  | .emptyGroup => "Empty module group is not allowed".toList
  | .unexpectedClosing text => "Unexpected closing bracket '".toList ++ text ++ "'".toList
  | .mismatchedBrackets opening closing =>
    "Mismatched brackets: '".toList ++ opening ++ "' closed by '".toList ++ closing ++
      "'".toList
  | .unclosedBracket shape => "Unclosed ".toList ++ shape.name ++ " bracket".toList
  | .singlePriority =>
    "Priority selection must contain multiple modules separated by commas".toList
  | .strayMultiplier => "Multiplier must follow a module or closing bracket".toList
  | .invalidMultiplier text => "Invalid multiplier value: '".toList ++ text ++ "'".toList
  | .leadingComma => "Comma cannot start the grammar".toList
  | .repeatedComma => "Consecutive commas are not allowed".toList
  | .commaAfterOpening => "Comma cannot follow an opening bracket".toList
  | .trailingComma => "Comma cannot end the grammar".toList
  | .commaBeforeClosing => "Comma cannot precede a closing bracket".toList
  | .colonOutsideChoice => "Colon can only be used in stochastic choice syntax".toList
  | .colonWithoutName => "Colon must follow a module name".toList
  | .colonWithoutWeight => "Colon must be followed by a weight value".toList
  | .nameWithoutSuccessor =>
    "Module must be followed by colon, comma or closing bracket".toList
  | .weightWithoutColon => "Weight value must follow a colon".toList

end Finding

/-- A finding at an offset that covers `length` characters. -/
structure Diagnostic where
  finding : Finding
  offset : Int
  length : Nat
  deriving DecidableEq, Repr

namespace Diagnostic

/-- The words of a diagnostic. -/
def message (diagnostic : Diagnostic) : Text :=
  diagnostic.finding.message

/-- The category of a diagnostic. -/
def category (diagnostic : Diagnostic) : Category :=
  diagnostic.finding.category

/-- The diagnostic of a character that starts no lexeme. -/
def ofToken? (token : Token) : Option Diagnostic :=
  if token.kind = .error then some ⟨.unexpectedCharacter token.text, token.offset, 1⟩
  else none

/-- The diagnostics of the characters that start no lexeme, in order. -/
def lexical (tokens : List Token) : List Diagnostic :=
  tokens.filterMap ofToken?

end Diagnostic

end ModuleGrammar
