/-
# Findings do not depend on offsets

The check decides by the kinds and texts of tokens. Offsets are only handed on: from a
token to its diagnostics, and from an opening bracket to the diagnostics that its group
gets later. So moving all tokens to the origin moves the diagnostics there and changes
nothing else about them. Since formatting keeps the lexemes of a source, it keeps the
findings as well.
-/
import ModuleGrammar.Proofs.Formatting

namespace ModuleGrammar

/-- A lexeme as the first token of a source. -/
def Lexeme.atOrigin (item : Lexeme) : Token :=
  ⟨item, 0⟩

/-- A token moved to the origin. -/
def Token.atOrigin (token : Token) : Token :=
  token.toLexeme.atOrigin

/-- A diagnostic moved to the origin. -/
def Diagnostic.atOrigin (diagnostic : Diagnostic) : Diagnostic :=
  { diagnostic with offset := 0 }

/-- What a diagnostic says, without the place that it says it of. -/
def Diagnostic.content (diagnostic : Diagnostic) : Text × Category × Nat :=
  (diagnostic.message, diagnostic.category, diagnostic.length)

namespace Check

/-- An open bracket moved to the origin. -/
def Frame.atOrigin (frame : Frame) : Frame :=
  { frame with offset := 0 }

/-- A state with all its open brackets moved to the origin. -/
def State.atOrigin (state : State) : State :=
  ⟨state.frames.map Frame.atOrigin, state.inChoice⟩

namespace State

theorem advance_atOrigin (state : State) (token : Token) :
    (state.advance token).atOrigin = state.atOrigin.advance token.atOrigin := by
  obtain ⟨⟨kind, text⟩, offset⟩ := token
  cases kind with
  | comma => cases frames : state.frames <;> simp [advance, atOrigin, Token.atOrigin,
      Lexeme.atOrigin, frames, Frame.atOrigin]
  | _ => simp [advance, atOrigin, Token.atOrigin, Lexeme.atOrigin, Frame.atOrigin]

theorem advanceAll_atOrigin (state : State) (tokens : List Token) :
    (state.advanceAll tokens).atOrigin =
      state.atOrigin.advanceAll (tokens.map Token.atOrigin) := by
  induction tokens generalizing state with
  | nil => rfl
  | cons token rest ih =>
      have later := ih (state.advance token)
      rwa [advance_atOrigin] at later

theorem unclosed_atOrigin (state : State) :
    state.unclosed.map Diagnostic.atOrigin = state.atOrigin.unclosed := by
  simp [unclosed, atOrigin, Diagnostic.atOrigin, Frame.atOrigin, Function.comp_def]

end State

theorem report_atOrigin (condition : Bool) (finding : Finding) (offset : Int) (length : Nat) :
    (report condition finding offset length).map Diagnostic.atOrigin =
      report condition finding 0 length := by
  cases condition <;> rfl

/-- The review of one token looks at no offset. -/
theorem review_atOrigin (state : State) (previous next : Option Token.Kind) (token : Token) :
    (review state previous next token).map Diagnostic.atOrigin =
      review state.atOrigin previous next token.atOrigin := by
  obtain ⟨⟨kind, text⟩, offset⟩ := token
  cases kind with
  | opening shape => exact report_atOrigin _ _ _ _
  | closing shape =>
      cases frames : state.frames with
      | nil => simp [review, reviewClosing, State.atOrigin, frames, Token.atOrigin,
          Lexeme.atOrigin, Diagnostic.atOrigin]
      | cons frame outer =>
          by_cases same : frame.shape = shape
          · simp [review, reviewClosing, State.atOrigin, frames, Token.atOrigin, Lexeme.atOrigin,
              Frame.atOrigin, same, report_atOrigin]
          · simp [review, reviewClosing, State.atOrigin, frames, Token.atOrigin, Lexeme.atOrigin,
              Frame.atOrigin, same, Diagnostic.atOrigin]
  | multiplier =>
      simp [review, reviewMultiplier, report_atOrigin, Token.atOrigin, Lexeme.atOrigin]
  | comma =>
      simp [review, reviewComma, Token.atOrigin, Lexeme.atOrigin, Diagnostic.atOrigin,
        Function.comp_def]
  | colon =>
      cases inChoice : state.inChoice <;>
        simp [review, reviewColon, State.atOrigin, inChoice, report_atOrigin, Token.atOrigin,
          Lexeme.atOrigin, Diagnostic.atOrigin]
  | name => exact report_atOrigin _ _ _ _
  | weight => exact report_atOrigin _ _ _ _
  | error => rfl

theorem reviewAll_atOrigin (state : State) (previous : Option Token.Kind) (tokens : List Token) :
    (reviewAll state previous tokens).map Diagnostic.atOrigin =
      reviewAll state.atOrigin previous (tokens.map Token.atOrigin) := by
  induction tokens generalizing state previous with
  | nil => rfl
  | cons token rest ih =>
      have next : ((rest.map Token.atOrigin).head?.map (·.kind)) = rest.head?.map (·.kind) := by
        cases rest <;> rfl
      rw [List.map_cons, reviewAll, reviewAll, List.map_append, review_atOrigin, ih,
        State.advance_atOrigin, next]
      rfl

end Check

namespace Diagnostic

theorem ofTokens_atOrigin (tokens : List Token) :
    (ofTokens tokens).map atOrigin = ofTokens (tokens.map Token.atOrigin) := by
  simp only [ofTokens, Checker.check, Checker.fresh, List.nil_append, List.map_append,
    Check.reviewAll_atOrigin, Check.State.unclosed_atOrigin, Check.State.advanceAll_atOrigin]
  rfl

theorem lexical_atOrigin (tokens : List Token) :
    (lexical tokens).map atOrigin = lexical (tokens.map Token.atOrigin) := by
  rw [lexical, lexical, List.map_filterMap, List.filterMap_map]
  congr 1
  funext token
  by_cases error : token.kind = .error <;>
    simp [ofToken?, Token.atOrigin, Lexeme.atOrigin, atOrigin, error]

/-- Tokens have diagnostics wherever they stand, or nowhere. -/
theorem ofTokens_eq_nil_iff (tokens : List Token) :
    ofTokens tokens = [] ↔
      ofTokens ((tokens.map (·.toLexeme)).map Lexeme.atOrigin) = [] := by
  rw [← List.map_eq_nil_iff (f := atOrigin), ofTokens_atOrigin, List.map_map]
  rfl

end Diagnostic

/-- At the origin the diagnostics of a source can be read off its lexemes. -/
theorem diagnose_atOrigin (source : Text) :
    (diagnose source).map Diagnostic.atOrigin =
      let tokens := (Token.lexemes source).map Lexeme.atOrigin
      Diagnostic.lexical tokens ++ Diagnostic.ofTokens tokens := by
  have tokens : (Token.scan source).map Token.atOrigin =
      (Token.lexemes source).map Lexeme.atOrigin := by
    rw [Token.lexemes, List.map_map]
    rfl
  rw [diagnose, List.map_append, Diagnostic.lexical_atOrigin, Diagnostic.ofTokens_atOrigin, tokens]

/-- Sources with the same lexemes have diagnostics of the same content, in the same
order. -/
theorem map_content_diagnose_eq {first second : Text}
    (same : Token.lexemes first = Token.lexemes second) :
    (diagnose first).map Diagnostic.content = (diagnose second).map Diagnostic.content := by
  have moved (source : Text) : (diagnose source).map Diagnostic.content =
      ((diagnose source).map Diagnostic.atOrigin).map Diagnostic.content := by
    rw [List.map_map]
    rfl
  rw [moved first, moved second, diagnose_atOrigin, diagnose_atOrigin, same]

/-- A formatted text has the diagnostics of its source, in the same order and with the
same messages, categories and lengths. Only the offsets can differ. Both texts are
formatted for their diagnostics with any style. -/
theorem format_keeps_findings (style first second : Style) (source : Text) :
    Formats style source fun formatted =>
      Formats first formatted.text fun again =>
        Formats second source fun once =>
          again.diagnostics.map Diagnostic.content = once.diagnostics.map Diagnostic.content := by
  apply formats_of_format
  apply formats_of_format
  apply formats_of_format
  exact map_content_diagnose_eq (lexemes_layOut style source)

end ModuleGrammar
