/-
# Lexemes without diagnostics pass anywhere

The check starts on a source with no bracket open and with nothing before the first token, and
the source ends with nothing behind its last token. If it finds nothing then it also finds
nothing when the same lexemes stand behind other ones, in front of other ones and inside of
brackets, as long as no choice is open around them. What stays behind are the commas that
belong to the bracket around.
-/
import ModuleGrammar.Proofs.Acceptance
import ModuleGrammar.Proofs.Soundness

namespace ModuleGrammar.Check

open ModuleGrammar.Tree (Passes EndsElement Starts passes_comma passes_group)

/-- A state with more open brackets around its own. -/
def State.within (state : State) (outer : List Frame) : State :=
  ⟨state.frames ++ outer, state.inChoice⟩

section Step

variable {state : State} {previous next : Option Token.Kind} {token : Token}

/-- No rule looks further than to the innermost bracket. -/
theorem review_within (silent : review state previous next token = []) (outer : List Frame) :
    review (state.within outer) previous next token = [] := by
  cases kind : token.kind with
  | closing shape =>
      simp only [review, kind] at silent ⊢
      obtain ⟨frame, frames, found, -⟩ := reviewClosing_eq_nil_iff.mp silent
      simpa [reviewClosing, State.within, found] using silent
  | error => simp [review, kind]
  | _ =>
      simp only [review, kind] at silent ⊢
      exact silent

/-- A step within brackets takes none of them away. A comma outside of all others is one of
the bracket around. -/
theorem advance_within (silent : review state previous next token = []) (outer : List Frame) :
    ∃ commas, (state.within outer).advance token =
      (state.advance token).within (addCommas commas outer) := by
  obtain ⟨frames, inChoice⟩ := state
  cases kind : token.kind with
  | opening shape => exact ⟨0, by simp [State.advance, State.within, kind, addCommas_zero]⟩
  | closing shape =>
      simp only [review, kind] at silent
      obtain ⟨frame, others, found, -⟩ := reviewClosing_eq_nil_iff.mp silent
      cases found
      exact ⟨0, by simp [State.advance, State.within, kind, addCommas_zero]⟩
  | comma =>
      cases frames with
      | nil =>
          refine ⟨1, ?_⟩
          cases outer <;> simp [State.advance, State.within, kind, addCommas]
      | cons frame frames =>
          exact ⟨0, by simp [State.advance, State.within, kind, addCommas_zero]⟩
  | _ => exact ⟨0, by simp [State.advance, State.within, kind, addCommas_zero]⟩

/-- If a token is the last one then something may follow it, as long as no bracket and no
choice is open behind it. -/
theorem review_of_last (silent : review state previous none token = [])
    (closed : (state.advance token).frames = [])
    (outside : (state.advance token).inChoice = false) :
    EndsElement token.kind ∧ ∀ next, review state previous next token = [] := by
  cases kind : token.kind with
  | opening shape => simp [State.advance, kind] at closed
  | comma => simp [review, kind, reviewComma, commaFindingAfter?] at silent
  | colon =>
      simp only [review, kind, reviewColon] at silent
      split at silent <;> simp [report] at silent
  | name =>
      simp only [State.advance, kind] at outside
      exact ⟨⟨by simp, rfl⟩, fun next => by simp [review, kind, reviewName, report, outside]⟩
  | _ =>
      simp only [review, kind] at silent ⊢
      exact ⟨⟨by simp, rfl⟩, fun _ => silent⟩

/-- If a token is the first one then something may stand before it, as long as no choice is
open. -/
theorem review_of_first (silent : review state none next token = [])
    (outside : state.inChoice = false) (previous : Option Token.Kind) :
    review state previous next token = [] := by
  cases kind : token.kind with
  | multiplier => simp [review, kind, reviewMultiplier, report] at silent
  | comma => simp [review, kind, reviewComma, commaFindingBefore?] at silent
  | colon => simp [review, kind, reviewColon, outside] at silent
  | weight => simp [review, kind, reviewWeight, report, outside]
  | error => simp [review, kind]
  | _ =>
      simp only [review, kind] at silent ⊢
      exact silent

end Step

namespace Clean

/-- The check comes through lexemes without diagnostics within brackets, whatever follows. -/
theorem passes_within {state : State} {previous : Option Token.Kind} {items : List Lexeme}
    (clean : Clean state previous items) (nonempty : items ≠ [])
    (choice : state.inChoice = true → inside state.frames = true) (outer : List Frame) :
    ∃ commas last, EndsElement last ∧
      Passes (state.within outer) previous items ⟨addCommas commas outer, false⟩ last := by
  induction items generalizing state previous outer with
  | nil => exact absurd rfl nonempty
  | cons item rest ih =>
      obtain ⟨silent, later⟩ := (clean_cons state previous item rest).mp clean
      have choice := inside_advance silent choice
      obtain ⟨commas, advanced⟩ := advance_within silent outer
      cases rest with
      | nil =>
          have closed := (clean_nil _ _).mp later
          have outside : (state.advance item.atOrigin).inChoice = false := by
            rw [closed] at choice
            exact Bool.eq_false_iff.mpr fun flag => Bool.false_ne_true (choice flag)
          obtain ⟨ends, always⟩ := review_of_last silent closed outside
          refine ⟨commas, item.kind, ends, fun after clean => (clean_cons _ _ _ _).mpr ⟨?_, ?_⟩⟩
          · exact review_within (always _) outer
          · rw [advanced, State.within, closed, outside]
            exact clean
      | cons second rest =>
          obtain ⟨more, last, ends, passes⟩ :=
            ih later (List.cons_ne_nil _ _) choice (addCommas commas outer)
          rw [← advanced, addCommas_addCommas] at passes
          refine ⟨commas + more, last, ends, fun after clean => (clean_cons _ _ _ _).mpr ⟨?_, ?_⟩⟩
          · exact review_within silent outer
          · exact passes after clean

variable {items : List Lexeme}

/-- The check comes through lexemes without diagnostics behind any token. -/
theorem passes (clean : Clean .initial none items) (nonempty : items ≠ []) (frames : List Frame)
    (previous : Option Token.Kind) :
    ∃ commas last, EndsElement last ∧
      Passes ⟨frames, false⟩ previous items ⟨addCommas commas frames, false⟩ last := by
  have behind : Clean .initial previous items := by
    cases items with
    | nil => exact absurd rfl nonempty
    | cons item rest =>
        obtain ⟨silent, later⟩ := (clean_cons _ _ _ _).mp clean
        exact (clean_cons _ _ _ _).mpr ⟨review_of_first silent rfl previous, later⟩
  exact behind.passes_within nonempty (fun choice => by cases choice) frames

/-- Lexemes without diagnostics do not start with a closing bracket. -/
theorem starts (clean : Clean .initial none items) (nonempty : items ≠ []) : Starts items := by
  cases items with
  | nil => exact absurd rfl nonempty
  | cons item rest => exact ⟨item, rfl, clean.isClosing_eq_false⟩

/-- Lexemes without diagnostics can be put behind each other, with a comma between them. -/
theorem comma {others : List Lexeme} (first : Clean .initial none items) (nonempty : items ≠ [])
    (second : Clean .initial none others) (others_nonempty : others ≠ []) :
    Clean .initial none (items ++ .comma :: others) := by
  obtain ⟨commas, kind, ends, before⟩ := first.passes nonempty [] none
  obtain ⟨more, last, -, behind⟩ := second.passes others_nonempty [] (some .comma)
  have passes := before.append (passes_comma ends (second.starts others_nonempty) behind)
  rw [← List.append_nil (items ++ _)]
  exact passes [] ((clean_nil _ _).mpr rfl)

/-- Lexemes without diagnostics can be put in square brackets. -/
theorem square (clean : Clean .initial none items) (nonempty : items ≠ []) :
    Clean .initial none (.opening .square :: (items ++ [.closing .square])) := by
  obtain ⟨commas, last, -, content⟩ := clean.passes nonempty
    [⟨.square, Bracket.openingText .square, 0, 0⟩] (some (.opening .square))
  have passes : Passes .initial none _ .initial _ :=
    passes_group (clean.starts nonempty) (by simp) content
  rw [← List.append_nil (_ :: _)]
  exact passes [] ((clean_nil _ _).mpr rfl)

end Clean

end ModuleGrammar.Check
