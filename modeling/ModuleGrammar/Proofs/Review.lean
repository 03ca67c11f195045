/-
# When the check finds nothing

For every kind of token there is one condition under which the check has nothing to
report. The conditions are stated here once, and everything else about lists of tokens
without diagnostics goes through them and through `clean_cons`, which takes such a list
apart.
-/
import ModuleGrammar.Proofs.Finding
import ModuleGrammar.Proofs.Phrase

namespace ModuleGrammar.Check

theorem report_eq_nil_iff (condition : Bool) (finding : Finding) (offset : Int) (length : Nat) :
    report condition finding offset length = [] ↔ condition = false := by
  cases condition <;> simp [report]

theorem isMultiplier_iff (text : Text) : isMultiplier text = true ↔ ValidMultiplier text := by
  have numeral : (text.isNumeral && text.any (· != '0')) = true ↔
      (∀ c ∈ text, isDigit c = true) ∧ ∃ c ∈ text, c ≠ '0' := by
    simp only [Text.isNumeral, Bool.and_eq_true, Bool.not_eq_true', List.isEmpty_eq_false_iff,
      List.all_eq_true, List.any_eq_true, bne_iff_ne, and_assoc, and_iff_right_iff_imp]
    rintro ⟨-, c, member, -⟩
    exact List.ne_nil_of_mem member
  rw [isMultiplier, Bool.or_eq_true, Bool.or_eq_true, beq_iff_eq, beq_iff_eq, numeral, or_assoc,
    ValidMultiplier]

instance (text : Text) : Decidable (ValidMultiplier text) :=
  decidable_of_iff (isMultiplier text = true) (isMultiplier_iff text)

/-- The open brackets after a number of commas. -/
def addCommas (count : Nat) : List Frame → List Frame
  | [] => []
  | frame :: frames => { frame with commas := frame.commas + count } :: frames

theorem addCommas_zero (frames : List Frame) : addCommas 0 frames = frames := by
  cases frames <;> rfl

theorem addCommas_addCommas (first second : Nat) (frames : List Frame) :
    addCommas second (addCommas first frames) = addCommas (first + second) frames := by
  cases frames with
  | nil => rfl
  | cons frame frames => simp [addCommas, Nat.add_assoc]

theorem advance_comma (state : State) :
    state.advance Lexeme.comma.atOrigin = ⟨addCommas 1 state.frames, state.inChoice⟩ := by
  obtain ⟨frames, inChoice⟩ := state
  cases frames <;> rfl

theorem advance_closing (state : State) (shape : Bracket) :
    state.advance (Lexeme.closing shape).atOrigin =
      ⟨state.frames.tail, state.inChoice && shape != .curly⟩ :=
  rfl

section

variable {state : State} {previous next : Option Token.Kind} {text : Text}

theorem review_name_eq_nil_iff :
    review state previous next (Lexeme.name text).atOrigin = [] ↔
      (state.inChoice = true → ∃ kind ∈ next, mayFollowName kind = true) := by
  simp only [review, Lexeme.atOrigin, Lexeme.name, reviewName, report_eq_nil_iff,
    Bool.and_eq_false_imp, Bool.not_eq_false', Option.any_eq_true, Option.mem_def]

theorem review_opening_eq_nil_iff {shape : Bracket} :
    review state previous next (Lexeme.opening shape).atOrigin = [] ↔
      ∀ kind ∈ next, kind.isClosing = false := by
  simp only [review, Lexeme.atOrigin, Lexeme.opening, reviewOpening, report_eq_nil_iff,
    Option.any_eq_false, Option.mem_def]

theorem reviewClosing_eq_nil_iff {shape : Bracket} {token : Token} :
    reviewClosing state shape token = [] ↔
      ∃ frame frames, state.frames = frame :: frames ∧ frame.shape = shape ∧
        (shape = .angle → frame.commas ≠ 0) := by
  rw [reviewClosing]
  cases frames : state.frames with
  | nil => simp
  | cons frame frames =>
      by_cases same : frame.shape = shape
      · simp [same, report_eq_nil_iff]
      · simp [same]

theorem review_closing_eq_nil_iff {shape : Bracket} :
    review state previous next (Lexeme.closing shape).atOrigin = [] ↔
      ∃ frame frames, state.frames = frame :: frames ∧ frame.shape = shape ∧
        (shape = .angle → frame.commas ≠ 0) :=
  reviewClosing_eq_nil_iff

theorem review_comma_eq_nil_iff :
    review state previous next Lexeme.comma.atOrigin = [] ↔
      (∃ kind ∈ previous, kind ≠ .comma ∧ kind.isOpening = false) ∧
        ∃ kind ∈ next, kind.isClosing = false := by
  have before : commaFindingBefore? previous = none ↔
      ∃ kind ∈ previous, kind ≠ .comma ∧ kind.isOpening = false := by
    rcases previous with _ | kind
    · simp [commaFindingBefore?]
    · cases kind <;> simp [commaFindingBefore?, Token.Kind.isOpening]
  have after : commaFindingAfter? next = none ↔ ∃ kind ∈ next, kind.isClosing = false := by
    rcases next with _ | kind
    · simp [commaFindingAfter?]
    · cases kind <;> simp [commaFindingAfter?, Token.Kind.isClosing]
  simp [review, Lexeme.atOrigin, Lexeme.comma, reviewComma, before, after]

theorem review_colon_eq_nil_iff :
    review state previous next Lexeme.colon.atOrigin = [] ↔
      state.inChoice = true ∧ previous = some .name ∧ next = some .weight := by
  simp only [review, Lexeme.atOrigin, Lexeme.colon, reviewColon]
  cases state.inChoice <;> simp [report_eq_nil_iff]

theorem review_multiplier_eq_nil_iff :
    review state previous next (Lexeme.multiplier text).atOrigin = [] ↔
      (∃ kind ∈ previous, kind = .name ∨ kind.isClosing = true) ∧ ValidMultiplier text := by
  simp only [review, Lexeme.atOrigin, Lexeme.multiplier, reviewMultiplier, List.append_eq_nil_iff,
    report_eq_nil_iff, Bool.not_eq_false', isMultiplier_iff, Option.any_eq_true, Option.mem_def,
    Bool.or_eq_true, beq_iff_eq]

theorem review_weight_eq_nil_iff :
    review state previous next (Lexeme.weight text).atOrigin = [] ↔
      (state.inChoice = true → previous = some .colon) := by
  simp [review, Lexeme.atOrigin, Lexeme.weight, reviewWeight, report_eq_nil_iff]

end

/-- From a state and behind a token, the check finds nothing in these lexemes, and all
brackets are closed at their end. -/
def Clean (state : State) (previous : Option Token.Kind) (items : List Lexeme) : Prop :=
  reviewAll state previous (items.map Lexeme.atOrigin) = [] ∧
    (state.advanceAll (items.map Lexeme.atOrigin)).frames = []

theorem clean_nil (state : State) (previous : Option Token.Kind) :
    Clean state previous [] ↔ state.frames = [] := by
  simp [Clean, reviewAll, State.advanceAll]

/-- One step of the check. -/
theorem clean_cons (state : State) (previous : Option Token.Kind) (item : Lexeme)
    (rest : List Lexeme) :
    Clean state previous (item :: rest) ↔
      review state previous (rest.head?.map (·.kind)) item.atOrigin = [] ∧
        Clean (state.advance item.atOrigin) (some item.kind) rest := by
  have next : (rest.map Lexeme.atOrigin).head?.map (·.kind) = rest.head?.map (·.kind) := by
    cases rest <;> rfl
  rw [Clean, List.map_cons, reviewAll, List.append_eq_nil_iff, next, and_assoc]
  rfl

/-- With no bracket open, nothing can start with a closing bracket. -/
theorem Clean.isClosing_eq_false {previous : Option Token.Kind} {item : Lexeme}
    {rest : List Lexeme} (clean : Clean .initial previous (item :: rest)) :
    item.kind.isClosing = false := by
  obtain ⟨silent, -⟩ := (clean_cons _ _ _ _).mp clean
  cases kind : item.kind with
  | closing shape =>
      simp only [review, Lexeme.atOrigin, kind] at silent
      obtain ⟨frame, frames, found, -⟩ := reviewClosing_eq_nil_iff.mp silent
      cases found
  | _ => rfl

theorem ofTokens_eq_nil_iff_clean (tokens : List Token) :
    Diagnostic.ofTokens tokens = [] ↔ Clean .initial none (tokens.map (·.toLexeme)) := by
  rw [Diagnostic.ofTokens_eq_nil_iff]
  simp [Diagnostic.ofTokens, Checker.check, Checker.fresh, Clean, State.unclosed]

end ModuleGrammar.Check
