/-
# What the check reports

The diagnostics of a list of tokens are those of its tokens, one after the other, and
those of the brackets that are open at its end. Each token is reviewed in the state that
the tokens before it leave behind. What a review can report at all is said here once: its
diagnostics are about the token itself or about the innermost open bracket.
-/
import ModuleGrammar.Check

namespace ModuleGrammar

/-- The findings that the review of a token can have. The others are about characters
that start no lexeme and about brackets that are open at the end. -/
def Finding.ofReview : Finding → Bool
  | .unexpectedCharacter _ | .unclosedBracket _ => false
  | _ => true

/-- Whether the review of a token of a kind can have a finding. -/
def Finding.isAbout : Finding → Token.Kind → Bool
  | .emptyGroup, .opening _ => true
  | .unexpectedClosing _, .closing _ | .mismatchedBrackets _ _, .closing _
  | .singlePriority, .closing _ => true
  | .strayMultiplier, .multiplier | .invalidMultiplier _, .multiplier => true
  | .leadingComma, .comma | .repeatedComma, .comma | .commaAfterOpening, .comma
  | .trailingComma, .comma | .commaBeforeClosing, .comma => true
  | .colonOutsideChoice, .colon | .colonWithoutName, .colon | .colonWithoutWeight, .colon => true
  | .nameWithoutSuccessor, .name => true
  | .weightWithoutColon, .weight => true
  | _, _ => false

theorem Finding.ofReview_of_isAbout {finding : Finding} {kind : Token.Kind}
    (about : finding.isAbout kind = true) : finding.ofReview = true := by
  cases finding with
  | unexpectedCharacter text => cases about
  | unclosedBracket shape => cases about
  | _ => rfl

namespace Check

/-- What a fresh checker remembers in front of the token with an index. -/
def stateBefore (tokens : List Token) (index : Nat) : State :=
  (Checker.fresh.check (tokens.take index)).state

theorem stateBefore_succ {tokens : List Token} {index : Nat} {token : Token}
    (found : tokens[index]? = some token) :
    stateBefore tokens (index + 1) = (stateBefore tokens index).advance token := by
  rw [stateBefore, stateBefore, List.take_add_one, found]
  simp [Checker.check, State.advanceAll]

theorem stateBefore_of_length_le {tokens : List Token} {index : Nat}
    (behind : tokens.length ≤ index) :
    stateBefore tokens index = (Checker.fresh.check tokens).state := by
  rw [stateBefore, List.take_of_length_le behind]

/-- The kind of the token before an index, where `previous` is that of the token before
the first one. -/
def kindBefore (previous : Option Token.Kind) (tokens : List Token) : Nat → Option Token.Kind
  | 0 => previous
  | index + 1 => tokens[index]?.map (·.kind)

/-- The diagnostics of the token with an index. -/
def reviewAt (state : State) (previous : Option Token.Kind) (tokens : List Token) (index : Nat) :
    List Diagnostic :=
  match tokens[index]? with
  | none => []
  | some token =>
    review (state.advanceAll (tokens.take index)) (kindBefore previous tokens index)
      (tokens[index + 1]?.map (·.kind)) token

theorem reviewAt_cons_succ (state : State) (previous : Option Token.Kind) (token : Token)
    (rest : List Token) (index : Nat) :
    reviewAt state previous (token :: rest) (index + 1) =
      reviewAt (state.advance token) (some token.kind) rest index := by
  cases index <;> rfl

theorem reviewAll_eq_flatMap (state : State) (previous : Option Token.Kind) (tokens : List Token) :
    reviewAll state previous tokens =
      (List.range tokens.length).flatMap (reviewAt state previous tokens) := by
  induction tokens generalizing state previous with
  | nil => rfl
  | cons token rest ih =>
      have first : reviewAt state previous (token :: rest) 0 =
          review state previous (rest.head?.map (·.kind)) token := by
        cases rest <;> rfl
      rw [reviewAll, ih, List.length_cons, List.range_succ_eq_map, List.flatMap_cons, first,
        List.flatMap_map]
      simp only [reviewAt_cons_succ]

theorem mem_report_iff {condition : Bool} {finding : Finding} {offset : Int} {length : Nat}
    {diagnostic : Diagnostic} :
    diagnostic ∈ report condition finding offset length ↔
      condition = true ∧ diagnostic = ⟨finding, offset, length⟩ := by
  cases condition <;> simp [report]

theorem isAbout_of_mem_comma {previous next : Option Token.Kind} {finding : Finding}
    (found : finding ∈ (commaFindingBefore? previous).toList ++ (commaFindingAfter? next).toList) :
    finding.isAbout .comma = true := by
  rcases List.mem_append.mp found with before | after
  · unfold commaFindingBefore? at before
    split at before <;> simp at before <;> rw [before] <;> rfl
  · unfold commaFindingAfter? at after
    split at after <;> simp at after <;> rw [after] <;> rfl

/-- What the review of a token can report: something about the token, at its first
character or over its whole text, or something about the innermost open bracket. The finding
is one for tokens of its kind. -/
theorem review_cases {state : State} {previous next : Option Token.Kind} {token : Token}
    {diagnostic : Diagnostic} (found : diagnostic ∈ review state previous next token) :
    ∃ finding, finding.isAbout token.kind = true ∧
      (diagnostic = ⟨finding, token.offset, 1⟩ ∨
        diagnostic = ⟨finding, token.offset, token.text.length⟩ ∨
        ∃ frame outer, state.frames = frame :: outer ∧
          diagnostic = ⟨finding, frame.offset, 1⟩) := by
  cases kind : token.kind with
  | opening shape =>
      rw [review, kind] at found
      obtain ⟨-, rfl⟩ := mem_report_iff.mp found
      exact ⟨_, rfl, .inl rfl⟩
  | closing shape =>
      rw [review, kind] at found
      cases frames : state.frames with
      | nil =>
          simp only [reviewClosing, frames, List.mem_singleton] at found
          exact ⟨_, rfl, .inl found⟩
      | cons frame outer =>
          simp only [reviewClosing, frames] at found
          split at found
          · exact ⟨_, rfl, .inl (List.mem_singleton.mp found)⟩
          · obtain ⟨-, rfl⟩ := mem_report_iff.mp found
            exact ⟨_, rfl, .inr (.inr ⟨frame, outer, rfl, rfl⟩)⟩
  | multiplier =>
      rw [review, kind] at found
      rcases List.mem_append.mp found with found | found <;>
        obtain ⟨-, rfl⟩ := mem_report_iff.mp found <;> exact ⟨_, rfl, .inr (.inl rfl)⟩
  | comma =>
      rw [review, kind] at found
      obtain ⟨finding, member, rfl⟩ := List.mem_map.mp found
      exact ⟨finding, isAbout_of_mem_comma member, .inl rfl⟩
  | colon =>
      simp only [review, kind, reviewColon] at found
      split at found
      · rcases List.mem_append.mp found with found | found <;>
          obtain ⟨-, rfl⟩ := mem_report_iff.mp found <;> exact ⟨_, rfl, .inl rfl⟩
      · exact ⟨_, rfl, .inl (List.mem_singleton.mp found)⟩
  | name =>
      rw [review, kind] at found
      obtain ⟨-, rfl⟩ := mem_report_iff.mp found
      exact ⟨_, rfl, .inr (.inl rfl)⟩
  | weight =>
      rw [review, kind] at found
      obtain ⟨-, rfl⟩ := mem_report_iff.mp found
      exact ⟨_, rfl, .inr (.inl rfl)⟩
  | error =>
      rw [review, kind] at found
      cases found

theorem isAbout_of_mem_review {state : State} {previous next : Option Token.Kind} {token : Token}
    {diagnostic : Diagnostic} (found : diagnostic ∈ review state previous next token) :
    diagnostic.finding.isAbout token.kind = true := by
  obtain ⟨finding, about, rfl | rfl | ⟨frame, outer, -, rfl⟩⟩ := review_cases found <;> exact about

/-- Tokens that are checked from the start. -/
theorem ofTokens_eq (tokens : List Token) :
    Diagnostic.ofTokens tokens =
      reviewAll .initial none tokens ++ (stateBefore tokens tokens.length).unclosed := by
  rw [stateBefore_of_length_le (Nat.le_refl _)]
  rfl

theorem reviewAt_eq {tokens : List Token} {index : Nat} {token : Token}
    (found : tokens[index]? = some token) :
    reviewAt .initial none tokens index =
      review (stateBefore tokens index) (kindBefore none tokens index)
        (tokens[index + 1]?.map (·.kind)) token := by
  rw [reviewAt, found]
  rfl

/-- Every diagnostic of a review comes from the review of one token, between its neighbours and
in the state before it. -/
theorem exists_mem_review_between {tokens : List Token} {diagnostic : Diagnostic}
    (found : diagnostic ∈ reviewAll .initial none tokens) :
    ∃ index token, tokens[index]? = some token ∧
      diagnostic ∈ review (stateBefore tokens index) (kindBefore none tokens index)
        (tokens[index + 1]?.map (·.kind)) token := by
  rw [reviewAll_eq_flatMap] at found
  obtain ⟨index, inside, found⟩ := List.mem_flatMap.mp found
  have present := List.getElem?_eq_getElem (List.mem_range.mp inside)
  rw [reviewAt_eq present] at found
  exact ⟨index, _, present, found⟩

/-- Every diagnostic of a review comes from the review of one token, in the state before
that token. -/
theorem exists_mem_review {tokens : List Token} {diagnostic : Diagnostic}
    (found : diagnostic ∈ reviewAll .initial none tokens) :
    ∃ index token previous next, tokens[index]? = some token ∧
      diagnostic ∈ review (stateBefore tokens index) previous next token := by
  obtain ⟨index, token, present, found⟩ := exists_mem_review_between found
  exact ⟨index, token, _, _, present, found⟩

end Check

end ModuleGrammar
