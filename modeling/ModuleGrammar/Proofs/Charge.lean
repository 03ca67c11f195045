/-
# How many diagnostics a token is charged with

Every diagnostic is charged to one token: to the character that starts no lexeme, to the token
under review, or to the bracket that is left open. A token is charged at three different times, so
what one review reports does not bound what is charged in the end. An opening bracket may be
reported as empty at once and as unclosed at the end, but not both: a bracket that closes the empty
group closes the opening one, whatever its shape. And of the two things that may be wrong with a
multiplier a source can have only one. So commas and colons are charged twice at most, all other
tokens once.
-/
import ModuleGrammar.Proofs.Classification
import ModuleGrammar.Proofs.Priority

namespace ModuleGrammar

open Token

instance (tokens : List Token) (first last : Nat) : Decidable (StaysOpen tokens first last) :=
  @decidable_of_decidable_of_iff _ _
    (Nat.decidableBallLT last fun index _ => first < index →
      closings (between tokens first (index + 1)) ≤ openings (between tokens first (index + 1)))
    ⟨fun stays index above below => stays index below above,
      fun stays index below above => stays index above below⟩

namespace Check

/-! ## Brackets that are left open -/

/-- The diagnostic of a bracket that is opened at an index and still open in front of another
one. -/
def unclosedAt (tokens : List Token) (last index : Nat) : List Diagnostic :=
  match tokens[index]? with
  | none => []
  | some token =>
    match token.kind with
    | .opening shape =>
      report (StaysOpen tokens index last) (.unclosedBracket shape) token.offset 1
    | _ => []

section Open

variable {tokens : List Token} {first middle last : Nat} {opening inner : Token}
  {shape other : Bracket}

/-- The brackets that are open are those that counting finds open. -/
theorem opened_iff (bound : last ≤ tokens.length) (after : first < last) :
    Opened tokens first opening shape last ↔
      tokens[first]? = some opening ∧ opening.kind = .opening shape ∧
        StaysOpen tokens first last := by
  constructor
  · intro opened
    exact ⟨opened.token_eq, opened.kind_eq, opened.staysOpen bound⟩
  · rintro ⟨found, kind, staysOpen⟩
    refine ⟨after, found, kind, fun index above below => ?_⟩
    obtain ⟨inner, commas, lies⟩ := exists_lies found kind above (by omega)
      (fun earlier above under => staysOpen earlier above (by omega))
    exact ⟨inner, commas, lies.frames⟩

theorem unclosedAt_of_opened (bound : last ≤ tokens.length)
    (opened : Opened tokens first opening shape last) :
    unclosedAt tokens last first = [⟨.unclosedBracket shape, opening.offset, 1⟩] := by
  have staysOpen := opened.staysOpen bound
  simp [unclosedAt, opened.token_eq, opened.kind_eq, report, staysOpen]

theorem unclosedAt_eq_nil (bound : last ≤ tokens.length) (after : first < last)
    (closed : ∀ opening shape, ¬ Opened tokens first opening shape last) :
    unclosedAt tokens last first = [] := by
  rw [unclosedAt]
  split
  · rfl
  case h_2 opening found =>
    split
    case h_1 shape kind =>
      have ends : ¬ StaysOpen tokens first last := fun staysOpen =>
        closed opening shape ((opened_iff bound after).mpr ⟨found, kind, staysOpen⟩)
      simp [report, ends]
    · rfl

/-- A bracket is still open if one that was opened inside of it is. -/
theorem Opened.trans (outer : Opened tokens first opening shape middle)
    (opened : Opened tokens middle inner other last) : Opened tokens first opening shape last where
  first_lt_last := Nat.lt_trans outer.first_lt_last opened.first_lt_last
  token_eq := outer.token_eq
  kind_eq := outer.kind_eq
  stays index above below := by
    rcases Nat.lt_or_ge middle index with later | earlier
    · obtain ⟨frames, commas, whole⟩ := opened.stays index later below
      obtain ⟨frames', commas', whole'⟩ :=
        outer.stays middle outer.first_lt_last (Nat.le_refl _)
      rw [whole'] at whole
      exact ⟨frames ++ ⟨other, inner.text, inner.offset, commas⟩ :: frames', commas',
        by simp [whole]⟩
    · exact outer.stays index above earlier

theorem Opened.earlier (opened : Opened tokens first opening shape last)
    (after : first < middle) (before : middle ≤ last) :
    Opened tokens first opening shape middle where
  first_lt_last := after
  token_eq := opened.token_eq
  kind_eq := opened.kind_eq
  stays index above below := opened.stays index above (Nat.le_trans below before)

theorem Opened.length_frames (opened : Opened tokens first opening shape last) :
    (stateBefore tokens first).frames.length < (stateBefore tokens last).frames.length := by
  obtain ⟨inner, commas, frames⟩ := opened.stays last opened.first_lt_last (Nat.le_refl _)
  rw [frames, List.length_append, List.length_cons]
  omega

end Open

/-- Below the innermost open bracket are those that were open before it, and no bracket that was
opened behind it is open. -/
theorem range_flatMap_unclosedAt {tokens : List Token} {first last : Nat} {opening : Token}
    {shape : Bracket} (bound : last ≤ tokens.length)
    (opened : Opened tokens first opening shape last)
    (innermost : (stateBefore tokens last).frames.length =
      (stateBefore tokens first).frames.length + 1) :
    (List.range last).flatMap (unclosedAt tokens last) =
      (List.range first).flatMap (unclosedAt tokens first) ++
        [⟨.unclosedBracket shape, opening.offset, 1⟩] := by
  have after := opened.first_lt_last
  have below : (List.range first).flatMap (unclosedAt tokens last) =
      (List.range first).flatMap (unclosedAt tokens first) := by
    apply List.flatMap_congr
    intro index member
    have before := List.mem_range.mp member
    by_cases stillOpen : ∃ opening shape, Opened tokens index opening shape last
    · obtain ⟨opening, shape, outer⟩ := stillOpen
      rw [unclosedAt_of_opened bound outer,
        unclosedAt_of_opened (by omega) (outer.earlier before (Nat.le_of_lt after))]
    · rw [unclosedAt_eq_nil bound (by omega), unclosedAt_eq_nil (by omega) before]
      · intro opening shape outer
        exact stillOpen ⟨opening, shape, outer.trans opened⟩
      · intro opening shape outer
        exact stillOpen ⟨opening, shape, outer⟩
  have behind (count : Nat) (room : first + 1 + count < last) :
      unclosedAt tokens last (first + 1 + count) = [] := by
    refine unclosedAt_eq_nil bound room fun opening shape inside => ?_
    have deeper := inside.length_frames
    have deep := (opened.earlier (by omega) (Nat.le_of_lt room)).length_frames
    omega
  obtain ⟨count, rfl⟩ := Nat.exists_eq_add_of_le (Nat.succ_le_of_lt after)
  have rest : ((List.range count).map (first + 1 + ·)).flatMap
      (unclosedAt tokens (first + 1 + count)) = [] := by
    rw [List.flatMap_map, List.flatMap_eq_nil_iff]
    intro index member
    have inside := List.mem_range.mp member
    exact behind index (by omega)
  rw [List.range_add, List.range_succ, List.flatMap_append, List.flatMap_append, rest,
    List.append_nil, List.flatMap_singleton, unclosedAt_of_opened bound opened, below]

/-- The brackets that are open, in the order in which they were opened. -/
theorem unclosed_stateBefore (tokens : List Token) {last : Nat} (bound : last ≤ tokens.length) :
    (stateBefore tokens last).unclosed = (List.range last).flatMap (unclosedAt tokens last) := by
  induction last using Nat.strongRecOn with
  | _ last ih =>
      cases frames : (stateBefore tokens last).frames with
      | nil =>
          rw [State.unclosed_eq_nil_iff.mpr frames, eq_comm, List.flatMap_eq_nil_iff]
          intro index member
          refine unclosedAt_eq_nil bound (List.mem_range.mp member) fun opening shape opened => ?_
          have length := opened.length_frames
          rw [frames] at length
          cases length
      | cons frame outer =>
          have innermost : (stateBefore tokens last).frames = [] ++ frame :: outer := frames
          obtain ⟨first, opening, shape, commas, opened, rfl, rfl⟩ := exists_opened innermost
          have after := opened.first_lt_last
          rw [range_flatMap_unclosedAt bound opened (by rw [frames, List.length_cons]),
            ← ih first after (by omega)]
          simp [State.unclosed, frames]

/-! ## One token -/

/-- The diagnostic of the character at an index, if it starts no lexeme. -/
def lexicalAt (tokens : List Token) (index : Nat) : List Diagnostic :=
  (tokens[index]?.bind Diagnostic.ofToken?).toList

theorem lexical_eq_flatMap (tokens : List Token) :
    Diagnostic.lexical tokens = (List.range tokens.length).flatMap (lexicalAt tokens) := by
  induction tokens with
  | nil => rfl
  | cons token rest ih =>
      have first : lexicalAt (token :: rest) 0 = (Diagnostic.ofToken? token).toList := rfl
      rw [List.length_cons, List.range_succ_eq_map, List.flatMap_cons, List.flatMap_map, first,
        Diagnostic.lexical, List.filterMap_cons, ← Diagnostic.lexical, ih]
      cases Diagnostic.ofToken? token <;> rfl

/-- All that a token is charged with: for its character, by its review, and for being left open. -/
def charges (tokens : List Token) (index : Nat) : List Diagnostic :=
  lexicalAt tokens index ++ reviewAt .initial none tokens index ++
    unclosedAt tokens tokens.length index

theorem report_false (finding : Finding) (offset : Int) (length : Nat) :
    report false finding offset length = [] :=
  rfl

theorem length_report_le (condition : Bool) (finding : Finding) (offset : Int) (length : Nat) :
    (report condition finding offset length).length ≤ 1 := by
  cases condition <;> simp [report]

/-- What one review reports: two things at most, and except for multipliers only commas and colons
have two. -/
theorem length_review_le (state : State) (previous next : Option Token.Kind) {token : Token}
    (other : token.kind ≠ .multiplier) :
    (review state previous next token).length ≤
      1 + (if token.kind = .comma then 1 else 0) + if token.kind = .colon then 1 else 0 := by
  cases kind : token.kind with
  | multiplier => exact absurd kind other
  | error => simp only [review, kind, List.length_nil, Nat.zero_le]
  | closing shape =>
      cases frames : state.frames with
      | nil => simp [review_closing_of_nil kind frames]
      | cons frame outer =>
          by_cases same : frame.shape = shape
          · rw [review_closing_of_eq kind frames same]
            exact length_report_le _ _ _ _
          · simp [review_closing_of_ne kind frames same]
  | comma =>
      have single (finding : Option Finding) : finding.toList.length ≤ 1 := by
        cases finding <;> simp
      have before := single (commaFindingBefore? previous)
      have after := single (commaFindingAfter? next)
      simp only [review, kind, reviewComma, List.length_map, List.length_append, reduceCtorEq,
        if_true, if_false]
      omega
  | colon =>
      simp only [review, kind, reviewColon, reduceCtorEq, if_true, if_false]
      split
      · have before := length_report_le (previous != some .name) .colonWithoutName token.offset 1
        have after := length_report_le (next != some .weight) .colonWithoutWeight token.offset 1
        rw [List.length_append]
        omega
      · rw [List.length_singleton]
        omega
  | _ =>
      simp only [review, kind]
      exact length_report_le _ _ _ _

section Charges

variable {tokens : List Token} {index : Nat} {token : Token}

/-- Most tokens are charged by their review only. -/
theorem charges_eq_review (found : tokens[index]? = some token) (lexeme : token.kind ≠ .error)
    (inside : token.kind.isOpening = false) :
    charges tokens index =
      review (stateBefore tokens index) (kindBefore none tokens index)
        (tokens[index + 1]?.map (·.kind)) token := by
  have lexical : lexicalAt tokens index = [] := by
    simp [lexicalAt, found, Diagnostic.ofToken?, lexeme]
  have unclosed : unclosedAt tokens tokens.length index = [] := by
    simp only [unclosedAt, found]
    split
    case h_1 shape kind =>
      rw [kind] at inside
      cases inside
    · rfl
  rw [charges, lexical, unclosed, reviewAt_eq found, List.nil_append, List.append_nil]

/-- A character that starts no lexeme is charged for that alone. -/
theorem charges_of_error (found : tokens[index]? = some token) (error : token.kind = .error) :
    charges tokens index = [⟨.unexpectedCharacter token.text, token.offset, 1⟩] := by
  simp [charges, lexicalAt, Diagnostic.ofToken?, reviewAt, review, unclosedAt, found, error]

/-- An opening bracket in front of a closing one is not left open. -/
theorem not_staysOpen_of_isClosing {kind : Token.Kind}
    (next : tokens[index + 1]?.map (·.kind) = some kind) (closes : kind.isClosing = true) :
    ¬ StaysOpen tokens index tokens.length := by
  intro staysOpen
  obtain ⟨closing, found, rfl⟩ := Option.map_eq_some_iff.mp next
  have bound := (List.getElem?_eq_some_iff.mp found).1
  have counted := staysOpen (index + 1) (Nat.lt_succ_self index) bound
  rw [openings_between_succ (Nat.lt_succ_self index) found,
    closings_between_succ (Nat.lt_succ_self index) found, between_succ_self, if_pos closes,
    if_neg (by simp [Kind.isOpening_of_isClosing closes])] at counted
  cases counted

theorem length_charges_of_opening (found : tokens[index]? = some token) {shape : Bracket}
    (opening : token.kind = .opening shape) : (charges tokens index).length ≤ 1 := by
  have lexical : lexicalAt tokens index = [] := by
    simp [lexicalAt, found, Diagnostic.ofToken?, opening]
  have reviewed : reviewAt .initial none tokens index =
      report ((tokens[index + 1]?.map (·.kind)).any Token.Kind.isClosing) .emptyGroup
        token.offset 1 := by
    simp only [reviewAt, found, review, opening, reviewOpening]
  have unclosed : unclosedAt tokens tokens.length index =
      report (StaysOpen tokens index tokens.length) (.unclosedBracket shape) token.offset 1 := by
    simp only [unclosedAt, found, opening]
  rw [charges, lexical, reviewed, unclosed, List.nil_append]
  by_cases empty : (tokens[index + 1]?.map (·.kind)).any Token.Kind.isClosing = true
  · obtain ⟨kind, next, closes⟩ := (Option.any_eq_true _ _).mp empty
    simp [report, empty, not_staysOpen_of_isClosing next closes]
  · rw [report, if_neg empty, List.nil_append]
    exact length_report_le _ _ _ _

/-- One of the two things that may be wrong with a multiplier excludes the other in a source. -/
theorem length_charges_of_multiplier {source : Text}
    (found : (scan source)[index]? = some token) (multiplier : token.kind = .multiplier) :
    (charges (scan source) index).length ≤ 1 := by
  have fits := (fitAll_scan source).fits found
  rw [Fits, multiplier] at fits
  rw [charges_eq_review found (by simp [multiplier]) (by rw [multiplier]; rfl), review, multiplier,
    kindBefore_none]
  dsimp only
  rw [reviewMultiplier]
  by_cases valid : isMultiplier token.text = true
  · rw [valid, Bool.not_true, report_false, List.append_nil]
    exact length_report_le _ _ _ _
  · have placed : ((before none (scan source) index).map (·.kind)).any
        (fun kind => kind == .name || kind.isClosing) = true := by
      by_contra stray
      apply valid
      apply isMultiplier_of_stray fits
      simpa [Option.any_eq_false] using stray
    rw [placed, Bool.not_true, report_false, List.nil_append]
    exact length_report_le _ _ _ _

/-- What one token is charged with: commas and colons twice at most, all others once. -/
theorem length_charges_le {source : Text} (found : (scan source)[index]? = some token) :
    (charges (scan source) index).length ≤
      1 + (if token.kind = .comma then 1 else 0) + if token.kind = .colon then 1 else 0 := by
  cases kind : token.kind with
  | error => simp [charges_of_error found kind]
  | opening shape => simpa using length_charges_of_opening found kind
  | multiplier => simpa using length_charges_of_multiplier found kind
  | _ =>
      have other : token.kind ≠ .multiplier := by simp [kind]
      have bound := length_review_le (stateBefore (scan source) index)
        (kindBefore none (scan source) index) ((scan source)[index + 1]?.map (·.kind)) other
      rw [charges_eq_review found (by simp [kind]) (by rw [kind]; rfl)]
      rwa [kind] at bound

/-- Only opening brackets are charged with being left open. -/
theorem exists_opening_of_unclosed {diagnostic : Diagnostic} {shape : Bracket}
    (member : diagnostic ∈ charges tokens index)
    (unclosed : diagnostic.finding = .unclosedBracket shape) :
    ∃ token, tokens[index]? = some token ∧ ∃ shape, token.kind = .opening shape := by
  cases found : tokens[index]? with
  | none => simp [charges, lexicalAt, reviewAt, unclosedAt, found] at member
  | some token =>
      refine ⟨token, rfl, ?_⟩
      by_cases error : token.kind = .error
      · rw [charges_of_error found error, List.mem_singleton] at member
        rw [member] at unclosed
        cases unclosed
      · cases opens : token.kind.isOpening with
        | true =>
            cases kind : token.kind with
            | opening shape => exact ⟨shape, rfl⟩
            | _ => rw [kind] at opens; cases opens
        | false =>
            rw [charges_eq_review found error opens] at member
            have about := isAbout_of_mem_review member
            rw [unclosed] at about
            cases about

/-- A bracket that is left open is charged with nothing else. -/
theorem finding_ne_emptyGroup {empty unclosed : Diagnostic} {shape : Bracket}
    (member : empty ∈ charges tokens index) (member' : unclosed ∈ charges tokens index)
    (isUnclosed : unclosed.finding = .unclosedBracket shape) : empty.finding ≠ .emptyGroup := by
  intro isEmpty
  obtain ⟨token, found, shape', opening⟩ := exists_opening_of_unclosed member' isUnclosed
  have single := length_charges_of_opening found opening
  obtain ⟨only, charged⟩ := List.length_eq_one_iff.mp
    (Nat.le_antisymm single (List.length_pos_of_mem member))
  rw [charged, List.mem_singleton] at member member'
  rw [member, ← member', isUnclosed] at isEmpty
  cases isEmpty

end Charges

/-! ## All tokens -/

/-- The three reasons to charge a token, each over all tokens. -/
theorem diagnose_eq_flatMap (source : Text) :
    diagnose source =
      (List.range (scan source).length).flatMap (lexicalAt (scan source)) ++
        (List.range (scan source).length).flatMap (reviewAt .initial none (scan source)) ++
        (List.range (scan source).length).flatMap
          (unclosedAt (scan source) (scan source).length) := by
  rw [diagnose, lexical_eq_flatMap, ofTokens_eq, reviewAll_eq_flatMap,
    unclosed_stateBefore (scan source) (Nat.le_refl _), List.append_assoc]

/-- What the tokens in front of an index are charged with. -/
theorem length_flatMap_charges_le (source : Text) {last : Nat}
    (bound : last ≤ (scan source).length) :
    ((List.range last).flatMap (charges (scan source))).length ≤
      last + ((scan source).take last).countP (·.kind = .comma) +
        ((scan source).take last).countP (·.kind = .colon) := by
  induction last with
  | zero => exact Nat.zero_le _
  | succ last ih =>
      have found := List.getElem?_eq_getElem bound
      have earlier := ih (Nat.le_of_succ_le bound)
      have charged := length_charges_le found
      rw [List.range_succ, List.flatMap_append, List.flatMap_singleton, List.length_append,
        List.take_add_one, found, Option.toList_some, List.countP_append, List.countP_append,
        List.countP_singleton, List.countP_singleton]
      simp only [decide_eq_true_iff]
      omega

/-- Charging a token for one reason after the other, or all tokens for one reason after the
other, comes to the same number. -/
theorem length_diagnose (source : Text) :
    (diagnose source).length =
      ((List.range (scan source).length).flatMap (charges (scan source))).length := by
  rw [diagnose_eq_flatMap]
  generalize List.range (scan source).length = indices
  induction indices with
  | nil => rfl
  | cons index indices ih =>
      simp only [List.flatMap_cons, List.length_append, charges] at ih ⊢
      omega

end Check

/-- Every diagnostic of a source is charged to one of its tokens: those of characters first, then
those of the reviews, then those of the brackets that are left open. A token that is neither a
comma nor a colon is charged once at most, and a comma or a colon twice. In particular no bracket
is reported both as empty and as unclosed. So there are no more diagnostics than tokens, where
commas and colons count twice. -/
theorem diagnostics_charged_to_tokens (style : Style) (source : Text) :
    (format style source).diagnostics =
        (List.range (scan source).length).flatMap (Check.lexicalAt (scan source)) ++
          (List.range (scan source).length).flatMap
            (Check.reviewAt .initial none (scan source)) ++
          (List.range (scan source).length).flatMap
            (Check.unclosedAt (scan source) (scan source).length) ∧
      (∀ index token, (scan source)[index]? = some token →
        (Check.charges (scan source) index).length ≤
          if token.kind = .comma ∨ token.kind = .colon then 2 else 1) ∧
      (∀ index, ¬ ((∃ empty ∈ Check.charges (scan source) index, empty.finding = .emptyGroup) ∧
        ∃ unclosed ∈ Check.charges (scan source) index, ∃ shape,
          unclosed.finding = .unclosedBracket shape)) ∧
      (format style source).diagnostics.length ≤
        (scan source).length + (scan source).countP (·.kind = .comma) +
          (scan source).countP (·.kind = .colon) := by
  refine ⟨Check.diagnose_eq_flatMap source, ?_, ?_, ?_⟩
  · intro index token found
    have charged := Check.length_charges_le found
    cases kind : token.kind <;> simp [kind] at charged ⊢ <;> omega
  · rintro index ⟨⟨empty, member, isEmpty⟩, unclosed, member', shape, isUnclosed⟩
    exact Check.finding_ne_emptyGroup member member' isUnclosed isEmpty
  · have bound := Check.length_flatMap_charges_le source (Nat.le_refl _)
    rw [List.take_length, ← Check.length_diagnose] at bound
    exact bound

end ModuleGrammar
