/-
# Well-nested brackets

Brackets are well nested if they can be put together from pairs of one shape, one pair
behind the other or inside of it. The check never looks for a pair. It keeps a stack, and it
goes on after a bracket that does not fit, so that one mistake changes what later brackets
meet. All the same it has nothing to say about brackets exactly if they are well nested.

Between the two stands `closesAll`, a scan with a stack of shapes that gives up at the first
bracket that does not fit. It follows the check as long as there is nothing to report, and it
follows the construction of a well-nested word from its end to its start.
-/
import ModuleGrammar.Proofs.Nesting

namespace ModuleGrammar

namespace Token

/-- Whether tokens of this kind open or close a group. -/
def Kind.isBracket (kind : Kind) : Bool :=
  kind.isOpening || kind.isClosing

/-- The brackets among some tokens. -/
def brackets (tokens : List Token) : List Kind :=
  (tokens.map (·.kind)).filter Kind.isBracket

end Token

/-- The well-nested words over the brackets of three shapes. -/
inductive WellNested : List Token.Kind → Prop
  | nil : WellNested []
  | enclose (shape : Bracket) {word : List Token.Kind} (inner : WellNested word) :
      WellNested (.opening shape :: (word ++ [.closing shape]))
  | append {first second : List Token.Kind} (left : WellNested first)
      (right : WellNested second) : WellNested (first ++ second)

/-- Whether a word closes some open brackets, the innermost first, together with all brackets
that it opens itself. Other kinds of tokens do not matter. -/
def closesAll : List Bracket → List Token.Kind → Bool
  | shapes, [] => shapes.isEmpty
  | shapes, kind :: word =>
    match kind with
    | .opening shape => closesAll (shape :: shapes) word
    | .closing shape =>
      match shapes with
      | [] => false
      | innermost :: outer => innermost == shape && closesAll outer word
    | _ => closesAll shapes word

theorem closesAll_filter (shapes : List Bracket) (word : List Token.Kind) :
    closesAll shapes (word.filter Token.Kind.isBracket) = closesAll shapes word := by
  induction word generalizing shapes with
  | nil => rfl
  | cons kind word ih =>
      cases kind with
      | opening shape => exact ih (shape :: shapes)
      | closing shape =>
          cases shapes with
          | nil => rfl
          | cons innermost outer => exact congrArg (innermost == shape && ·) (ih outer)
      | _ => exact ih shapes

/-- A well-nested word leaves the open brackets as they are. -/
theorem WellNested.closesAll_append {word : List Token.Kind} (nested : WellNested word)
    (shapes : List Bracket) (rest : List Token.Kind) :
    closesAll shapes (word ++ rest) = closesAll shapes rest := by
  induction nested generalizing shapes rest with
  | nil => rfl
  | enclose shape inner ih =>
      rw [List.cons_append, List.append_assoc, closesAll, ih]
      simp [closesAll]
  | append left right ihLeft ihRight => rw [List.append_assoc, ihLeft, ihRight]

/-- A word that closes some open brackets, the innermost first, with a well-nested word in
front of each closing bracket and behind the last one. -/
def Unwinds : List Bracket → List Token.Kind → Prop
  | [], word => WellNested word
  | shape :: shapes, word =>
    ∃ inner rest, word = inner ++ .closing shape :: rest ∧ WellNested inner ∧ Unwinds shapes rest

namespace Unwinds

theorem behind {shapes : List Bracket} {first rest : List Token.Kind} (nested : WellNested first)
    (unwinds : Unwinds shapes rest) : Unwinds shapes (first ++ rest) := by
  cases shapes with
  | nil => exact nested.append unwinds
  | cons shape shapes =>
      obtain ⟨inner, others, rfl, innerNested, later⟩ := unwinds
      exact ⟨first ++ inner, others, (List.append_assoc _ _ _).symm, nested.append innerNested,
        later⟩

/-- An opening bracket and what closes it make a well-nested word. -/
theorem opening {shape : Bracket} {shapes : List Bracket} {word : List Token.Kind}
    (unwinds : Unwinds (shape :: shapes) word) : Unwinds shapes (.opening shape :: word) := by
  obtain ⟨inner, rest, rfl, nested, later⟩ := unwinds
  have group := behind (nested.enclose shape) later
  rwa [List.cons_append, List.append_assoc] at group

end Unwinds

theorem unwinds_of_closesAll {shapes : List Bracket} {word : List Token.Kind}
    (brackets : ∀ kind ∈ word, kind.isBracket = true) (closes : closesAll shapes word = true) :
    Unwinds shapes word := by
  induction word generalizing shapes with
  | nil =>
      rw [closesAll, List.isEmpty_iff] at closes
      rw [closes]
      exact .nil
  | cons kind word ih =>
      have others : ∀ kind ∈ word, kind.isBracket = true := fun kind member =>
        brackets kind (List.mem_cons_of_mem _ member)
      cases kind with
      | opening shape => exact (ih others closes).opening
      | closing shape =>
          cases shapes with
          | nil => cases closes
          | cons innermost outer =>
              have ⟨same, later⟩ := Bool.and_eq_true_iff.mp closes
              rw [beq_iff_eq.mp same]
              exact ⟨[], word, rfl, .nil, ih others later⟩
      | _ => cases brackets _ List.mem_cons_self

theorem closesAll_iff_wellNested (word : List Token.Kind) :
    closesAll [] word = true ↔ WellNested (word.filter Token.Kind.isBracket) := by
  rw [← closesAll_filter]
  constructor
  · intro closes
    exact unwinds_of_closesAll (fun kind member => (List.mem_filter.mp member).2) closes
  · intro nested
    have closes := nested.closesAll_append [] []
    rwa [List.append_nil] at closes

namespace Finding

/-- Whether the message of a finding says that a closing bracket has no opening one. -/
def saysUnexpected (finding : Finding) : Bool :=
  "Unexpected closing bracket '".toList.isPrefixOf finding.message

/-- Whether the message of a finding says that two brackets do not match. -/
def saysMismatched (finding : Finding) : Bool :=
  "Mismatched brackets: '".toList.isPrefixOf finding.message

theorem saysUnexpected_eq (finding : Finding) :
    finding.saysUnexpected = decide (finding.topic = .unexpectedClosing []) := by
  rw [Bool.eq_iff_iff, decide_eq_true_iff]
  exact words_isPrefixOf_message_iff (.unexpectedClosing []) finding

theorem saysMismatched_eq (finding : Finding) :
    finding.saysMismatched = decide (finding.topic = .mismatchedBrackets [] []) := by
  rw [Bool.eq_iff_iff, decide_eq_true_iff]
  exact words_isPrefixOf_message_iff (.mismatchedBrackets [] []) finding

/-- Only the review of a closing bracket says such things. -/
theorem fits_of_isAbout {finding : Finding} {kind : Token.Kind}
    (about : finding.isAbout kind = true) (other : kind.isClosing = false) :
    finding.saysUnexpected = false ∧ finding.saysMismatched = false := by
  rw [saysUnexpected_eq, saysMismatched_eq]
  cases finding with
  | unexpectedClosing text | mismatchedBrackets opening closing =>
      cases kind <;> simp [isAbout, Token.Kind.isClosing] at about other
  | _ => simp [topic]

end Finding

namespace Check

section Review

variable {state : State} {previous next : Option Token.Kind} {token : Token} {shape : Bracket}

theorem review_closing_of_nil (kind : token.kind = .closing shape) (frames : state.frames = []) :
    review state previous next token = [⟨.unexpectedClosing token.text, token.offset, 1⟩] := by
  simp [review, kind, reviewClosing, frames]

theorem review_closing_of_ne (kind : token.kind = .closing shape) {frame : Frame}
    {outer : List Frame} (frames : state.frames = frame :: outer) (other : frame.shape ≠ shape) :
    review state previous next token =
      [⟨.mismatchedBrackets frame.text token.text, token.offset, 1⟩] := by
  simp [review, kind, reviewClosing, frames, other]

theorem review_closing_of_eq (kind : token.kind = .closing shape) {frame : Frame}
    {outer : List Frame} (frames : state.frames = frame :: outer) (same : frame.shape = shape) :
    review state previous next token =
      report (shape == .angle && frame.commas == 0) .singlePriority frame.offset 1 := by
  simp [review, kind, reviewClosing, frames, same]

/-- A token has its place among the brackets unless it is a closing bracket and the innermost
open bracket has another shape or is missing. -/
theorem review_fits_iff :
    (∀ diagnostic ∈ review state previous next token,
        diagnostic.finding.saysUnexpected = false ∧ diagnostic.finding.saysMismatched = false) ↔
      ∀ shape, token.kind = .closing shape →
        ∃ frame outer, state.frames = frame :: outer ∧ frame.shape = shape := by
  cases kind : token.kind with
  | closing shape =>
      cases frames : state.frames with
      | nil => simp [review_closing_of_nil kind frames, Finding.saysUnexpected_eq, Finding.topic]
      | cons frame outer =>
          by_cases same : frame.shape = shape
          · rw [review_closing_of_eq kind frames same]
            refine iff_of_true (fun diagnostic found => ?_) (fun other closes => ?_)
            · obtain ⟨-, rfl⟩ := mem_report_iff.mp found
              simp [Finding.saysUnexpected_eq, Finding.saysMismatched_eq, Finding.topic]
            · cases closes
              exact ⟨frame, outer, rfl, same⟩
          · simp [review_closing_of_ne kind frames same, same, Finding.saysMismatched_eq,
              Finding.topic]
  | _ =>
      refine iff_of_true (fun diagnostic found => ?_) (fun shape closes => by cases closes)
      exact Finding.fits_of_isAbout (isAbout_of_mem_review found) (by rw [kind]; rfl)

/-- A closing bracket is reported as unexpected if no bracket is open. -/
theorem countP_saysUnexpected_review :
    (review state previous next token).countP (·.finding.saysUnexpected) =
      if token.kind.isClosing = true ∧ state.frames = [] then 1 else 0 := by
  cases kind : token.kind with
  | closing shape =>
      cases frames : state.frames with
      | nil =>
          simp [review_closing_of_nil kind frames, Finding.saysUnexpected_eq, Finding.topic,
            Token.Kind.isClosing]
      | cons frame outer =>
          by_cases same : frame.shape = shape
          · rw [review_closing_of_eq kind frames same, report]
            split <;> simp [Finding.saysUnexpected_eq, Finding.topic]
          · simp [review_closing_of_ne kind frames same, Finding.saysUnexpected_eq, Finding.topic]
  | _ =>
      rw [if_neg (by simp [Token.Kind.isClosing]), List.countP_eq_zero]
      intro diagnostic found
      have fits := Finding.fits_of_isAbout (isAbout_of_mem_review found) (by rw [kind]; rfl)
      simp [fits.1]

/-- What a token adds to the open brackets and takes from them. A closing bracket without an
opening one takes nothing. -/
theorem length_frames_add (state : State) (token : Token) :
    state.frames.length + (if token.kind.isOpening = true then 1 else 0) +
        (if token.kind.isClosing = true ∧ state.frames = [] then 1 else 0) =
      (if token.kind.isClosing = true then 1 else 0) + (state.advance token).frames.length := by
  rw [State.length_frames_advance]
  cases token.kind with
  | closing shape =>
      cases state.frames <;> simp [Token.Kind.isOpening, Token.Kind.isClosing, Layout.advance,
        Nat.add_comm]
  | _ => simp [Token.Kind.isOpening, Token.Kind.isClosing, Layout.advance]

theorem shapes_advance (state : State) (token : Token) :
    (state.advance token).frames.map (·.shape) =
      match token.kind with
      | .opening shape => shape :: state.frames.map (·.shape)
      | .closing _ => (state.frames.map (·.shape)).tail
      | _ => state.frames.map (·.shape) := by
  rw [State.frames_advance]
  cases kind : token.kind with
  | comma => cases state.frames <;> rfl
  | closing shape => exact List.map_tail
  | _ => rfl

end Review

theorem State.advanceAll_cons (state : State) (token : Token) (rest : List Token) :
    state.advanceAll (token :: rest) = (state.advance token).advanceAll rest :=
  rfl

/-- From any state on, every bracket has its place and all brackets are closed at the end
exactly if the scan with the open shapes succeeds. -/
theorem fits_iff_closesAll (state : State) (previous : Option Token.Kind) (tokens : List Token) :
    (∀ diagnostic ∈ reviewAll state previous tokens,
        diagnostic.finding.saysUnexpected = false ∧ diagnostic.finding.saysMismatched = false) ∧
        (state.advanceAll tokens).frames = [] ↔
      closesAll (state.frames.map (·.shape)) (tokens.map (·.kind)) = true := by
  induction tokens generalizing state previous with
  | nil => simp [reviewAll, State.advanceAll, closesAll]
  | cons token rest ih =>
      have later := ih (state.advance token) (some token.kind)
      rw [shapes_advance] at later
      rw [reviewAll, List.forall_mem_append, review_fits_iff, State.advanceAll_cons, and_assoc,
        later, List.map_cons]
      cases kind : token.kind with
      | closing shape => cases state.frames <;> simp [closesAll]
      | _ => simp [closesAll]

/-- What a list of tokens opens and has open before is what it closes and leaves open, if the
closing brackets that have nothing to close are counted as well. -/
theorem count_brackets (state : State) (previous : Option Token.Kind) (tokens : List Token) :
    state.frames.length + tokens.countP (·.kind.isOpening) +
        (reviewAll state previous tokens).countP (·.finding.saysUnexpected) =
      tokens.countP (·.kind.isClosing) + (state.advanceAll tokens).frames.length := by
  induction tokens generalizing state previous with
  | nil => simp [reviewAll, State.advanceAll]
  | cons token rest ih =>
      have later := ih (state.advance token) (some token.kind)
      rw [reviewAll, List.countP_append, countP_saysUnexpected_review, State.advanceAll_cons,
        List.countP_cons, List.countP_cons]
      have step := length_frames_add state token
      omega

theorem State.unclosed_eq_nil_iff {state : State} : state.unclosed = [] ↔ state.frames = [] := by
  simp [unclosed]

theorem saysUnexpected_of_mem_unclosed {state : State} {diagnostic : Diagnostic}
    (found : diagnostic ∈ state.unclosed) : diagnostic.finding.saysUnexpected = false := by
  obtain ⟨frame, -, rfl⟩ := List.mem_map.mp found
  simp [Finding.saysUnexpected_eq, Finding.topic]

theorem stateBefore_length (tokens : List Token) :
    stateBefore tokens tokens.length = State.initial.advanceAll tokens :=
  stateBefore_of_length_le (Nat.le_refl _)

/-- No bracket is reported if every token has its place and no bracket stays open. -/
theorem unreported_iff (tokens : List Token) :
    (∀ diagnostic ∈ Diagnostic.ofTokens tokens,
        diagnostic.finding.saysUnexpected = false ∧ diagnostic.finding.saysMismatched = false ∧
          diagnostic.finding.saysUnclosed = false) ↔
      (∀ diagnostic ∈ reviewAll .initial none tokens,
        diagnostic.finding.saysUnexpected = false ∧ diagnostic.finding.saysMismatched = false) ∧
        (State.initial.advanceAll tokens).frames = [] := by
  rw [ofTokens_eq, stateBefore_length, List.forall_mem_append]
  constructor
  · rintro ⟨reviewed, left⟩
    refine ⟨fun diagnostic found => ?_, ?_⟩
    · have unreported := reviewed diagnostic found
      exact ⟨unreported.1, unreported.2.1⟩
    · by_contra opened
      obtain ⟨diagnostic, found⟩ :=
        List.exists_mem_of_ne_nil _ (mt State.unclosed_eq_nil_iff.mp opened)
      have unreported := (left diagnostic found).2.2
      rw [Diagnostic.saysUnclosed_of_mem_unclosed found] at unreported
      cases unreported
  · rintro ⟨reviewed, closed⟩
    rw [State.unclosed_eq_nil_iff.mpr closed]
    refine ⟨fun diagnostic found => ?_, fun diagnostic found => by cases found⟩
    have placed := reviewed diagnostic found
    exact ⟨placed.1, placed.2, Diagnostic.saysUnclosed_of_mem_reviewAll found⟩

end Check

/-- The check has nothing to say about how brackets are nested exactly if they form a
well-nested word. And in every list of tokens, a closing bracket that is reported as unexpected
makes up for an opening one that is missing, and a bracket that is reported as unclosed for a
closing one. -/
theorem brackets_reported_unless_wellNested (tokens : List Token) :
    ((∀ diagnostic ∈ Diagnostic.ofTokens tokens,
        diagnostic.finding.saysUnexpected = false ∧ diagnostic.finding.saysMismatched = false ∧
          diagnostic.finding.saysUnclosed = false) ↔ WellNested (Token.brackets tokens)) ∧
      tokens.countP (·.kind.isOpening) +
          (Diagnostic.ofTokens tokens).countP (·.finding.saysUnexpected) =
        tokens.countP (·.kind.isClosing) +
          (Diagnostic.ofTokens tokens).countP (·.finding.saysUnclosed) := by
  constructor
  · rw [Check.unreported_iff, Check.fits_iff_closesAll]
    exact closesAll_iff_wellNested (tokens.map (·.kind))
  · have counted := Check.count_brackets .initial none tokens
    have none : (Check.State.initial.advanceAll tokens).unclosed.countP
        (·.finding.saysUnexpected) = 0 := by
      rw [List.countP_eq_zero]
      intro diagnostic found
      simp [Check.saysUnexpected_of_mem_unclosed found]
    have start : Check.State.initial.frames.length = 0 := rfl
    rw [Diagnostic.countP_saysUnclosed, Check.ofTokens_eq, Check.stateBefore_length,
      List.countP_append, none]
    omega

end ModuleGrammar
