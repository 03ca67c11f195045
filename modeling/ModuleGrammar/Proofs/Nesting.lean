/-
# Nesting

The layout counts how deep it is nested, and the check keeps a stack of the open
brackets. Both go on after a closing bracket that has no opening one or one of another
shape, so they have to agree on every list of tokens. They do, because each token
changes the stack in one of four ways. This also ties every frame of the stack to the
token that has put it there: the frames below it are those from before that token, as
long as the bracket is open.
-/
import ModuleGrammar.Layout
import ModuleGrammar.Proofs.Message
import ModuleGrammar.Proofs.Report
import ModuleGrammar.Proofs.Review

namespace ModuleGrammar

namespace Layout

/-- What the token with an index is written as, in a list of tokens that starts at a
nesting level. -/
def pieceAt (style : Style) (level : Nat) (tokens : List Token) (index : Nat) : Text :=
  match tokens[index]? with
  | none => []
  | some token =>
    piece style (advanceAll level (tokens.take index)) (tokens[index + 1]?.map (·.kind)) token

theorem renderFrom_eq_flatMap (style : Style) (level : Nat) (tokens : List Token) :
    renderFrom style level tokens =
      (List.range tokens.length).flatMap (pieceAt style level tokens) := by
  induction tokens generalizing level with
  | nil => rfl
  | cons token rest ih =>
      have first : pieceAt style level (token :: rest) 0 =
          piece style level (rest.head?.map (·.kind)) token := by
        cases rest <;> rfl
      rw [renderFrom, ih, List.length_cons, List.range_succ_eq_map, List.flatMap_cons, first,
        List.flatMap_map]
      rfl

end Layout

namespace Check

namespace State

/-- What a token does to the open brackets: it puts one more on top, takes the top one
away, counts a comma for the top one, or leaves them alone. -/
theorem frames_advance (state : State) (token : Token) :
    (state.advance token).frames =
      match token.kind with
      | .opening shape => ⟨shape, token.text, token.offset, 0⟩ :: state.frames
      | .closing _ => state.frames.tail
      | .comma => addCommas 1 state.frames
      | _ => state.frames := by
  obtain ⟨⟨kind, text⟩, offset⟩ := token
  cases kind with
  | comma => cases frames : state.frames <;> simp [advance, addCommas, frames]
  | _ => rfl

/-- Where a frame comes from: the token has opened its bracket, or the frame was there
before the token, with some number of commas and on the same frames. -/
theorem frame_cases {state : State} {token : Token} {inner outer : List Frame} {frame : Frame}
    (frames : (state.advance token).frames = inner ++ frame :: outer) :
    (∃ shape, token.kind = .opening shape ∧ inner = [] ∧
        frame = ⟨shape, token.text, token.offset, 0⟩ ∧ outer = state.frames) ∨
      ∃ earlierInner count,
        state.frames = earlierInner ++ { frame with commas := count } :: outer := by
  rw [frames_advance] at frames
  cases kind : token.kind with
  | opening shape =>
      simp only [kind] at frames
      rcases List.cons_eq_append_iff.mp frames with ⟨rfl, top⟩ | ⟨others, rfl, earlier⟩
      · obtain ⟨rfl, rfl⟩ := List.cons.inj top
        exact .inl ⟨shape, rfl, rfl, rfl, rfl⟩
      · exact .inr ⟨others, frame.commas, earlier⟩
  | closing shape =>
      simp only [kind] at frames
      cases top : state.frames with
      | nil => simp [top] at frames
      | cons closed others =>
          rw [top, List.tail_cons] at frames
          exact .inr ⟨closed :: inner, frame.commas, by rw [frames]; rfl⟩
  | comma =>
      simp only [kind] at frames
      cases top : state.frames with
      | nil => simp [top, addCommas] at frames
      | cons innermost others =>
          rw [top, addCommas] at frames
          rcases List.cons_eq_append_iff.mp frames with ⟨rfl, same⟩ | ⟨between, rfl, earlier⟩
          · obtain ⟨rfl, rfl⟩ := List.cons.inj same
            exact .inr ⟨[], innermost.commas, rfl⟩
          · exact .inr ⟨innermost :: between, frame.commas, by rw [earlier]; rfl⟩
  | _ =>
      simp only [kind] at frames
      exact .inr ⟨inner, frame.commas, frames⟩

/-- A token changes the nesting level as it changes the number of open brackets. -/
theorem length_frames_advance (state : State) (token : Token) :
    (state.advance token).frames.length =
      Layout.advance state.frames.length token.kind := by
  rw [frames_advance]
  cases kind : token.kind with
  | comma => cases frames : state.frames <;> rfl
  | closing shape => simp [Layout.advance]
  | _ => rfl

theorem length_frames_advanceAll (state : State) (tokens : List Token) :
    (state.advanceAll tokens).frames.length =
      Layout.advanceAll state.frames.length tokens := by
  induction tokens generalizing state with
  | nil => rfl
  | cons token rest ih =>
      have later := ih (state.advance token)
      rwa [length_frames_advance] at later

end State

/-- The token `opening` at `first` opens a bracket that is open in front of the token at
`last` and has been open all the time. Its frame lies on those of the brackets that were
open before it. -/
structure Opened (tokens : List Token) (first : Nat) (opening : Token) (shape : Bracket)
    (last : Nat) : Prop where
  first_lt_last : first < last
  token_eq : tokens[first]? = some opening
  kind_eq : opening.kind = .opening shape
  stays : ∀ index, first < index → index ≤ last → ∃ inner commas,
    (stateBefore tokens index).frames =
      inner ++ ⟨shape, opening.text, opening.offset, commas⟩ :: (stateBefore tokens first).frames

/-- A bracket that is open in front of the next token as well. -/
theorem Opened.succ {tokens : List Token} {first last : Nat} {opening : Token} {shape : Bracket}
    (opened : Opened tokens first opening shape last) {inner : List Frame} {commas : Nat}
    (frames : (stateBefore tokens (last + 1)).frames =
      inner ++ ⟨shape, opening.text, opening.offset, commas⟩ ::
        (stateBefore tokens first).frames) :
    Opened tokens first opening shape (last + 1) where
  first_lt_last := Nat.lt_succ_of_lt opened.first_lt_last
  token_eq := opened.token_eq
  kind_eq := opened.kind_eq
  stays index above below := by
    rcases Nat.le_succ_iff.mp below with below | rfl
    · exact opened.stays index above below
    · exact ⟨inner, commas, frames⟩

/-- Every frame has been put on the stack by an opening bracket that has been open ever
since. -/
theorem exists_opened {tokens : List Token} {last : Nat} {inner outer : List Frame} {frame : Frame}
    (frames : (stateBefore tokens last).frames = inner ++ frame :: outer) :
    ∃ first opening shape commas, Opened tokens first opening shape last ∧
      frame = ⟨shape, opening.text, opening.offset, commas⟩ ∧
      outer = (stateBefore tokens first).frames := by
  induction last generalizing inner frame with
  | zero =>
      have empty : (stateBefore tokens 0).frames = [] := rfl
      simp [empty] at frames
  | succ last ih =>
      cases found : tokens[last]? with
      | none =>
          have behind := List.getElem?_eq_none_iff.mp found
          have same : stateBefore tokens (last + 1) = stateBefore tokens last := by
            rw [stateBefore_of_length_le behind,
              stateBefore_of_length_le (Nat.le_succ_of_le behind)]
          obtain ⟨first, opening, shape, commas, opened, rfl, rfl⟩ := ih (same ▸ frames)
          exact ⟨first, opening, shape, commas, opened.succ frames, rfl, rfl⟩
      | some token =>
          have step := stateBefore_succ found
          rcases State.frame_cases (step ▸ frames) with
            ⟨shape, kind, rfl, rfl, rfl⟩ | ⟨earlierInner, count, earlier⟩
          · refine ⟨last, token, shape, 0, ⟨Nat.lt_succ_self last, found, kind, ?_⟩, rfl, rfl⟩
            intro index above below
            obtain rfl : index = last + 1 := by omega
            exact ⟨[], 0, frames⟩
          · obtain ⟨first, opening, shape, commas, opened, same, rfl⟩ := ih earlier
            have whole : frame = ⟨shape, opening.text, opening.offset, frame.commas⟩ := by
              cases frame
              cases same
              rfl
            exact ⟨first, opening, shape, frame.commas, opened.succ (whole ▸ frames), whole, rfl⟩

end Check

namespace Finding

/-- Whether the message of a finding says that a bracket is not closed. -/
def saysUnclosed (finding : Finding) : Bool :=
  "Unclosed ".toList.isPrefixOf finding.message

theorem saysUnclosed_iff (finding : Finding) :
    finding.saysUnclosed = true ↔ finding.topic = .unclosedBracket .square :=
  words_isPrefixOf_message_iff (.unclosedBracket .square) finding

theorem saysUnclosed_unclosedBracket (shape : Bracket) :
    (unclosedBracket shape).saysUnclosed = true :=
  (saysUnclosed_iff _).mpr rfl

theorem saysUnclosed_of_ofReview {finding : Finding} (review : finding.ofReview = true) :
    finding.saysUnclosed = false := by
  rw [← Bool.not_eq_true, saysUnclosed_iff]
  cases finding <;> simp [topic, ofReview] at review ⊢

end Finding

namespace Diagnostic

theorem saysUnclosed_of_mem_reviewAll {tokens : List Token} {diagnostic : Diagnostic}
    (found : diagnostic ∈ Check.reviewAll .initial none tokens) :
    diagnostic.finding.saysUnclosed = false := by
  obtain ⟨index, token, previous, next, -, found⟩ := Check.exists_mem_review found
  have about := Check.isAbout_of_mem_review found
  exact Finding.saysUnclosed_of_ofReview (Finding.ofReview_of_isAbout about)

theorem saysUnclosed_of_mem_unclosed {state : Check.State} {diagnostic : Diagnostic}
    (found : diagnostic ∈ state.unclosed) : diagnostic.finding.saysUnclosed = true := by
  obtain ⟨frame, -, rfl⟩ := List.mem_map.mp found
  exact Finding.saysUnclosed_unclosedBracket frame.shape

/-- There is one such diagnostic for each bracket that is open at the end. -/
theorem countP_saysUnclosed (tokens : List Token) :
    (ofTokens tokens).countP (·.finding.saysUnclosed) =
      (Check.stateBefore tokens tokens.length).frames.length := by
  have none : (Check.reviewAll .initial none tokens).countP (·.finding.saysUnclosed) = 0 := by
    rw [List.countP_eq_zero]
    intro diagnostic found
    simp [saysUnclosed_of_mem_reviewAll found]
  have all (state : Check.State) :
      state.unclosed.countP (·.finding.saysUnclosed) = state.frames.length := by
    rw [List.countP_eq_length.mpr fun diagnostic found => saysUnclosed_of_mem_unclosed found]
    simp [Check.State.unclosed]
  rw [Check.ofTokens_eq, List.countP_append, none, all, Nat.zero_add]

end Diagnostic

/-- In front of every token the nesting level of the layout is the number of brackets that
are open for the check. So a closing bracket that closes anything, whatever its shape, is
indented like the opening bracket that it closes, and the level at the end is the number of
brackets that are reported as unclosed. -/
theorem nesting_agrees (style : Style) (tokens : List Token) :
    (∀ index, (Typesetter.fresh.write style (tokens.take index)).level =
        (Check.stateBefore tokens index).frames.length) ∧
      Layout.render style tokens =
        (List.range tokens.length).flatMap (Layout.pieceAt style 0 tokens) ∧
      (∀ (last : Nat) (closing : Token) (shape : Bracket) (frame : Check.Frame)
          (outer : List Check.Frame),
        tokens[last]? = some closing → closing.kind = .closing shape →
        (Check.stateBefore tokens last).frames = frame :: outer →
        ∃ first opening, Check.Opened tokens first opening frame.shape last ∧
          opening.text = frame.text ∧ opening.offset = frame.offset ∧
          (Check.stateBefore tokens first).frames = outer ∧
          Layout.pieceAt style 0 tokens first =
            style.indent outer.length ++ opening.text ++
              Layout.newlineIf (Layout.breaksAfter style frame.shape) ∧
          Layout.pieceAt style 0 tokens last =
            style.indent outer.length ++ closing.text ++
              Layout.newlineIf (!(tokens[last + 1]?.map (·.kind)).any Layout.isAttached)) ∧
      (Typesetter.fresh.write style tokens).level =
        (Diagnostic.ofTokens tokens).countP (·.finding.saysUnclosed) := by
  have level (index : Nat) : Layout.advanceAll 0 (tokens.take index) =
      (Check.stateBefore tokens index).frames.length :=
    (Check.State.length_frames_advanceAll .initial (tokens.take index)).symm
  refine ⟨level, Layout.renderFrom_eq_flatMap style 0 tokens, ?_, ?_⟩
  · intro last closing shape frame outer found kind frames
    have innermost : (Check.stateBefore tokens last).frames = [] ++ frame :: outer := frames
    obtain ⟨first, opening, bracket, commas, opened, rfl, rfl⟩ :=
      Check.exists_opened innermost
    refine ⟨first, opening, opened, rfl, rfl, rfl, ?_, ?_⟩
    · simp only [Layout.pieceAt, opened.token_eq, Layout.piece, opened.kind_eq, level]
    · simp only [Layout.pieceAt, found, Layout.piece, kind, level, frames, List.length_cons,
        Nat.add_sub_cancel]
  · rw [Diagnostic.countP_saysUnclosed, ← level, List.take_length]
    rfl

end ModuleGrammar
