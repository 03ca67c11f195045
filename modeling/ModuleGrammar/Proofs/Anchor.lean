/-
# Where diagnostics stand

A diagnostic starts where a token starts and covers nothing behind that token. Offsets
come from the token that is reviewed or from the frame of an open bracket, and a frame
carries the offset of the token that has opened it. Since tokens hold no blanks, the text
that a diagnostic covers lies in one line of the source: `StandsAt` divides the source
around it, and positions are read off from there.
-/
import ModuleGrammar.Grammar
import ModuleGrammar.Proofs.Coverage
import ModuleGrammar.Proofs.Lexeme
import ModuleGrammar.Proofs.Line
import ModuleGrammar.Proofs.Nesting

namespace ModuleGrammar

namespace Check

/-- The frame of an open bracket has its text and its offset from a token. -/
theorem exists_token_of_frame {tokens : List Token} {index : Nat} {frame : Frame}
    (member : frame ∈ (stateBefore tokens index).frames) :
    ∃ token ∈ tokens, token.text = frame.text ∧ token.offset = frame.offset := by
  obtain ⟨inner, outer, frames⟩ := List.append_of_mem member
  obtain ⟨first, opening, shape, commas, opened, rfl, -⟩ := exists_opened frames
  exact ⟨opening, List.mem_of_getElem? opened.token_eq, rfl, rfl⟩

end Check

/-- The source around a token. -/
theorem Token.exists_append_of_mem_scan {source : Text} {token : Token}
    (member : token ∈ scan source) :
    ∃ front back, source = front ++ token.text ++ back ∧ token.offset = front.length := by
  have covers := covers_scan source
  have start := covers.offset_le token member
  have stop := covers.stop_le token member
  have slice := covers.slice_eq [] rfl token member
  rw [List.nil_append, Editor.slice] at slice
  have ordered : token.offset.toNat ≤ token.stop.toNat := by
    rw [Token.stop]
    omega
  refine ⟨source.take token.offset.toNat, source.drop token.stop.toNat, ?_, ?_⟩
  · have front : source.take token.offset.toNat =
        (source.take token.stop.toNat).take token.offset.toNat := by
      rw [List.take_take, Nat.min_eq_left ordered]
    rw [front, ← slice, List.take_append_drop, List.take_append_drop]
  · rw [Token.stop] at stop
    rw [List.length_take]
    omega

namespace Diagnostic

/-- A diagnostic starts where a token starts and covers nothing behind it. -/
structure PointsAt (diagnostic : Diagnostic) (token : Token) : Prop where
  offset_eq : diagnostic.offset = token.offset
  length_pos : 1 ≤ diagnostic.length
  length_le : diagnostic.length ≤ token.text.length

/-- The first character of a token, or the whole of it. -/
theorem pointsAt_of_nonempty {token : Token} (nonempty : token.text ≠ []) {length : Nat}
    (covers : length = 1 ∨ length = token.text.length) (finding : Finding) :
    PointsAt ⟨finding, token.offset, length⟩ token := by
  have positive := List.length_pos_iff.mpr nonempty
  refine ⟨rfl, ?_, ?_⟩ <;> dsimp only <;> omega

theorem exists_pointsAt_of_mem_ofTokens {tokens : List Token}
    (nonempty : ∀ token ∈ tokens, token.text ≠ []) {diagnostic : Diagnostic}
    (found : diagnostic ∈ ofTokens tokens) : ∃ token ∈ tokens, diagnostic.PointsAt token := by
  have atFrame {index : Nat} {frame : Check.Frame}
      (member : frame ∈ (Check.stateBefore tokens index).frames) (finding : Finding) :
      ∃ token ∈ tokens, PointsAt ⟨finding, frame.offset, 1⟩ token := by
    obtain ⟨token, inside, -, offset⟩ := Check.exists_token_of_frame member
    rw [← offset]
    exact ⟨token, inside, pointsAt_of_nonempty (nonempty token inside) (.inl rfl) finding⟩
  rw [Check.ofTokens_eq, List.mem_append] at found
  rcases found with reviewed | unclosed
  · obtain ⟨index, token, previous, next, present, reviewed⟩ := Check.exists_mem_review reviewed
    have inside := List.mem_of_getElem? present
    obtain ⟨finding, -, rfl | rfl | ⟨frame, outer, frames, rfl⟩⟩ := Check.review_cases reviewed
    · exact ⟨token, inside, pointsAt_of_nonempty (nonempty token inside) (.inl rfl) finding⟩
    · exact ⟨token, inside, pointsAt_of_nonempty (nonempty token inside) (.inr rfl) finding⟩
    · exact atFrame (by rw [frames]; exact List.mem_cons_self) finding
  · obtain ⟨frame, member, rfl⟩ := List.mem_map.mp unclosed
    exact atFrame (List.mem_reverse.mp member) _

/-- The diagnostic of a character that starts no lexeme. -/
def ofError (token : Token) : Diagnostic :=
  ⟨.unexpectedCharacter token.text, token.offset, 1⟩

theorem lexical_eq_map (tokens : List Token) :
    lexical tokens = (tokens.filter (·.kind = .error)).map ofError := by
  induction tokens with
  | nil => rfl
  | cons token rest ih =>
      rw [lexical] at ih ⊢
      by_cases error : token.kind = .error
      · simp [ofToken?, error, ih, ofError]
      · simp [ofToken?, error, ih]

theorem exists_pointsAt {source : Text} {diagnostic : Diagnostic}
    (found : diagnostic ∈ diagnose source) :
    ∃ token ∈ Token.scan source, diagnostic.PointsAt token := by
  have nonempty : ∀ token ∈ Token.scan source, token.text ≠ [] := fun token member =>
    ((Token.covers_scan source).text_nonblank token member).1
  rw [diagnose, List.mem_append, lexical_eq_map] at found
  rcases found with lexical | checked
  · obtain ⟨token, member, rfl⟩ := List.mem_map.mp lexical
    have inside := (List.mem_filter.mp member).1
    exact ⟨token, inside, pointsAt_of_nonempty (nonempty token inside) (.inl rfl) _⟩
  · exact exists_pointsAt_of_mem_ofTokens nonempty checked

/-- The source around the text that a diagnostic covers: whole lines, the margin of the
line that the diagnostic is in, the covered text and what is behind it. -/
structure StandsAt (diagnostic : Diagnostic) (source before margin covered after : Text) :
    Prop where
  source_eq : source = before ++ margin ++ covered ++ after
  starts : Text.StartsLine before
  newline_not_mem : '\n' ∉ margin
  nonblank : ∀ c ∈ covered, isBlank c = false
  nonempty : covered ≠ []
  offset_eq : diagnostic.offset = before.length + margin.length
  length_eq : diagnostic.length = covered.length

theorem PointsAt.standsAt {source : Text} {diagnostic : Diagnostic} {token : Token}
    (points : diagnostic.PointsAt token) (member : token ∈ Token.scan source) :
    ∃ before margin covered after, diagnostic.StandsAt source before margin covered after := by
  obtain ⟨front, back, source_eq, offset⟩ := Token.exists_append_of_mem_scan member
  obtain ⟨before, margin, rfl, starts, inside⟩ := Text.exists_margin front
  have length : diagnostic.length = (token.text.take diagnostic.length).length := by
    rw [List.length_take, Nat.min_eq_left points.length_le]
  refine ⟨before, margin, token.text.take diagnostic.length,
    token.text.drop diagnostic.length ++ back, ?_, starts, inside, ?_, ?_, ?_, length⟩
  · have whole := List.take_append_drop diagnostic.length token.text
    calc
      source = before ++ margin ++
          (token.text.take diagnostic.length ++ token.text.drop diagnostic.length) ++ back := by
        rw [whole, source_eq]
      _ = before ++ margin ++ token.text.take diagnostic.length ++
          (token.text.drop diagnostic.length ++ back) := by
        simp only [List.append_assoc]
  · intro c covered
    exact ((Token.covers_scan source).text_nonblank token member).2 c (List.mem_of_mem_take covered)
  · rw [← List.length_pos_iff, ← length]
    exact points.length_pos
  · rw [points.offset_eq, offset, List.length_append, Int.natCast_add]

namespace StandsAt

variable {diagnostic : Diagnostic} {source before margin covered after : Text}

/-- The source from the start of the line on that a diagnostic is in. -/
theorem source_eq_append (stands : diagnostic.StandsAt source before margin covered after) :
    source = before ++ (margin ++ covered ++ after) := by
  rw [stands.source_eq, List.append_assoc, List.append_assoc, List.append_assoc]

theorem toNat_offset (stands : diagnostic.StandsAt source before margin covered after) :
    diagnostic.offset.toNat = (before ++ margin).length := by
  rw [stands.offset_eq, List.length_append]
  omega

theorem resolve?_offset (stands : diagnostic.StandsAt source before margin covered after) :
    Position.resolve? source diagnostic.offset =
      some ⟨before.count '\n' + 1, margin.length + 1, before.length + margin.length⟩ := by
  rw [stands.source_eq, stands.offset_eq, List.append_assoc (before ++ margin)]
  exact Position.resolve?_append stands.starts stands.newline_not_mem _

/-- The covered text holds no newline, so it ends in the line that it starts in. -/
theorem resolve?_stop (stands : diagnostic.StandsAt source before margin covered after) :
    Position.resolve? source (diagnostic.offset + diagnostic.length) =
      some ⟨before.count '\n' + 1, (margin ++ covered).length + 1,
        before.length + (margin ++ covered).length⟩ := by
  have inside : '\n' ∉ margin ++ covered := by
    intro member
    rcases List.mem_append.mp member with inMargin | inCovered
    · exact stands.newline_not_mem inMargin
    · exact absurd (stands.nonblank _ inCovered) (by decide)
  have offset : diagnostic.offset + diagnostic.length =
      before.length + ((margin ++ covered).length : Int) := by
    rw [stands.offset_eq, stands.length_eq, List.length_append]
    omega
  rw [stands.source_eq, offset, List.append_assoc before]
  exact Position.resolve?_append stands.starts inside _

theorem slice_eq (stands : diagnostic.StandsAt source before margin covered after) :
    Editor.slice source diagnostic.offset.toNat
      (diagnostic.offset + diagnostic.length).toNat = covered := by
  have stop : (diagnostic.offset + diagnostic.length).toNat =
      (before ++ margin ++ covered).length := by
    rw [stands.offset_eq, stands.length_eq, List.length_append, List.length_append]
    omega
  rw [stands.toNat_offset, stop, stands.source_eq, Editor.slice, List.take_left, List.drop_left]

/-- No line breaks in the margin and the covered text, if only newlines and carriage returns
in front of them break a line up to there. -/
theorem inside (stands : diagnostic.StandsAt source before margin covered after)
    (plain : Text.PlainBreaks (before ++ margin)) (paired : Text.ReturnsPaired source) :
    ∀ c ∈ margin ++ covered, isLineBreak c = false := by
  have next : (covered ++ after).head? ≠ some '\n' := by
    obtain ⟨first, others, rfl⟩ := List.exists_cons_of_ne_nil stands.nonempty
    have nonblank := stands.nonblank first List.mem_cons_self
    rintro ⟨rfl⟩
    exact absurd nonblank (by decide)
  have noReturn : '\r' ∉ margin := by
    rw [stands.source_eq, List.append_assoc, List.append_assoc] at paired
    exact paired.of_append_right.return_not_mem stands.newline_not_mem next
  intro c member
  rw [← Bool.not_eq_true]
  intro isbreak
  rcases List.mem_append.mp member with inMargin | inCovered
  · rcases plain c (List.mem_append_right before inMargin) isbreak with rfl | rfl
    · exact stands.newline_not_mem inMargin
    · exact noReturn inMargin
  · have blank := Text.isBlank_of_isLineBreak isbreak
    rw [stands.nonblank c inCovered] at blank
    cases blank

/-- The newlines before a diagnostic then count the lines before it. -/
theorem getElem?_lines (stands : diagnostic.StandsAt source before margin covered after)
    (plain : Text.PlainBreaks (before ++ margin)) (paired : Text.ReturnsPaired source) :
    source.lines[before.count '\n']? = some (margin ++ covered ++ after.lines.headD []) := by
  have count : before.lines.length = before.count '\n' := by
    apply Text.length_lines stands.starts (Text.plainBreaks_append.mp plain).1
    rw [stands.source_eq_append] at paired
    exact paired.of_append stands.starts
  have nonempty : margin ++ covered ≠ [] := by simp [stands.nonempty]
  rw [stands.source_eq_append, Text.lines_append stands.starts, ← count,
    List.getElem?_append_right (Nat.le_refl _), Nat.sub_self,
    Text.lines_append_of_inside (stands.inside plain paired) nonempty]
  rfl

end StandsAt

theorem exists_standsAt {source : Text} {diagnostic : Diagnostic}
    (found : diagnostic ∈ diagnose source) :
    ∃ before margin covered after, diagnostic.StandsAt source before margin covered after := by
  obtain ⟨token, member, points⟩ := exists_pointsAt found
  exact points.standsAt member

end Diagnostic

theorem Word.Spelled.text_of_error {word : Text} {items : List Lexeme}
    (spelled : Spelled word items) {item : Lexeme} (member : item ∈ items)
    (error : item.kind = .error) : ∃ c, item.text = [c] := by
  cases spelled with
  | run first others kinds =>
      obtain rfl := List.mem_singleton.mp member
      rcases kinds with rfl | rfl <;> cases error
  | divided first others whole numeral =>
      simp only [List.mem_cons, List.not_mem_nil, or_false] at member
      rcases member with rfl | rfl <;> cases error
  | repeated closes others lone =>
      simp only [List.mem_cons, List.not_mem_nil, or_false] at member
      rcases member with rfl | rfl <;> cases error
  | @error c nonblank name closes =>
      obtain rfl := List.mem_singleton.mp member
      exact ⟨c, rfl⟩
  | _ =>
      obtain rfl := List.mem_singleton.mp member
      cases error

/-- A character that starts no lexeme is a token by itself. -/
theorem Token.text_of_error {source : Text} {token : Token} (member : token ∈ scan source)
    (error : token.kind = .error) : ∃ c, token.text = [c] := by
  have inside : token.toLexeme ∈ Token.lexemes source := List.mem_map_of_mem member
  rw [Token.lexemes_eq_lexemesAll] at inside
  obtain ⟨word, items, spelled, inside⟩ :=
    Word.exists_spelled (fun _ => Word.isWord_of_mem_ofText) inside
  exact spelled.text_of_error inside error

theorem Finding.category_of_ofReview {finding : Finding} (review : finding.ofReview = true) :
    finding.category ≠ .lexical := by
  cases finding with
  | unexpectedCharacter text => cases review
  | _ => exact Category.noConfusion

/-- The check never reports a character. -/
theorem Diagnostic.category_of_mem_ofTokens {tokens : List Token} {diagnostic : Diagnostic}
    (found : diagnostic ∈ ofTokens tokens) : diagnostic.category ≠ .lexical := by
  rw [Check.ofTokens_eq, List.mem_append] at found
  rcases found with reviewed | unclosed
  · obtain ⟨index, token, previous, next, -, reviewed⟩ := Check.exists_mem_review reviewed
    have about := Check.isAbout_of_mem_review reviewed
    exact Finding.category_of_ofReview (Finding.ofReview_of_isAbout about)
  · obtain ⟨frame, -, rfl⟩ := List.mem_map.mp unclosed
    exact Category.noConfusion

/-- Every diagnostic of a source points at a token, and so it covers text of the source that
holds no blanks and lies in one line. The diagnostics of characters that start no lexeme come
first: one for each of these characters, in their order, with the character in the message. -/
theorem diagnostics_point_at_tokens (style : Style) (source : Text) :
    (∀ diagnostic ∈ (format style source).diagnostics,
      (∃ token ∈ Token.scan source, diagnostic.PointsAt token) ∧
      0 ≤ diagnostic.offset ∧ diagnostic.offset + diagnostic.length ≤ source.length ∧
      (∀ c ∈ Editor.slice source diagnostic.offset.toNat
          (diagnostic.offset + diagnostic.length).toNat, isBlank c = false) ∧
      ∃ start stop, Position.resolve? source diagnostic.offset = some start ∧
        Position.resolve? source (diagnostic.offset + diagnostic.length) = some stop ∧
        start.line = stop.line) ∧
      ∃ reviews, (format style source).diagnostics =
        ((Token.scan source).filter (·.kind = .error)).map Diagnostic.ofError ++ reviews ∧
      (∀ diagnostic ∈ reviews, diagnostic.category ≠ .lexical) ∧
      ∀ token ∈ Token.scan source, token.kind = .error → ∃ c, token.text = [c] ∧
        (Diagnostic.ofError token).category = .lexical ∧
        (Diagnostic.ofError token).message =
          "Unexpected character: '".toList ++ [c] ++ "'".toList := by
  refine ⟨?_, ?_⟩
  · intro diagnostic found
    obtain ⟨token, member, points⟩ := Diagnostic.exists_pointsAt found
    obtain ⟨before, margin, covered, after, stands⟩ := points.standsAt member
    have start := (Token.covers_scan source).offset_le token member
    have stop := (Token.covers_scan source).stop_le token member
    have offset := points.offset_eq
    have length := points.length_le
    rw [Token.stop] at stop
    refine ⟨⟨token, member, points⟩, by omega, by omega, ?_, ?_⟩
    · rw [stands.slice_eq]
      exact stands.nonblank
    · exact ⟨_, _, stands.resolve?_offset, stands.resolve?_stop, rfl⟩
  · refine ⟨Diagnostic.ofTokens (Token.scan source), ?_, ?_, ?_⟩
    · rw [← Diagnostic.lexical_eq_map]
      rfl
    · exact fun diagnostic found => Diagnostic.category_of_mem_ofTokens found
    · intro token member error
      obtain ⟨c, text⟩ := Token.text_of_error member error
      have message : (Diagnostic.ofError token).message =
          "Unexpected character: '".toList ++ token.text ++ "'".toList := rfl
      rw [text] at message
      exact ⟨c, text, rfl, message⟩

end ModuleGrammar
