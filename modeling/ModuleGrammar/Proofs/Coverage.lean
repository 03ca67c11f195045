/-
# Tokens cover their source

The tokens of a source and the blanks between them are the source. The invariant of
the scan is `Covers`: it ties the offset that the scan has come to, the text that is
still unread and the tokens that will be found in it. What is known about offsets,
order and gaps follows from it by induction.
-/
import ModuleGrammar.Editor.Session
import ModuleGrammar.Proofs.Segment

namespace ModuleGrammar

namespace Token

/-- The tokens cover a text that starts at an offset: every character is a blank or
belongs to the next token, which stands exactly where its text is. -/
inductive Covers : Nat → Text → List Token → Prop
  | nil (offset : Nat) : Covers offset [] []
  | blank {offset : Nat} {c : Char} {rest : Text} {tokens : List Token}
      (blank : isBlank c = true) (covers : Covers (offset + 1) rest tokens) :
      Covers offset (c :: rest) tokens
  | token {offset : Nat} {item : Lexeme} {rest : Text} {tokens : List Token}
      (nonempty : item.text ≠ []) (nonblank : ∀ c ∈ item.text, isBlank c = false)
      (covers : Covers (offset + item.text.length) rest tokens) :
      Covers offset (item.text ++ rest) (⟨item, offset⟩ :: tokens)

namespace Covers

variable {offset : Nat} {text : Text} {tokens : List Token}

theorem offset_le (covers : Covers offset text tokens) :
    ∀ token ∈ tokens, (offset : Int) ≤ token.offset := by
  induction covers with
  | nil offset => simp
  | blank blank covers ih =>
      intro token member
      have later := ih token member
      omega
  | token nonempty nonblank covers ih =>
      intro token member
      rcases List.mem_cons.mp member with rfl | member
      · exact Int.le_refl _
      · have later := ih token member
        omega

theorem stop_le (covers : Covers offset text tokens) :
    ∀ token ∈ tokens, token.stop ≤ offset + text.length := by
  induction covers with
  | nil offset => simp
  | blank blank covers ih =>
      intro token member
      have later := ih token member
      simp only [List.length_cons]
      omega
  | token nonempty nonblank covers ih =>
      intro token member
      simp only [List.length_append]
      rcases List.mem_cons.mp member with rfl | member
      · simp only [stop]
        omega
      · have later := ih token member
        omega

/-- Tokens are not empty and hold no blanks. -/
theorem text_nonblank (covers : Covers offset text tokens) :
    ∀ token ∈ tokens, token.text ≠ [] ∧ ∀ c ∈ token.text, isBlank c = false := by
  induction covers with
  | nil offset => simp
  | blank blank covers ih => exact ih
  | token nonempty nonblank covers ih =>
      intro token member
      rcases List.mem_cons.mp member with rfl | member
      · exact ⟨nonempty, nonblank⟩
      · exact ih token member

/-- A token stands behind all tokens before it. -/
theorem pairwise (covers : Covers offset text tokens) :
    tokens.Pairwise fun first second =>
      first.offset < second.offset ∧ first.stop ≤ second.offset := by
  induction covers with
  | nil offset => exact List.Pairwise.nil
  | blank blank covers ih => exact ih
  | @token offset item rest tokens nonempty nonblank covers ih =>
      apply List.Pairwise.cons _ ih
      intro token member
      have later := covers.offset_le token member
      have positive := List.length_pos_iff.mpr nonempty
      simp only [stop]
      omega

/-- A token is the part of the source between its offset and its stop. The text before
is what the scan has read. -/
theorem slice_eq (covers : Covers offset text tokens) :
    ∀ before : Text, before.length = offset → ∀ token ∈ tokens,
      Editor.slice (before ++ text) token.offset.toNat token.stop.toNat = token.text := by
  induction covers with
  | nil offset => simp
  | @blank offset c rest tokens blank covers ih =>
      intro before length token member
      have shifted := ih (before ++ [c]) (by simp [length]) token member
      rwa [List.append_assoc, List.singleton_append] at shifted
  | @token offset item rest tokens nonempty nonblank covers ih =>
      intro before length token member
      rcases List.mem_cons.mp member with rfl | member
      · have start : ((offset : Int)).toNat = before.length := by omega
        have stop_eq : (stop ⟨item, offset⟩).toNat = before.length + item.text.length := by
          simp only [stop]
          omega
        rw [start, stop_eq, Editor.slice, List.take_length_add_append, List.take_left,
          List.drop_left]
      · have shifted := ih (before ++ item.text) (by simp [length]) token member
        rwa [List.append_assoc] at shifted

/-- A character that belongs to no token is a blank. -/
theorem isBlank_of_uncovered (covers : Covers offset text tokens) :
    ∀ (i : Nat) (inside : i < text.length),
      (∀ token ∈ tokens, ¬ (token.offset ≤ offset + i ∧ (offset + i : Int) < token.stop)) →
      isBlank text[i] = true := by
  induction covers with
  | nil offset => simp
  | @blank offset c rest tokens blank covers ih =>
      intro i inside uncovered
      cases i with
      | zero => exact blank
      | succ i =>
          apply ih i (by simpa using inside)
          intro token member
          have outside := uncovered token member
          omega
  | @token offset item rest tokens nonempty nonblank covers ih =>
      intro i inside uncovered
      have outside := uncovered _ List.mem_cons_self
      simp only [stop] at outside
      have behind : item.text.length ≤ i := by omega
      rw [List.getElem_append_right behind]
      apply ih
      intro token member
      have later := uncovered token (List.mem_cons_of_mem _ member)
      omega

end Covers

/-- Lay the texts of tokens at their offsets and fill the gaps from a source, starting
at a position of the source. -/
def rebuild (source : Text) (position : Nat) : List Token → Text
  | [] => source.drop position
  | token :: rest =>
    Editor.slice source position token.offset.toNat ++ token.text ++
      rebuild source token.stop.toNat rest

/-- What has been read is `before`, and `gap` are the blanks behind it that belong to
no token. -/
theorem Covers.rebuild_eq {offset : Nat} {text : Text} {tokens : List Token}
    (covers : Covers offset text tokens) :
    ∀ before gap : Text, before.length + gap.length = offset →
      rebuild (before ++ gap ++ text) before.length tokens = gap ++ text := by
  induction covers with
  | nil offset =>
      intro before gap _
      rw [rebuild, List.append_assoc, List.drop_left]
  | @blank offset c rest tokens blank covers ih =>
      intro before gap length
      have longer := ih before (gap ++ [c]) (by simp; omega)
      rwa [List.append_assoc before, List.append_assoc gap, ← List.append_assoc before,
        List.singleton_append] at longer
  | @token offset item rest tokens nonempty nonblank covers ih =>
      intro before gap length
      have start : ((offset : Int)).toNat = (before ++ gap).length := by
        simp; omega
      have stop_eq : (stop ⟨item, offset⟩).toNat = (before ++ gap ++ item.text).length := by
        simp [stop]; omega
      have gap_eq : Editor.slice (before ++ gap ++ (item.text ++ rest)) before.length
          (before ++ gap).length = gap := by
        rw [Editor.slice, List.take_left, List.drop_left]
      have rest_eq := ih (before ++ gap ++ item.text) [] (by simp; omega)
      rw [List.append_nil, List.append_assoc (before ++ gap), List.nil_append] at rest_eq
      rw [rebuild, start, stop_eq, gap_eq, rest_eq, List.append_assoc]

end Token

namespace Segment

/-- What a segment of a scan is: one blank, or a lexeme that is not empty and holds no
blanks. -/
def Sound : Segment → Prop
  | .blank c => isBlank c = true
  | .lexeme item => item.text ≠ [] ∧ ∀ c ∈ item.text, isBlank c = false

theorem sound_of_mem_ofText (afterColon : Bool) (source : Text) :
    ∀ segment ∈ ofText afterColon source, segment.Sound := by
  induction afterColon, source using ofText.induct with
  | case1 afterColon => simp [ofText_nil]
  | case2 afterColon c rest blank ih =>
      intro segment member
      rw [ofText_cons_of_isBlank afterColon blank, List.mem_cons] at member
      rcases member with rfl | member
      · exact blank
      · exact ih segment member
  | case3 afterColon c rest nonblank ih =>
      intro segment member
      have nonblank : isBlank c = false := by simpa using nonblank
      rw [ofText_cons afterColon nonblank, List.mem_append, List.mem_map] at member
      rcases member with ⟨item, found, rfl⟩ | member
      · exact ⟨text_ne_nil_of_mem_leading afterColon c rest item found,
          nonblank_of_mem_leading afterColon nonblank rest item found⟩
      · exact ih segment member

/-- Scanning a text leaves out no character. -/
theorem flatMap_text_ofText (afterColon : Bool) (source : Text) :
    (ofText afterColon source).flatMap text = source := by
  induction afterColon, source using ofText.induct with
  | case1 afterColon => rw [ofText_nil, List.flatMap_nil]
  | case2 afterColon c rest blank ih =>
      rw [ofText_cons_of_isBlank afterColon blank, List.flatMap_cons, ih]
      rfl
  | case3 afterColon c rest nonblank ih =>
      rw [ofText_cons afterColon (by simpa using nonblank), List.flatMap_append, ih,
        List.flatMap_map]
      exact flatMap_text_leading afterColon c rest

/-- Tokens cover the segments that they are placed from. -/
theorem covers_place (offset : Nat) (segments : List Segment)
    (sound : ∀ segment ∈ segments, segment.Sound) :
    Token.Covers offset (segments.flatMap text) (place offset segments) := by
  induction segments generalizing offset with
  | nil => exact .nil offset
  | cons segment rest ih =>
      have first := sound segment List.mem_cons_self
      have covers (offset : Nat) :=
        ih offset fun segment member => sound segment (List.mem_cons_of_mem _ member)
      rw [List.flatMap_cons]
      cases segment with
      | blank c => exact .blank first (covers (offset + 1))
      | lexeme item => exact .token first.1 first.2 (covers (offset + item.text.length))

end Segment

/-- The tokens of a source cover it. -/
theorem Token.covers_scan (source : Text) : Covers 0 source (scan source) := by
  have covers := Segment.covers_place 0 (Segment.ofText false source)
    (Segment.sound_of_mem_ofText false source)
  rwa [Segment.flatMap_text_ofText] at covers

/-- A token is a nonempty part of the source without blanks. Tokens stand in the order
of their offsets and do not overlap. All characters that belong to no token are blanks,
so the tokens at their offsets and the characters in the gaps are the source again. -/
theorem scan_partitions_source (source : Text) :
    (∀ token ∈ Token.scan source,
      token.text ≠ [] ∧ (∀ c ∈ token.text, isBlank c = false) ∧
        0 ≤ token.offset ∧ token.stop ≤ source.length ∧
        Editor.slice source token.offset.toNat token.stop.toNat = token.text) ∧
      (Token.scan source).Pairwise (fun first second =>
        first.offset < second.offset ∧ first.stop ≤ second.offset) ∧
      (∀ (i : Nat) (inside : i < source.length),
        (∀ token ∈ Token.scan source, ¬ (token.offset ≤ i ∧ (i : Int) < token.stop)) →
        isBlank source[i] = true) ∧
      Token.rebuild source 0 (Token.scan source) = source := by
  have covers := Token.covers_scan source
  refine ⟨?_, covers.pairwise, ?_, ?_⟩
  · intro token member
    obtain ⟨nonempty, nonblank⟩ := covers.text_nonblank token member
    have first := covers.offset_le token member
    have last := covers.stop_le token member
    refine ⟨nonempty, nonblank, by omega, by omega, ?_⟩
    exact covers.slice_eq [] rfl token member
  · intro i inside uncovered
    apply covers.isBlank_of_uncovered i inside
    intro token member
    have outside := uncovered token member
    omega
  · exact covers.rebuild_eq [] [] rfl

end ModuleGrammar
