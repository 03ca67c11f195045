/-
# The shape of a layout

Every piece that the layout writes for a token holds a character that is not blank, and a newline
only stands at the end of a piece. So no line of what is written is blank, whatever the tokens are,
and the cleanup keeps it so: it trims the lines or ends the last one, but it empties none of them.
-/
import ModuleGrammar.Proofs.Formatting
import ModuleGrammar.Proofs.Indentation
import ModuleGrammar.Proofs.Trimming

namespace ModuleGrammar

namespace Text

theorem HasInk.append_left {text : Text} (ink : text.HasInk) (rest : Text) :
    HasInk (text ++ rest) := by
  obtain ⟨c, member, nonblank⟩ := ink
  exact ⟨c, List.mem_append_left rest member, nonblank⟩

theorem HasInk.append_right {text : Text} (ink : text.HasInk) (start : Text) :
    HasInk (start ++ text) := by
  obtain ⟨c, member, nonblank⟩ := ink
  exact ⟨c, List.mem_append_right start member, nonblank⟩

theorem HasInk.ne_nil {text : Text} (ink : text.HasInk) : text ≠ [] := by
  obtain ⟨c, member, -⟩ := ink
  exact List.ne_nil_of_mem member

theorem HasInk.trimBlankEnd {text : Text} (ink : text.HasInk) : text.trimBlankEnd.HasInk := by
  obtain ⟨c, last⟩ : ∃ c, text.trimBlankEnd.getLast? = some c :=
    Option.ne_none_iff_exists'.mp fun none =>
      trimBlankEnd_ne_nil_iff.mpr ink (List.getLast?_eq_none_iff.mp none)
  exact ⟨c, List.mem_of_getLast? last, getLast?_trimEnd _ text c last⟩

/-- Trimming the end leaves a first character that is not to be dropped. -/
theorem head?_trimEnd {p : Char → Bool} {text : Text} {c : Char} (first : text.head? = some c)
    (kept : p c = false) : (trimEnd p text).head? = some c := by
  obtain ⟨rest, rfl⟩ := List.head?_eq_some_iff.mp first
  have alone : trimEnd p [c] = [c] := trimEnd_eq_self (by simpa using kept)
  rw [← List.singleton_append, trimEnd_append_eq_ite, alone]
  split <;> rfl

end Text

namespace Layout

/-- All lines of a text have ink, but nothing need stand behind the last newline. -/
inductive Inked : Text → Prop
  | nil : Inked []
  | line {line : Text} (noNewline : '\n' ∉ line) (ink : line.HasInk) : Inked line
  | cons {line rest : Text} (noNewline : '\n' ∉ line) (ink : line.HasInk) (inked : Inked rest) :
      Inked (line ++ '\n' :: rest)

namespace Inked

variable {text : Text}

theorem head?_ne_newline (inked : Inked text) : text.head? ≠ some '\n' := by
  have start {line : Text} (noNewline : '\n' ∉ line) (ink : line.HasInk) (rest : Text) :
      (line ++ rest).head? ≠ some '\n' := by
    obtain ⟨c, body, rfl⟩ := List.exists_cons_of_ne_nil ink.ne_nil
    rintro ⟨rfl⟩
    exact noNewline List.mem_cons_self
  cases inked with
  | nil => simp
  | line noNewline ink => simpa using start noNewline ink []
  | cons noNewline ink inked => exact start noNewline ink _

theorem not_doubleNewline (inked : Inked text) : ¬ DoubleNewline text := by
  induction inked with
  | nil => exact Layout.not_doubleNewline List.not_mem_nil
  | line noNewline ink => exact Layout.not_doubleNewline noNewline
  | cons noNewline ink inked ih =>
      rw [doubleNewline_append noNewline, doubleNewline_newline, not_or]
      exact ⟨inked.head?_ne_newline, ih⟩

/-- A line of the text has ink, or it is the empty one at the end. -/
theorem hasInk_or_last (inked : Inked text) {before after : List Text} {line : Text}
    (lines : text.cut '\n' = before ++ line :: after) :
    line.HasInk ∨ (line = [] ∧ after = []) := by
  induction inked generalizing before with
  | nil =>
      obtain ⟨rfl, same⟩ := List.append_eq_singleton_iff.mp lines.symm |>.resolve_right (by simp)
      cases same
      exact .inr ⟨rfl, rfl⟩
  | line noNewline ink =>
      rw [Text.cut_of_not_mem noNewline] at lines
      obtain ⟨rfl, same⟩ := List.append_eq_singleton_iff.mp lines.symm |>.resolve_right (by simp)
      cases same
      exact .inl ink
  | cons noNewline ink inked ih =>
      rw [Text.cut_append_cons noNewline] at lines
      cases before with
      | nil =>
          cases lines
          exact .inl ink
      | cons first before => exact ih (List.cons.inj lines).2

/-- The first line may start with anything that has ink. -/
theorem prepend {start : Text} (noNewline : '\n' ∉ start) (ink : start.HasInk)
    (inked : Inked text) : Inked (start ++ text) := by
  cases inked with
  | nil =>
      rw [List.append_nil]
      exact .line noNewline ink
  | line inside _ => exact .line (List.not_mem_append noNewline inside) (ink.append_left _)
  | cons inside _ inked =>
      rw [← List.append_assoc]
      exact .cons (List.not_mem_append noNewline inside) (ink.append_left _) inked

/-- The last line can be ended. -/
theorem concat (inked : Inked text) (nonempty : text ≠ []) (last : text.getLast? ≠ some '\n') :
    Inked (text ++ ['\n']) := by
  induction inked with
  | nil => exact absurd rfl nonempty
  | line noNewline ink => exact .cons noNewline ink .nil
  | @cons line rest noNewline ink inked ih =>
      rw [List.append_assoc, List.cons_append]
      rw [List.getLast?_append, List.getLast?_cons, Option.some_or] at last
      have remains : rest ≠ [] := by
        rintro rfl
        exact last rfl
      refine .cons noNewline ink (ih remains ?_)
      rw [List.getLast?_eq_some_getLast remains] at last ⊢
      exact last

theorem trimLines (inked : Inked text) : Inked (trimLines text) := by
  induction inked with
  | nil => exact .nil
  | line noNewline ink =>
      rw [trimLines_line noNewline]
      exact .line (Text.not_mem_trimBlankEnd noNewline) ink.trimBlankEnd
  | cons noNewline ink inked ih =>
      rw [trimLines_cons noNewline]
      split
      · exact .line (Text.not_mem_trimBlankEnd noNewline) ink.trimBlankEnd
      · exact .cons (Text.not_mem_trimBlankEnd noNewline) ink.trimBlankEnd ih

theorem endWithNewline (inked : Inked text) : Inked (endWithNewline text) := by
  by_cases last : text.getLast? = some '\n'
  · -- The text ends with one newline already.
    obtain ⟨body, rfl⟩ := List.getLast?_eq_some_iff.mp last
    rwa [endWithNewline_eq_self]
    intro another
    obtain ⟨start, rfl⟩ := List.getLast?_eq_some_iff.mp another
    exact inked.not_doubleNewline ⟨start, [], by simp⟩
  · cases text with
    | nil => exact .nil
    | cons c rest =>
        rw [Layout.endWithNewline, if_neg (by simp), Text.trimEnd_newline_eq_self last]
        exact inked.concat (List.cons_ne_nil c rest) last

theorem collapseNewlines_eq (inked : Inked text) : collapseNewlines text = text :=
  (collapseNewlines_eq_self_iff text).mpr inked.not_doubleNewline

theorem cleanup (inked : Inked text) (style : Style) : Inked (cleanup style text) := by
  rw [Layout.cleanup, inked.collapseNewlines_eq]
  split
  · exact inked.trimLines
  · split
    · exact inked.endWithNewline
    · exact inked

end Inked

/-- A token that can be written: its text is not empty and holds no blanks. -/
def Solid (token : Token) : Prop :=
  token.text ≠ [] ∧ ∀ c ∈ token.text, isBlank c = false

/-- A token is written on one line, which may end behind it. -/
theorem piece_cases {token : Token} (solid : Solid token) (style : Style) (level : Nat)
    (next : Option Token.Kind) :
    ∃ row : Text, '\n' ∉ row ∧ row.HasInk ∧
      (piece style level next token = row ∨ piece style level next token = row ++ ['\n']) := by
  have line : LineEnd token.text := .of_forall solid.1 solid.2
  have ink : token.text.HasInk := by
    obtain ⟨c, member⟩ := List.exists_mem_of_ne_nil _ solid.1
    exact ⟨c, member, solid.2 c member⟩
  have framed (level : Nat) (condition : Bool) : ∃ row : Text, '\n' ∉ row ∧ row.HasInk ∧
      (style.indent level ++ token.text ++ newlineIf condition = row ∨
        style.indent level ++ token.text ++ newlineIf condition = row ++ ['\n']) := by
    refine ⟨style.indent level ++ token.text,
      (line.append (newline_not_mem_indent style level)).noNewline, ink.append_right _, ?_⟩
    cases condition with
    | false => exact .inl (List.append_nil _)
    | true => exact .inr rfl
  unfold piece
  split
  case h_1 => exact framed level _
  case h_2 => exact framed (level - 1) _
  case h_3 => exact framed 0 _
  case h_4 => exact framed 0 _
  case h_5 => exact ⟨[','], by decide, ⟨',', by decide, by decide⟩, .inr rfl⟩
  case h_6 => exact ⟨[':', ' '], by decide, ⟨':', by decide, by decide⟩, .inl rfl⟩
  case h_7 => exact framed level _
  case h_8 => exact ⟨token.text, line.noNewline, ink, .inl rfl⟩

/-- What is written for tokens has no blank line, at any level and in any style. -/
theorem inked_renderFrom {tokens : List Token} (solid : ∀ token ∈ tokens, Solid token)
    (style : Style) (level : Nat) : Inked (renderFrom style level tokens) := by
  induction tokens generalizing level with
  | nil => exact .nil
  | cons token rest ih =>
      rw [List.forall_mem_cons] at solid
      have later := ih solid.2 (advance level token.kind)
      obtain ⟨row, noNewline, ink, written | written⟩ :=
        piece_cases solid.1 style level (rest.head?.map (·.kind))
      · rw [renderFrom, written]
        exact later.prepend noNewline ink
      · rw [renderFrom, written, List.append_assoc]
        exact .cons noNewline ink later

/-- On the outermost level nothing stands in front of a token. -/
theorem head?_piece {token : Token} (solid : Solid token) (style : Style)
    (next : Option Token.Kind) :
    ∃ c, (piece style 0 next token).head? = some c ∧ isBlank c = false := by
  obtain ⟨nonempty, nonblank⟩ := solid
  obtain ⟨c, body, text⟩ := List.exists_cons_of_ne_nil nonempty
  have first : isBlank c = false := nonblank c (by simp [text])
  unfold piece
  split
  case h_5 => exact ⟨',', rfl, by decide⟩
  case h_6 => exact ⟨':', rfl, by decide⟩
  all_goals exact ⟨c, by simp [text, Style.indent], first⟩

theorem head?_render {tokens : List Token} (solid : ∀ token ∈ tokens, Solid token)
    (nonempty : tokens ≠ []) (style : Style) :
    ∃ c, (render style tokens).head? = some c ∧ isBlank c = false := by
  obtain ⟨token, rest, rfl⟩ := List.exists_cons_of_ne_nil nonempty
  obtain ⟨c, first, nonblank⟩ := head?_piece (solid token List.mem_cons_self) style
    (rest.head?.map (·.kind))
  refine ⟨c, ?_, nonblank⟩
  rw [render, renderFrom, List.head?_append, first, Option.some_or]

theorem head?_trimLines {text : Text} {c : Char} (first : text.head? = some c)
    (nonblank : isBlank c = false) : (trimLines text).head? = some c := by
  cases text using Text.line_induction with
  | line line noNewline =>
      rw [trimLines_line noNewline]
      exact Text.head?_trimEnd first nonblank
  | cons line rest noNewline =>
      have start : line.head? = some c := by
        cases line with
        | nil =>
            cases first
            cases nonblank
        | cons d line => exact first
      have trimmed : line.trimBlankEnd.head? = some c := Text.head?_trimEnd start nonblank
      rw [trimLines_cons noNewline]
      split
      · exact trimmed
      · rw [List.head?_append, trimmed, Option.some_or]

/-- The cleanup keeps a first character that is not blank. -/
theorem head?_cleanup {text : Text} {c : Char} (first : text.head? = some c)
    (nonblank : isBlank c = false) (style : Style) : (cleanup style text).head? = some c := by
  rw [← head?_collapseNewlines] at first
  rw [cleanup]
  split
  · exact head?_trimLines first nonblank
  · split
    · have other : (c == '\n') = false := by
        rw [beq_eq_false_iff_ne]
        rintro rfl
        cases nonblank
      have nonempty : (collapseNewlines text).isEmpty = false := by
        obtain ⟨rest, whole⟩ := List.head?_eq_some_iff.mp first
        rw [whole]
        rfl
      rw [endWithNewline, if_neg (by simp [nonempty]), List.head?_append,
        Text.head?_trimEnd first other, Option.some_or]
    · exact first

end Layout

open Layout

theorem Token.solid_of_mem_scan (source : Text) : ∀ token ∈ Token.scan source, Solid token :=
  (Token.covers_scan source).text_nonblank

theorem layOut_eq_nil_iff (style : Style) (source : Text) :
    layOut style source = [] ↔ Token.scan source = [] := by
  constructor
  · intro empty
    by_contra nonempty
    obtain ⟨c, first, nonblank⟩ := head?_render (Token.solid_of_mem_scan source) nonempty style
    have kept := head?_cleanup first nonblank style
    rw [← layOut, empty] at kept
    cases kept
  · intro none
    rw [layOut, none, render, renderFrom]
    unfold cleanup
    split
    · rfl
    · split <;> rfl

theorem isBlank_head?_layOut (style : Style) (source : Text) :
    ∀ c ∈ (layOut style source).head?, isBlank c = false := by
  intro c first
  have nonempty : Token.scan source ≠ [] := by
    rw [ne_eq, ← layOut_eq_nil_iff style]
    exact List.ne_nil_of_mem (List.mem_of_head? first)
  obtain ⟨d, rendered, nonblank⟩ := head?_render (Token.solid_of_mem_scan source) nonempty style
  have kept : (layOut style source).head? = some d := head?_cleanup rendered nonblank style
  rwa [Option.mem_unique first kept]

theorem layOut_ends_newline {style : Style} (trims : style.trimTrailingWhitespace = false)
    (final : style.insertFinalNewline = true) {source : Text} (nonempty : Token.scan source ≠ []) :
    ∃ body, layOut style source = body ++ ['\n'] ∧ body.getLast? ≠ some '\n' := by
  have whole : layOut style source =
      endWithNewline (collapseNewlines (render style (Token.scan source))) := by
    simp [layOut, cleanup, trims, final]
  rcases endWithNewline_cases (collapseNewlines (render style (Token.scan source))) with
    ⟨-, ended⟩ | ⟨body, -, last, ended⟩
  · exact absurd ((layOut_eq_nil_iff style source).mp (whole.trans ended)) nonempty
  · exact ⟨body, whole.trans ended, last⟩

/-- The text of a formatted source. It holds no blanks but spaces, tabs and newlines, it does not
start with one, and none of its lines is blank, except that nothing stands behind a newline at its
end. Trimming leaves no blank at the end of a line or of the text. Without trimming, the text of
some tokens ends with exactly one newline if the style asks for it. Only a source without tokens
has an empty text. -/
theorem format_has_no_blank_line (style : Style) (source : Text) :
    Formats style source fun formatted =>
      let text := formatted.text
      (∀ c ∈ text, isBlank c = true → c = ' ' ∨ c = '\t' ∨ c = '\n') ∧
      (∀ c ∈ text.head?, isBlank c = false) ∧
      (∀ before line after, text.cut '\n' = before ++ line :: after →
        (∃ c ∈ line, isBlank c = false) ∨ (line = [] ∧ after = [])) ∧
      (style.trimTrailingWhitespace = true →
        (∀ line ∈ text.cut '\n', ∀ c ∈ line.getLast?, isBlank c = false) ∧
          text.getLast? ≠ some '\n') ∧
      (style.trimTrailingWhitespace = false → style.insertFinalNewline = true →
        Token.scan source ≠ [] → ∃ body, text = body ++ ['\n'] ∧ body.getLast? ≠ some '\n') ∧
      (text = [] ↔ Token.scan source = []) := by
  apply formats_of_format
  intro text
  have inked : Inked text :=
    (inked_renderFrom (Token.solid_of_mem_scan source) style 0).cleanup style
  refine ⟨fun c => isSpacing_of_mem_layOut, isBlank_head?_layOut style source,
    fun _ _ _ => inked.hasInk_or_last, fun trims => ?_,
    fun trims final nonempty => layOut_ends_newline trims final nonempty,
    layOut_eq_nil_iff style source⟩
  have trimmed : Trimmed text := trimmed_cleanup trims _
  refine ⟨trimmed.lines, fun last => ?_⟩
  cases trimmed.ends '\n' last

end ModuleGrammar
