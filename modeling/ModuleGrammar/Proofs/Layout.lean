/-
# The layout keeps the words

The layout writes every word in one piece, with blanks before it and behind it. It
leaves out the blank behind a word only if what comes next cannot be taken for a
part of the word: punctuation, or a repetition sign that stands alone. So the text
that is written for some words has these words and no others, at every nesting
level and in every style.
-/
import ModuleGrammar.Layout
import ModuleGrammar.Proofs.Lexeme

namespace ModuleGrammar.Layout

open Word

theorem isBlank_of_mem_indentUnit {style : Style} {c : Char} (member : c ∈ style.indentUnit) :
    isBlank c = true := by
  unfold Style.indentUnit at member
  split at member
  · rw [List.mem_singleton.mp member]
    decide
  · rw [(List.mem_replicate.mp member).2]
    decide

theorem isBlank_of_mem_indent {style : Style} {level : Nat} {c : Char}
    (member : c ∈ style.indent level) : isBlank c = true := by
  induction level with
  | zero => simp [Style.indent] at member
  | succ level ih =>
      rcases List.mem_append.mp member with member | member
      · exact isBlank_of_mem_indentUnit member
      · exact ih member

theorem isBlank_of_mem_newlineIf {condition : Bool} {c : Char}
    (member : c ∈ newlineIf condition) : isBlank c = true := by
  unfold newlineIf at member
  split at member
  · rw [List.mem_singleton.mp member]
    decide
  · simp at member

/-- The text of lexemes, which is that of tokens at any offsets. -/
def renderLexemes (style : Style) (level : Nat) (items : List Lexeme) : Text :=
  renderFrom style level (items.map fun item => ⟨item, 0⟩)

/-- The layout does not look at the offsets of tokens. -/
theorem renderFrom_eq_renderLexemes (style : Style) (level : Nat) (tokens : List Token) :
    renderFrom style level tokens = renderLexemes style level (tokens.map (·.toLexeme)) := by
  induction tokens generalizing level with
  | nil => rfl
  | cons token rest ih =>
      rw [renderFrom, ih, renderLexemes, renderLexemes, List.map_cons, List.map_cons, renderFrom]
      congr 1
      cases rest <;> rfl

theorem renderLexemes_cons (style : Style) (level : Nat) (item : Lexeme) (rest : List Lexeme) :
    renderLexemes style level (item :: rest) =
      piece style level (rest.head?.map (·.kind)) ⟨item, 0⟩ ++
        renderLexemes style (advance level item.kind) rest := by
  cases rest <;> rfl

/-- Commas and colons are written without a blank before them, and no word can take
them along. -/
theorem stops_renderLexemes {items : List Lexeme} {kind : Token.Kind}
    (next : items.head?.map (·.kind) = some kind) (separator : kind = .comma ∨ kind = .colon)
    (style : Style) (level : Nat) : Stops (renderLexemes style level items) := by
  cases items with
  | nil => simp at next
  | cons item rest =>
      simp only [List.head?_cons, Option.map_some, Option.some.injEq] at next
      rw [renderLexemes_cons]
      rcases separator with rfl | rfl <;> simp only [piece, next] <;>
        exact stops_cons (by decide) (by decide)

theorem stops_newline (rest : Text) : Stops ('\n' :: rest) :=
  stops_cons_of_isBlank (by decide) rest

/-- A multiplier and a weight are followed by a newline or by a comma. -/
theorem stops_newlineIf_comma (style : Style) (level : Nat) (items : List Lexeme) :
    Stops (newlineIf (items.head?.map (·.kind) != some .comma) ++
      renderLexemes style level items) := by
  by_cases comma : items.head?.map (·.kind) = some .comma
  · simpa [newlineIf, comma] using stops_renderLexemes comma (.inl rfl) style level
  · simpa [newlineIf, comma] using stops_newline _

/-- What is written behind a name or a closing bracket: a text that no word can take
along, or a repetition sign that stands alone. -/
theorem stops_or_sign {items : List Lexeme}
    (starts : ∀ item ∈ items.head?, continuesWord item = false) (style : Style) (level : Nat) :
    let written := newlineIf (!(items.head?.map (·.kind)).any isAttached) ++
      renderLexemes style level items
    Stops written ∨ ∃ sign after, written = sign :: after ∧ isSign sign = true ∧ Stops after := by
  cases items with
  | nil => exact .inl (stops_newline _)
  | cons item rest =>
      simp only [List.head?_cons, Option.map_some, Option.any_some]
      cases attached : isAttached item.kind with
      | false => exact .inl (stops_newline _)
      | true =>
          have kinds : item.kind = .multiplier ∨ item.kind = .comma ∨ item.kind = .colon := by
            cases kind : item.kind <;> simp [kind, isAttached] at attached ⊢
          rcases kinds with multiplier | separator
          · have lone : isLoneSign item.text = true := by
              simpa [continuesWord, multiplier] using starts item (by simp)
            obtain ⟨sign, text, issign⟩ := (isLoneSign_iff _).mp lone
            refine .inr ⟨sign, _, ?_, issign, stops_newlineIf_comma style level rest⟩
            simp [newlineIf, renderLexemes_cons, piece, advance, multiplier, text]
          · have next : (item :: rest).head?.map (·.kind) = some item.kind := rfl
            exact .inl (stops_renderLexemes next separator style level)

/-- A name ends in front of what is written behind it. -/
theorem endsAt_name {c : Char} {body : Text} (first : isNameChar c = true)
    (others : ∀ d ∈ body, isNameChar d = true) {items : List Lexeme}
    (starts : ∀ item ∈ items.head?, continuesWord item = false) (style : Style) (level : Nat) :
    EndsAt (c :: body) (newlineIf (!(items.head?.map (·.kind)).any isAttached) ++
      renderLexemes style level items) := by
  rcases stops_or_sign starts style level with stops | ⟨sign, after, written, issign, -⟩
  · exact (IsWord.name first others).endsAt stops
  · rw [written]
    refine endsAt_of_isNameChar first others ?_
    simp [(classes_of_isSign issign).2.2.1]

/-- A closing bracket without multipliers ends in front of what is written behind
it. -/
theorem endsAt_closing {c : Char} (closes : closesGroup c = true) {items : List Lexeme}
    (starts : ∀ item ∈ items.head?, continuesWord item = false) (style : Style) (level : Nat) :
    EndsAt [c] (newlineIf (!(items.head?.map (·.kind)).any isAttached) ++
      renderLexemes style level items) := by
  rcases stops_or_sign starts style level with stops | ⟨sign, after, written, issign, stops⟩
  · exact (IsWord.bracket closes (by simp) rfl).endsAt stops
  · rw [written]
    refine endsAt_of_loneSign closes ?_
    have single : (sign :: after).takeWhile isMultiplierChar = [sign] := by
      have none : after.takeWhile isMultiplierChar = [] := by
        simpa using Text.takeWhile_append_of_head (fun d hd => (stops d hd).2) []
      rw [List.takeWhile_cons_of_pos (classes_of_isSign issign).2.2.2, none]
    rw [single]
    exact issign

/-- The layout writes a word in one piece between blanks, and the word ends where
what is written behind it starts. -/
theorem renderLexemes_spelled {word : Text} {items others : List Lexeme}
    (spelled : Spelled word items)
    (starts : ∀ item ∈ others.head?, continuesWord item = false) (style : Style) (level : Nat) :
    ∃ before after next,
      renderLexemes style level (items ++ others) =
        before ++ (word ++ (after ++ renderLexemes style next others)) ∧
      (∀ c ∈ before, isBlank c = true) ∧ (∀ c ∈ after, isBlank c = true) ∧
      EndsAt word (after ++ renderLexemes style next others) := by
  have indents : ∀ level, ∀ c ∈ style.indent level, isBlank c = true :=
    fun _ _ => isBlank_of_mem_indent
  have newlines : ∀ condition, ∀ c ∈ newlineIf condition, isBlank c = true :=
    fun _ _ => isBlank_of_mem_newlineIf
  cases spelled with
  | @run c body kind first body_names kinds =>
      rcases kinds with rfl | rfl
      · refine ⟨style.indent level, newlineIf _, level, ?_, indents _, newlines _,
          endsAt_name first body_names starts style level⟩
        simp [renderLexemes_cons, piece, advance]
      · refine ⟨[], newlineIf _, level, ?_, by simp, newlines _,
          (IsWord.name first body_names).endsAt (stops_newlineIf_comma style level others)⟩
        simp [renderLexemes_cons, piece, advance]
  | divided first body_names whole numeral =>
      refine ⟨style.indent level, newlineIf _, level, ?_, indents _, newlines _,
        (IsWord.name first body_names).endsAt (stops_newlineIf_comma style level others)⟩
      rw [← whole]
      simp [renderLexemes_cons, piece, advance, isAttached, newlineIf]
  | closing closes =>
      refine ⟨style.indent (level - 1), newlineIf _, level - 1, ?_, indents _, newlines _,
        endsAt_closing closes starts style (level - 1)⟩
      simp [renderLexemes_cons, piece, advance]
  | repeated closes body_repeats lone =>
      refine ⟨style.indent (level - 1), newlineIf _, level - 1, ?_, indents _, newlines _,
        (IsWord.bracket closes body_repeats lone).endsAt
          (stops_newlineIf_comma style (level - 1) others)⟩
      simp [renderLexemes_cons, piece, advance, isAttached, newlineIf]
  | @opening c shape nonblank name closes =>
      refine ⟨style.indent level, newlineIf (breaksAfter style shape), level + 1, ?_, indents _,
        newlines _, endsAt_of_single nonblank name closes _⟩
      simp [renderLexemes_cons, piece, advance]
  | comma =>
      refine ⟨[], ['\n'], level, ?_, by simp, List.forall_mem_singleton.mpr (by decide),
        endsAt_of_single (by decide) (by decide) (by decide) _⟩
      simp [renderLexemes_cons, piece, advance]
  | colon =>
      refine ⟨[], [' '], level, ?_, by simp, List.forall_mem_singleton.mpr (by decide),
        endsAt_of_single (by decide) (by decide) (by decide) _⟩
      simp [renderLexemes_cons, piece, advance]
  | sign sign =>
      obtain ⟨symbol, nonblank, name, -⟩ := classes_of_isSign sign
      have isword := IsWord.single nonblank name (closesGroup_eq_false_of_ofSymbol? symbol)
      refine ⟨[], newlineIf _, level, ?_, by simp, newlines _,
        isword.endsAt (stops_newlineIf_comma style level others)⟩
      simp [renderLexemes_cons, piece, advance]
  | error nonblank name closes =>
      refine ⟨[], [], level, ?_, by simp, by simp, endsAt_of_single nonblank name closes _⟩
      simp [renderLexemes_cons, piece, advance]

/-- The text that is laid out for words has these words. -/
theorem ofText_renderLexemes {words : List Text} (valid : ∀ word ∈ words, IsWord word)
    (afterColon : Bool) (style : Style) (level : Nat) :
    ofText (renderLexemes style level (lexemesAll afterColon words)) = words := by
  induction words generalizing afterColon level with
  | nil => rfl
  | cons word rest ih =>
      have others : ∀ word ∈ rest, IsWord word := fun other member => valid other (by simp [member])
      have spelled := spelled_lexemes (valid word (by simp)) afterColon (rest.head? == some [':'])
      obtain ⟨before, after, next, written, before_blank, after_blank, ends⟩ :=
        renderLexemes_spelled spelled (lexemesAll_starts others _) style level
      rw [lexemesAll, written, ofText_blank_append before_blank, ofText_append_of_endsAt ends,
        ofText_blank_append after_blank, ih others]

/-- Laying out the tokens of a source keeps the words of the source. -/
theorem ofText_render_scan (style : Style) (source : Text) :
    ofText (render style (Token.scan source)) = ofText source := by
  rw [render, renderFrom_eq_renderLexemes, ← Token.lexemes, Token.lexemes_eq_lexemesAll]
  exact ofText_renderLexemes (fun _ => isWord_of_mem_ofText) false style 0

end ModuleGrammar.Layout
