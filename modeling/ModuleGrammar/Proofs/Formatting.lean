/-
# Formatting keeps the grammar

Formatting a source changes its blanks and nothing else: the formatted text has the
lexemes of the source, whether or not the source is a valid grammar. The layout
depends on the lexemes only, so a text that was formatted before is laid out as the
source it came from, whatever styles it has gone through.

Nothing is said here about the diagnostics, which name offsets.
-/
import ModuleGrammar.Grammar
import ModuleGrammar.Proofs.Cleanup
import ModuleGrammar.Proofs.Layout

namespace ModuleGrammar

/-- Laying out a source keeps its words. -/
theorem ofText_layOut (style : Style) (source : Text) :
    Word.ofText (layOut style source) = Word.ofText source := by
  rw [layOut, Layout.ofText_cleanup, Layout.ofText_render_scan]

theorem lexemes_layOut (style : Style) (source : Text) :
    Token.lexemes (layOut style source) = Token.lexemes source :=
  (Token.lexemes_eq_iff _ _).mpr (ofText_layOut style source)

/-- The layout of a source depends on its lexemes only. -/
theorem layOut_eq_of_lexemes_eq {first second : Text}
    (same : Token.lexemes first = Token.lexemes second) (style : Style) :
    layOut style first = layOut style second := by
  rw [layOut, layOut, Layout.render, Layout.render, Layout.renderFrom_eq_renderLexemes,
    Layout.renderFrom_eq_renderLexemes, ← Token.lexemes, ← Token.lexemes, same]

theorem layOut_layOut (style previous : Style) (source : Text) :
    layOut style (layOut previous source) = layOut style source :=
  layOut_eq_of_lexemes_eq (lexemes_layOut previous source) style

theorem checkIndent_eq_ok {style : Style} (valid : style.indentFault? = none) :
    style.checkIndent = .ok () := by
  rw [Style.checkIndent, valid]

theorem forM_checkIndent_eq_ok {styles : List Style}
    (valid : ∀ style ∈ styles, style.indentFault? = none) :
    styles.forM Style.checkIndent = .ok () := by
  induction styles with
  | nil => rfl
  | cons style styles ih =>
      have first := checkIndent_eq_ok (valid style List.mem_cons_self)
      have others := ih fun other member => valid other (List.mem_cons_of_mem _ member)
      rw [List.forM, first]
      exact others

theorem tryFormat_eq_ok_iff {style : Style} {source : Text} {formatted : Formatted} :
    tryFormat style source = .ok formatted ↔
      style.indentFault? = none ∧ format style source = formatted := by
  rw [tryFormat]
  cases indents : style.indentFault? with
  | none => simp [checkIndent_eq_ok indents, bind, Except.bind, pure, Except.pure]
  | some fault => simp [Style.checkIndent, indents, bind, Except.bind]

theorem tryFormat_eq_error_iff {style : Style} {source : Text} {fault : IndentFault} :
    tryFormat style source = .error fault ↔ style.indentFault? = some fault := by
  rw [tryFormat]
  cases indents : style.indentFault? with
  | none => simp [checkIndent_eq_ok indents, bind, Except.bind, pure, Except.pure]
  | some other => simp [Style.checkIndent, indents, bind, Except.bind]

/-- A source is formatted to something with a property, unless the indentation of the style cannot
be made, and then nothing but that is wrong. -/
def Formats (style : Style) (source : Text) (property : Formatted → Prop) : Prop :=
  (∃ formatted, tryFormat style source = .ok formatted ∧ property formatted) ∨
    ∃ fault, style.indentFault? = some fault ∧ tryFormat style source = .error fault

theorem formats_of_format {style : Style} {source : Text} {property : Formatted → Prop}
    (holds : property (format style source)) : Formats style source property := by
  cases indents : style.indentFault? with
  | none => exact .inl ⟨_, tryFormat_eq_ok_iff.mpr ⟨indents, rfl⟩, holds⟩
  | some fault => exact .inr ⟨fault, indents, tryFormat_eq_error_iff.mpr indents⟩

/-- Formatting keeps the kinds and texts of all tokens. So it keeps the characters
other than blanks, in their order. -/
theorem format_keeps_lexemes (style : Style) (source : Text) :
    Formats style source fun formatted =>
      Token.lexemes formatted.text = Token.lexemes source ∧
        formatted.text.filter (!isBlank ·) = source.filter (!isBlank ·) := by
  apply formats_of_format
  exact ⟨lexemes_layOut style source, Word.filter_eq_of_ofText_eq (ofText_layOut style source)⟩

/-- Every text of a chain of styles is the text that its own style gives for the
source. -/
theorem map_text_formatChain (source : Text) (styles : List Style) :
    (formatChain source styles).map (·.text) = styles.map fun style => layOut style source := by
  induction styles generalizing source with
  | nil => rfl
  | cons previous styles ih =>
      rw [formatChain, List.map_cons, List.map_cons, ih]
      have forgets : (fun style => layOut style (format previous source).text) =
          fun style => layOut style source := by
        funext style
        exact layOut_layOut style previous source
      rw [forgets]
      rfl

/-- Formatting with one style after the other forgets all styles but the last one, and
formatting twice with the same style is formatting once. A chain is formatted to its
end, as long as the indentation of every style can be made. -/
theorem formatChain_forgets_history (source : Text) (styles : List Style) (style : Style) :
    (formatChain source styles).map (·.text) =
        styles.map (fun style => (format style source).text) ∧
      (formatChain source (styles ++ [style])).getLast?.map (·.text) =
        some (format style source).text ∧
      (format style (format style source).text).text = (format style source).text ∧
      ((∀ style ∈ styles, style.indentFault? = none) →
        tryFormatChain source styles = .ok (formatChain source styles)) := by
  refine ⟨map_text_formatChain source styles, ?_, layOut_layOut style style source, ?_⟩
  · rw [← List.getLast?_map, map_text_formatChain, List.map_append, List.map_singleton,
      List.getLast?_concat]
    rfl
  · intro valid
    rw [tryFormatChain, forM_checkIndent_eq_ok valid]
    rfl

end ModuleGrammar
