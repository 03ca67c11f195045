/-
# Putting sources together

A comma between two sources, or square brackets around one, keep the lexemes of the sources: no
word reaches over punctuation, and only a colon changes what the words beside it are. If the
sources have no diagnostics then neither has the whole, and its layout is made of theirs.
-/
import ModuleGrammar.Proofs.Continuation
import ModuleGrammar.Proofs.Coverage
import ModuleGrammar.Proofs.Formatting
import ModuleGrammar.Proofs.Indentation

namespace ModuleGrammar

/-- Punctuation other than a colon does not change the lexemes of the words around it. -/
theorem Word.lexemesAll_append_symbol {c : Char} {kind : Token.Kind}
    (symbol : Token.Kind.ofSymbol? c = some kind) (other : c ≠ ':') (afterColon : Bool)
    (before after : List Text) :
    lexemesAll afterColon (before ++ [c] :: after) =
      lexemesAll afterColon before ++ ⟨kind, [c]⟩ :: lexemesAll false after := by
  induction before generalizing afterColon with
  | nil =>
      have noColon : ([c] == [':']) = false := by simpa using other
      simp only [List.nil_append, lexemesAll, lexemes, symbol, noColon]
      rfl
  | cons word rest ih =>
      have next : ((rest ++ [c] :: after).head? == some [':']) = (rest.head? == some [':']) := by
        cases rest <;> simp [other]
      rw [List.cons_append, lexemesAll, lexemesAll, next, ih, List.append_assoc]

/-- The lexemes around punctuation that is a word by itself. -/
theorem Token.lexemes_append_symbol {c : Char} {kind : Token.Kind}
    (symbol : Token.Kind.ofSymbol? c = some kind) (other : c ≠ ':') (before : Text) {after : Text}
    (alone : Word.ofText (c :: after) = [c] :: Word.ofText after) :
    Token.lexemes (before ++ c :: after) =
      Token.lexemes before ++ ⟨kind, [c]⟩ :: Token.lexemes after := by
  obtain ⟨-, name, multiplier⟩ := classes_of_ofSymbol? symbol
  rw [lexemes_eq_lexemesAll, Word.ofText_append_of_stops (Word.stops_cons name multiplier), alone,
    Word.lexemesAll_append_symbol symbol other, lexemes_eq_lexemesAll, lexemes_eq_lexemesAll]

theorem Token.lexemes_comma (first second : Text) :
    Token.lexemes (first ++ ',' :: second) =
      Token.lexemes first ++ .comma :: Token.lexemes second :=
  lexemes_append_symbol rfl (by decide) first
    (Word.ofText_cons_single (by decide) (by decide) (by decide) second)

theorem Token.lexemes_square (source : Text) :
    Token.lexemes ('[' :: (source ++ [']'])) =
      .opening .square :: (Token.lexemes source ++ [.closing .square]) := by
  have nothing : Token.lexemes [] = [] := lexemes_eq_lexemesAll []
  have opening : Word.ofText ('[' :: (source ++ [']'])) = ['['] :: Word.ofText (source ++ [']']) :=
    Word.ofText_cons_single (by decide) (by decide) (by decide) _
  have closing : Word.ofText [']'] = [']'] :: Word.ofText [] := by decide
  have inner := lexemes_append_symbol rfl (by decide) source closing
  have whole := lexemes_append_symbol rfl (by decide) [] opening
  rwa [inner, nothing] at whole

theorem Token.lineEnd_of_mem_lexemes (source : Text) :
    ∀ item ∈ Token.lexemes source, Layout.LineEnd item.text := by
  intro item member
  obtain ⟨token, found, rfl⟩ := List.mem_map.mp member
  obtain ⟨nonempty, nonblank⟩ := (Token.covers_scan source).text_nonblank token found
  exact .of_forall nonempty nonblank

theorem diagnose_eq_nil_iff (source : Text) :
    diagnose source = [] ↔
      Check.Clean .initial none (Token.lexemes source) ∧
        ∀ item ∈ Token.lexemes source, item.kind ≠ .error := by
  have lexical : Diagnostic.lexical (Token.scan source) = [] ↔
      ∀ item ∈ Token.lexemes source, item.kind ≠ .error := by
    simp [Diagnostic.lexical, Token.lexemes, Diagnostic.ofToken?]
  rw [diagnose, List.append_eq_nil_iff, Check.ofTokens_eq_nil_iff_clean, lexical, and_comm]
  rfl

open Layout
open ModuleGrammar.Tree (Detached nextKind)

/-- Lexemes that can be put together with others: they have no diagnostics, and the layout
writes a text for them at every level. -/
structure Part (style : Style) (items : List Lexeme) (text : Nat → Text) : Prop where
  nonempty : items ≠ []
  clean : Check.Clean .initial none items
  noError : ∀ item ∈ items, item.kind ≠ .error
  lays : Lays style Detached items text

namespace Part

variable {style : Style} {items others : List Lexeme} {text following : Nat → Text}

/-- A source with tokens and without diagnostics is a part. -/
theorem of_source {source : Text} (nonempty : Token.scan source ≠ [])
    (silent : diagnose source = []) : ∃ text, Part style (Token.lexemes source) text := by
  obtain ⟨clean, noError⟩ := (diagnose_eq_nil_iff source).mp silent
  have regular := Token.regularAll_lexemes source
  have lines := Token.lineEnd_of_mem_lexemes source
  have nonempty : Token.lexemes source ≠ [] := by simpa [Token.lexemes] using nonempty
  generalize Token.lexemes source = items at *
  cases items with
  | nil => exact absurd rfl nonempty
  | cons item rest =>
      obtain ⟨text, lays⟩ := (clean.derives regular noError).lays style lines
      exact ⟨text, nonempty, clean, noError, lays⟩

theorem comma (first : Part style items text) (second : Part style others following) :
    Part style (items ++ .comma :: others)
      fun level => text level ++ ',' :: '\n' :: following level where
  nonempty := by simp
  clean := first.clean.comma first.nonempty second.clean second.nonempty
  noError := by
    refine List.forall_mem_append.mpr ⟨first.noError, List.forall_mem_cons.mpr ⟨?_, second.noError⟩⟩
    simp
  lays := first.lays.comma second.lays

theorem square (content : Part style items text) :
    Part style (.opening .square :: (items ++ [.closing .square]))
      (enclosed style .square text) where
  nonempty := by simp
  clean := content.clean.square content.nonempty
  noError := by
    refine List.forall_mem_cons.mpr ⟨?_, List.forall_mem_append.mpr ⟨content.noError, ?_⟩⟩ <;> simp
  lays := (content.lays.enclose .square).alone

/-- Formatting a source that is a part gives its text at the outermost level. -/
theorem format_eq {source : Text} (part : Part style (Token.lexemes source) text)
    (trims : style.trimTrailingWhitespace = true) : format style source = ⟨text 0, []⟩ := by
  have written := part.lays.written 0 [] (by simp [Detached, nextKind])
  rw [List.append_nil] at written
  have laidOut : layOut style source = text 0 := by
    rw [layOut, render, renderFrom_eq_renderLexemes, ← Token.lexemes, written]
    exact (part.lays.tidy 0).cleanup_eq trims
  rw [format, laidOut, (diagnose_eq_nil_iff source).mpr ⟨part.clean, part.noError⟩]

end Part

/-- Formatting is compositional on sources without diagnostics. Behind a comma the layout of the
second source starts on a new line. Between square brackets every line of the layout is indented
by one unit, if a line starts after every opening bracket. -/
theorem format_composes {style : Style} (trims : style.trimTrailingWhitespace = true)
    {first : Text} {formatted : Formatted} (nonempty : Token.scan first ≠ [])
    (formats : tryFormat style first = .ok formatted) (silent : formatted.diagnostics = []) :
    (∀ (second : Text) (other : Formatted), Token.scan second ≠ [] →
      tryFormat style second = .ok other → other.diagnostics = [] →
        tryFormat style (first ++ ',' :: second) =
          .ok ⟨formatted.text ++ ",\n".toList ++ other.text, []⟩) ∧
    (style.insertNewlineAfterBrackets = true → style.insertNewlineBeforeBrackets = true →
      tryFormat style ('[' :: (first ++ [']'])) =
        .ok ⟨"[\n".toList ++ formatted.text.indentLines style.indentUnit ++ "\n]".toList, []⟩) := by
  obtain ⟨indents, rfl⟩ := tryFormat_eq_ok_iff.mp formats
  obtain ⟨text, part⟩ := Part.of_source nonempty silent
  rw [part.format_eq trims]
  constructor
  · intro second other secondNonempty secondFormats secondSilent
    obtain ⟨-, rfl⟩ := tryFormat_eq_ok_iff.mp secondFormats
    obtain ⟨following, secondPart⟩ := Part.of_source secondNonempty secondSilent
    have whole := part.comma secondPart
    rw [← Token.lexemes_comma] at whole
    rw [tryFormat_eq_ok_iff, whole.format_eq trims, secondPart.format_eq trims]
    exact ⟨indents, by simp⟩
  · intro afterBrackets beforeBrackets
    have breaks (shape : Bracket) : breaksAfter style shape = true := by
      cases shape <;> assumption
    have whole := part.square
    rw [← Token.lexemes_square] at whole
    rw [tryFormat_eq_ok_iff, whole.format_eq trims, enclosed, part.lays.deeper 0 breaks]
    exact ⟨indents, by simp [newlineIf, breaks, Style.indent, Bracket.openingText,
      Bracket.closingText]⟩

/-- Two sources outside of the documented grammar, with items side by side and a group in a
choice. -/
theorem format_composes_outside_grammar :
    let style : Style := { useTabs := true }
    let first := "a b2 [c]".toList
    let second := " \x7bd:1, [e]3\x7d* ".toList
    tryFormat style (first ++ ',' :: second) =
        .ok ⟨"a\nb2\n[\n\tc\n],\n\x7b\n\td: 1,\n\t[\n\t\te\n\t]3\n\x7d*".toList, []⟩ ∧
      tryFormat style ('[' :: (first ++ [']'])) =
        .ok ⟨"[\n\ta\n\tb2\n\t[\n\t\tc\n\t]\n]".toList, []⟩ := by
  intro style first second
  have formats : tryFormat style first = .ok ⟨"a\nb2\n[\n\tc\n]".toList, []⟩ := by decide +kernel
  have others : tryFormat style second =
      .ok ⟨"\x7b\n\td: 1,\n\t[\n\t\te\n\t]3\n\x7d*".toList, []⟩ := by decide +kernel
  obtain ⟨comma, square⟩ := format_composes rfl (by decide +kernel) formats rfl
  exact ⟨comma second _ (by decide +kernel) others rfl, square rfl rfl⟩

end ModuleGrammar
