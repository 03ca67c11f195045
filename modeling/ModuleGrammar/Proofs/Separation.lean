/-
# Blanks only separate

The chunks of a text are its maximal runs of characters that are not blank. A chunk can hold many
lexemes, and what a lexeme is can depend on the chunks around it: the digits at the end of a name
stay with the name if the next chunk starts with a colon. But which blanks stand between two
chunks, and how many, makes no difference to anything that is found in a source or made of it.
-/
import ModuleGrammar.Proofs.Finding

namespace ModuleGrammar

namespace Text

/-- The maximal runs of characters of a text that are not blank, in their order. -/
def chunks (text : Text) : List Text :=
  (text.splitOnP ModuleGrammar.isBlank).filter (!·.isEmpty)

end Text

namespace Word

/-- Words do not reach over blanks. The text before, which has no blanks, is there for the
induction. -/
theorem flatMap_ofText_splitOnP (before : Text) (nonblank : ∀ c ∈ before, isBlank c = false)
    (text : Text) :
    ((before ++ text).splitOnP isBlank).flatMap ofText = ofText (before ++ text) := by
  induction text generalizing before with
  | nil => rw [List.append_nil, List.splitOnP_eq_singleton nonblank, List.flatMap_singleton]
  | cons c rest ih =>
      cases blank : isBlank c with
      | true =>
          have later := ih [] (List.forall_mem_nil _)
          rw [List.nil_append] at later
          rw [List.splitOnP_append_cons before rest blank, List.flatMap_append, later,
            List.splitOnP_eq_singleton nonblank, List.flatMap_singleton,
            ofText_append_cons_of_isBlank blank]
      | false =>
          have still : ∀ d ∈ before ++ [c], isBlank d = false :=
            List.forall_mem_append.mpr ⟨nonblank, List.forall_mem_singleton.mpr blank⟩
          have longer := ih (before ++ [c]) still
          rwa [List.append_assoc] at longer

theorem flatMap_ofText_filter (parts : List Text) :
    (parts.filter (!·.isEmpty)).flatMap ofText = parts.flatMap ofText := by
  induction parts with
  | nil => rfl
  | cons part rest ih => cases part <;> simp [ih]

/-- The words of a text are the words of its chunks. -/
theorem ofText_eq_flatMap_chunks (text : Text) : ofText text = text.chunks.flatMap ofText := by
  rw [Text.chunks, flatMap_ofText_filter]
  exact (flatMap_ofText_splitOnP [] (List.forall_mem_nil _) text).symm

end Word

/-- Formatting a source with the contents of its diagnostics, or why the style is refused. -/
def formatContent (style : Style) (source : Text) :
    Except IndentFault (Text × List (Text × Category × Nat)) :=
  (tryFormat style source).map fun formatted =>
    (formatted.text, formatted.diagnostics.map Diagnostic.content)

/-- Two sources with the same chunks have the same lexemes. In every style they have the same
layout and diagnostics of the same content, in the same order. A style whose indentation cannot
be made is refused for both. -/
theorem format_depends_on_chunks (first second : Text) (same : first.chunks = second.chunks) :
    Token.lexemes first = Token.lexemes second ∧
      ∀ style, (format style first).text = (format style second).text ∧
        (format style first).diagnostics.map Diagnostic.content =
          (format style second).diagnostics.map Diagnostic.content ∧
        formatContent style first = formatContent style second := by
  have words : Word.ofText first = Word.ofText second := by
    rw [Word.ofText_eq_flatMap_chunks, same, ← Word.ofText_eq_flatMap_chunks]
  have lexemes := (Token.lexemes_eq_iff first second).mpr words
  refine ⟨lexemes, fun style => ?_⟩
  have text : (format style first).text = (format style second).text :=
    layOut_eq_of_lexemes_eq lexemes style
  have content : (format style first).diagnostics.map Diagnostic.content =
      (format style second).diagnostics.map Diagnostic.content := map_content_diagnose_eq lexemes
  refine ⟨text, content, ?_⟩
  rw [formatContent, formatContent, tryFormat, tryFormat]
  cases style.checkIndent with
  | error fault => rfl
  | ok _ => exact congrArg Except.ok (Prod.ext text content)

/-- A name keeps its digit in front of a colon behind any blanks, and a blank behind a bracket
makes a numeral a name. -/
theorem format_depends_on_chunks_wide :
    let first : Text := "room1\u3000\t:5 ]\r\n3 $".toList
    let second : Text := "\x0c room1 :5\n]  3\n\n$ ".toList
    first.chunks = second.chunks ∧ Token.lexemes first = Token.lexemes second ∧
      Token.lexemes first = [⟨.name, "room1".toList⟩, ⟨.colon, [':']⟩, ⟨.weight, ['5']⟩,
        ⟨.closing .square, [']']⟩, ⟨.name, ['3']⟩, ⟨.error, ['$']⟩] ∧
      (format {} first).text = (format {} second).text := by
  intro first second
  have same : first.chunks = second.chunks := by decide +kernel
  obtain ⟨lexemes, formats⟩ := format_depends_on_chunks first second same
  exact ⟨same, lexemes, by decide +kernel, (formats {}).1⟩

end ModuleGrammar
