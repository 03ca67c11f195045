/-
# Excerpts underline what they are about

The two last rows of an excerpt are the line of a diagnostic and the carets under it. The
line number comes from newlines and the line from all line breaks, so the source must have
no other breaks. Then the carets stand under the text that the diagnostic covers, and there
are as many of them as it has characters.
-/
import ModuleGrammar.Diagnostic.Excerpt
import ModuleGrammar.Proofs.Anchor

namespace ModuleGrammar

namespace Excerpt

open Text

/-- The line with an index is shown without what ends it. -/
theorem line_eq {source line terminator rest : Text} {index : Nat}
    (found : source.lines[index]? = some (line ++ terminator))
    (inside : ∀ c ∈ line, isLineBreak c = false) (ends : LineEnd terminator rest) :
    Excerpt.line source (index + 1) = line := by
  have kept {c : Char} (isbreak : isLineBreak c = true) : trimEnd (· == c) line = line := by
    apply trimEnd_eq_self
    intro d last
    rw [beq_eq_false_iff_ne]
    rintro rfl
    rw [inside d (List.mem_of_getLast? last)] at isbreak
    cases isbreak
  have newline := kept (c := '\n') (by decide)
  have return_ := kept (c := '\r') (by decide)
  simp only [Excerpt.line, Nat.add_sub_cancel, found]
  cases ends with
  | newline => rw [trimEnd_append_of_forall (by simp), newline, return_]
  | pair =>
      have divided : line ++ ['\r', '\n'] = line ++ ['\r'] ++ ['\n'] := by
        rw [List.append_assoc, List.singleton_append]
      have first : trimEnd (· == '\n') (line ++ ['\r', '\n']) = line ++ ['\r'] := by
        rw [divided, trimEnd_append_of_forall (by simp)]
        exact trimEnd_eq_self (by simp)
      rw [first, trimEnd_append_of_forall (by simp), return_]
  | finish => rw [List.append_nil, newline, return_]

theorem caretCount_eq {line : Text} {margin length : Nat} (positive : 1 ≤ length)
    (fits : margin + length ≤ line.length) : caretCount line (margin + 1) length = length := by
  rw [caretCount]
  omega

/-- The rows of an excerpt above the line that it shows. -/
def heading (message filename : Text) (position : Position) : Text :=
  let number := Text.ofNat position.line
  let gutter := List.replicate (number.length + 1) ' '
  "error: ".toList ++ message ++ '\n' ::
    gutter ++ "--> ".toList ++ filename ++ ':' :: number ++ ':' ::
    Text.ofNat position.column ++ '\n' :: gutter ++ ['|']

/-- What stands in front of the line in its row. -/
def numberGutter (position : Position) : Text :=
  Text.ofNat position.line ++ [' ', '|']

/-- What stands in front of the carets in their row. -/
def blankGutter (position : Position) : Text :=
  List.replicate ((Text.ofNat position.line).length + 1) ' ' ++ ['|']

theorem length_numberGutter (position : Position) :
    (numberGutter position).length = (blankGutter position).length := by
  simp [numberGutter, blankGutter]

theorem newline_not_mem_numberGutter (position : Position) : '\n' ∉ numberGutter position := by
  intro member
  rcases List.mem_append.mp member with digit | mark
  · exact absurd (Nat.isDigit_of_mem_toDigits (by decide) (by decide) digit) (by decide)
  · exact absurd mark (by decide)

/-- The rows of an excerpt: those of its heading, the line and the carets. -/
theorem cut_render {source : Text} {offset : Int} {position : Position}
    (resolved : Position.resolve? source offset = some position)
    (inside : '\n' ∉ Excerpt.line source position.line) (message filename : Text) (length : Int) :
    (render message offset length source filename).cut '\n' =
      (heading message filename position).cut '\n' ++
        [numberGutter position ++ ' ' :: Excerpt.line source position.line,
          blankGutter position ++ ' ' :: (List.replicate (position.column - 1) ' ' ++
            List.replicate (caretCount (Excerpt.line source position.line) position.column length)
              '^')] := by
  have rows : render message offset length source filename =
      heading message filename position ++ '\n' ::
        (numberGutter position ++ ' ' :: Excerpt.line source position.line ++ '\n' ::
          (blankGutter position ++ ' ' :: (List.replicate (position.column - 1) ' ' ++
            List.replicate (caretCount (Excerpt.line source position.line) position.column length)
              '^'))) := by
    have above : "|\n".toList = ['|', '\n'] := rfl
    have beside : " | ".toList = [' ', '|', ' '] := rfl
    have below : "| ".toList = ['|', ' '] := rfl
    unfold render heading numberGutter blankGutter
    rewrite [resolved, above, beside, below]
    simp only [List.append_assoc, List.cons_append, List.nil_append]
  have lineRow : '\n' ∉ numberGutter position ++ ' ' :: Excerpt.line source position.line := by
    simp [newline_not_mem_numberGutter, inside]
  have caretRow : '\n' ∉ blankGutter position ++ ' ' ::
      (List.replicate (position.column - 1) ' ' ++ List.replicate
        (caretCount (Excerpt.line source position.line) position.column length) '^') := by
    simp [blankGutter]
  rw [rows, cut_append_separator, cut_append_separator, cut_of_not_mem lineRow,
    cut_of_not_mem caretRow, List.singleton_append]

end Excerpt

namespace Diagnostic

open Text

/-- The last two rows of the excerpt of a diagnostic, whose line goes on with `tail`. -/
theorem StandsAt.cut_excerpt {diagnostic : Diagnostic}
    {source before margin covered tail terminator rest : Text}
    (stands : diagnostic.StandsAt source before margin covered (tail ++ (terminator ++ rest)))
    (front : PlainBreaks (before ++ margin)) (paired : ReturnsPaired source)
    (inside : ∀ c ∈ margin ++ covered ++ tail, isLineBreak c = false)
    (ends : LineEnd terminator rest) (filename : Text) :
    ∃ rows position, (diagnostic.excerpt source filename).cut '\n' =
      rows ++ [Excerpt.numberGutter position ++ ' ' :: (margin ++ covered ++ tail),
        Excerpt.blankGutter position ++ ' ' :: (List.replicate margin.length ' ' ++
          List.replicate diagnostic.length '^')] := by
  have shown : Excerpt.line source (before.count '\n' + 1) = margin ++ covered ++ tail := by
    have found := stands.getElem?_lines front paired
    rw [headD_lines_append (fun c member => inside c (List.mem_append_right _ member)),
      ends.headD_lines, ← List.append_assoc] at found
    exact Excerpt.line_eq found inside ends
  have newline : '\n' ∉ margin ++ covered ++ tail := by
    intro member
    exact absurd (inside _ member) (by decide)
  have carets : Excerpt.caretCount (margin ++ covered ++ tail) (margin.length + 1)
      diagnostic.length = diagnostic.length := by
    have positive := List.length_pos_iff.mpr stands.nonempty
    rw [stands.length_eq]
    exact Excerpt.caretCount_eq positive (by simp)
  have rows := Excerpt.cut_render stands.resolve?_offset (shown ▸ newline) diagnostic.message
    filename diagnostic.length
  rw [shown, carets] at rows
  exact ⟨_, _, rows⟩

end Diagnostic

/-- If newlines and carriage returns in front of them are the only line breaks of a source,
then the excerpt of a diagnostic ends with the whole line that the diagnostic is in and with
carets below the characters that it covers, one for each of them. The line and the carets
stand behind gutters of the same width. -/
theorem excerpt_underlines_covered (style : Style) {source : Text}
    (plain : source.PlainBreaks) (paired : source.ReturnsPaired) {diagnostic : Diagnostic}
    (found : diagnostic ∈ (format style source).diagnostics) (filename : Text) :
    ∃ rows numberGutter blankGutter line start,
      (diagnostic.excerpt source filename).cut '\n' =
        rows ++ [numberGutter ++ ' ' :: line,
          blankGutter ++ ' ' :: (List.replicate (diagnostic.offset.toNat - start) ' ' ++
            List.replicate diagnostic.length '^')] ∧
      numberGutter.length = blankGutter.length ∧
      source.IsLine start line ∧ start ≤ diagnostic.offset.toNat ∧
      diagnostic.offset.toNat + diagnostic.length ≤ start + line.length ∧
      Editor.slice line (diagnostic.offset.toNat - start)
          (diagnostic.offset.toNat - start + diagnostic.length) =
        Editor.slice source diagnostic.offset.toNat
          (diagnostic.offset + diagnostic.length).toNat := by
  obtain ⟨before, margin, covered, after, stands⟩ := Diagnostic.exists_standsAt found
  have source_eq := stands.source_eq
  have ⟨front, back⟩ : (before ++ margin).PlainBreaks ∧ after.PlainBreaks := by
    rw [source_eq, Text.plainBreaks_append, Text.plainBreaks_append] at plain
    exact ⟨plain.1.1, plain.2⟩
  have backPaired : after.ReturnsPaired := by
    rw [source_eq] at paired
    exact paired.of_append_right
  obtain ⟨tail, terminator, rest, rfl, behind, ends⟩ := Text.exists_lineEnd back backPaired
  rw [List.append_assoc] at stands source_eq
  have inside : ∀ c ∈ margin ++ covered ++ tail, isLineBreak c = false := by
    intro c member
    rcases List.mem_append.mp member with member | member
    · exact stands.inside front paired c member
    · exact behind c member
  obtain ⟨rows, position, cut⟩ := stands.cut_excerpt front paired inside ends filename
  have column : diagnostic.offset.toNat - before.length = margin.length := by
    rw [stands.offset_eq]
    omega
  have isLine : source.IsLine before.length (margin ++ covered ++ tail) := by
    refine ⟨before, terminator, rest, ?_, rfl, stands.starts, inside, ends⟩
    rw [source_eq]
    simp only [List.append_assoc]
  refine ⟨rows, _, _, margin ++ covered ++ tail, before.length, ?_,
    Excerpt.length_numberGutter position, isLine, ?_, ?_, ?_⟩
  · rw [column]
    exact cut
  · rw [stands.offset_eq]
    omega
  · rw [stands.offset_eq, stands.length_eq, List.length_append, List.length_append]
    omega
  · rw [column, stands.slice_eq, stands.length_eq, Editor.slice, ← List.length_append,
      List.take_left, List.drop_left]

/-- The multiplier `00` in the second line of a source is underlined by two carets. -/
theorem excerpt_underlines_zero_multiplier :
    Text.PlainBreaks "[a,\r\n b]00\n".toList ∧ Text.ReturnsPaired "[a,\r\n b]00\n".toList ∧
      ⟨.invalidMultiplier "00".toList, 8, 2⟩ ∈ (format {} "[a,\r\n b]00\n".toList).diagnostics ∧
      ∃ rows numberGutter blankGutter line start,
        (Diagnostic.excerpt ⟨.invalidMultiplier "00".toList, 8, 2⟩ "[a,\r\n b]00\n".toList
            "a.pcg".toList).cut '\n' =
          rows ++ [numberGutter ++ ' ' :: line,
            blankGutter ++ ' ' :: (List.replicate (8 - start) ' ' ++ List.replicate 2 '^')] ∧
        numberGutter.length = blankGutter.length ∧
        Text.IsLine "[a,\r\n b]00\n".toList start line ∧ start ≤ 8 ∧
        Editor.slice line (8 - start) (8 - start + 2) = "00".toList := by
  have plain : Text.PlainBreaks "[a,\r\n b]00\n".toList := by decide +kernel
  have paired : Text.ReturnsPaired "[a,\r\n b]00\n".toList := by decide +kernel
  have found : ⟨.invalidMultiplier "00".toList, 8, 2⟩ ∈
      (format {} "[a,\r\n b]00\n".toList).diagnostics := by decide +kernel
  have covered : Editor.slice "[a,\r\n b]00\n".toList 8 10 = "00".toList := by decide +kernel
  obtain ⟨rows, numberGutter, blankGutter, line, start, cut, width, isLine, first, -, slice⟩ :=
    excerpt_underlines_covered {} plain paired found "a.pcg".toList
  exact ⟨plain, paired, found, rows, numberGutter, blankGutter, line, start, cut, width, isLine,
    first, slice.trans covered⟩

end ModuleGrammar
