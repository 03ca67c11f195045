/-
# The ranges of notices

A notice gives the text that a diagnostic covers as a range of the client. Its line is
counted in newlines, but the characters are counted in the line that has this number among
all lines of the document. The two are the same line if only newlines and carriage returns
in front of them break a line before the diagnostic. Then the range is that of the covered
text, in the code units of the client. Behind any other line break it can be off.
-/
import ModuleGrammar.Editor.Session
import ModuleGrammar.Proofs.Anchor

namespace ModuleGrammar

theorem CodeUnit.count_append (unit : CodeUnit) (text rest : Text) :
    unit.count (text ++ rest) = unit.count text + unit.count rest := by
  induction text with
  | nil => rw [List.nil_append, count, Nat.zero_add]
  | cons c text ih => rw [List.cons_append, count, count, ih, Nat.add_assoc]

/-- A column of a line that is there. -/
theorem Protocol.Point.ofColumn_eq {lines : List Text} {line : Nat} {text : Text}
    (found : lines[line]? = some text) (unit : CodeUnit) (column : Nat) :
    ofColumn unit lines line column = ⟨line, unit.count (text.take column)⟩ := by
  rw [ofColumn, found]

namespace Diagnostic.StandsAt

variable {diagnostic : Diagnostic} {source before margin covered after : Text}

theorem take_offset (stands : diagnostic.StandsAt source before margin covered after) :
    source.take diagnostic.offset.toNat = before ++ margin := by
  rw [stands.toNat_offset, stands.source_eq, List.append_assoc, List.take_left]

theorem count_newline (stands : diagnostic.StandsAt source before margin covered after) :
    (before ++ margin).count '\n' = before.count '\n' := by
  rw [List.count_append, List.count_eq_zero.mpr stands.newline_not_mem, Nat.add_zero]

/-- There are at least as many lines as newlines, and the line of a diagnostic is one more. -/
theorem exists_line (stands : diagnostic.StandsAt source before margin covered after) :
    ∃ shown, source.lines[before.count '\n']? = some shown := by
  have nonempty : margin ++ covered ++ after ≠ [] := by simp [stands.nonempty]
  have newlines := Text.count_newline_le_length_lines before
  have positive := List.length_pos_iff.mpr (Text.lines_ne_nil nonempty)
  have inside : before.count '\n' < source.lines.length := by
    rw [stands.source_eq_append, Text.lines_append stands.starts, List.length_append]
    omega
  exact ⟨_, List.getElem?_eq_getElem inside⟩

/-- The range of a diagnostic by the line that its characters are counted in. -/
theorem spanRange_eq (stands : diagnostic.StandsAt source before margin covered after)
    {shown : Text} (found : source.lines[before.count '\n']? = some shown) (unit : CodeUnit) :
    Editor.spanRange unit source diagnostic.offset diagnostic.length =
      ⟨⟨before.count '\n', unit.count (shown.take margin.length)⟩,
        ⟨before.count '\n', unit.count (shown.take (margin ++ covered).length)⟩⟩ := by
  simp only [Editor.spanRange, stands.resolve?_offset, stands.resolve?_stop, Option.getD_some,
    Nat.add_sub_cancel, Protocol.Point.ofColumn_eq found]

/-- The counted line starts with the margin and the covered text, if no other break stands
before the diagnostic. -/
theorem spanRange_of_plainBreaks (stands : diagnostic.StandsAt source before margin covered after)
    (plain : Text.PlainBreaks (before ++ margin)) (paired : Text.ReturnsPaired source)
    (unit : CodeUnit) :
    Editor.spanRange unit source diagnostic.offset diagnostic.length =
      ⟨⟨before.count '\n', unit.count margin⟩,
        ⟨before.count '\n', unit.count margin + unit.count covered⟩⟩ := by
  rw [stands.spanRange_eq (stands.getElem?_lines plain paired), List.take_left, List.append_assoc,
    List.take_left, CodeUnit.count_append]

end Diagnostic.StandsAt

namespace Editor

/-- A notice starts and ends on the line that the newlines before its diagnostic count, at the
columns that the diagnostic has in the source. Its characters are counted in the line of the
document with this number. If only newlines and carriage returns in front of them break a line
before the diagnostic, then the range starts behind the units of the margin and spans the
units of the covered text. -/
theorem notice_spans_covered (unit : CodeUnit) (style : Style) {source : Text}
    {diagnostic : Diagnostic} (found : diagnostic ∈ (format style source).diagnostics) :
    let front : Text := source.take diagnostic.offset.toNat
    let covered := slice source diagnostic.offset.toNat
      (diagnostic.offset + diagnostic.length).toNat
    let line := front.count '\n'
    let column := front.margin.length
    (∃ shown, source.lines[line]? = some shown ∧
      (noticeOf unit source diagnostic).range =
        ⟨⟨line, unit.count (shown.take column)⟩,
          ⟨line, unit.count (shown.take (column + diagnostic.length))⟩⟩) ∧
    (front.PlainBreaks → source.ReturnsPaired →
      (noticeOf unit source diagnostic).range =
        ⟨⟨line, unit.count front.margin⟩,
          ⟨line, unit.count front.margin + unit.count covered⟩⟩) := by
  intro front covered line column
  obtain ⟨before, margin, text, after, stands⟩ := Diagnostic.exists_standsAt found
  have front_eq : front = before ++ margin := stands.take_offset
  have margin_eq : front.margin = margin := by
    rw [front_eq, Text.margin_append stands.starts stands.newline_not_mem]
  have line_eq : line = before.count '\n' := by
    rw [← stands.count_newline, ← front_eq]
  have covered_eq : covered = text := stands.slice_eq
  constructor
  · obtain ⟨shown, present⟩ := stands.exists_line
    have range := stands.spanRange_eq present unit
    rw [List.length_append, ← stands.length_eq, ← margin_eq, ← line_eq] at range
    exact ⟨shown, line_eq ▸ present, range⟩
  · intro plain paired
    rw [front_eq] at plain
    rw [margin_eq, line_eq, covered_eq]
    exact stands.spanRange_of_plainBreaks plain paired unit

/-- The second of two characters that take two units each, in the second line. -/
theorem notice_spans_wide_character :
    (⟨.unexpectedCharacter "😀".toList, 4, 1⟩ : Diagnostic) ∈
        (format {} "a\r\n😀😀".toList).diagnostics ∧
      Text.PlainBreaks ("a\r\n😀😀".toList.take 4) ∧ Text.ReturnsPaired "a\r\n😀😀".toList ∧
      (noticeOf .utf16 "a\r\n😀😀".toList
        ⟨.unexpectedCharacter "😀".toList, 4, 1⟩).range = ⟨⟨1, 2⟩, ⟨1, 4⟩⟩ := by
  have found : (⟨.unexpectedCharacter "😀".toList, 4, 1⟩ : Diagnostic) ∈
      (format {} "a\r\n😀😀".toList).diagnostics := by decide +kernel
  have plain : Text.PlainBreaks ("a\r\n😀😀".toList.take 4) := by decide +kernel
  have paired : Text.ReturnsPaired "a\r\n😀😀".toList := by decide +kernel
  have range := (notice_spans_covered .utf16 {} found).2 plain paired
  exact ⟨found, plain, paired, range.trans (by decide +kernel)⟩

/-- A form feed ends the first line of the document, so the range is empty and stands in
front of the name. -/
theorem notice_misses_behind_formFeed :
    (⟨.unexpectedCharacter "$".toList, 3, 1⟩ : Diagnostic) ∈
        (format {} "\x0ca $".toList).diagnostics ∧
      Text.ReturnsPaired "\x0ca $".toList ∧
      (noticeOf .utf16 "\x0ca $".toList ⟨.unexpectedCharacter "$".toList, 3, 1⟩).range =
        ⟨⟨0, 1⟩, ⟨0, 1⟩⟩ ∧
      CodeUnit.utf16.count (Text.margin ("\x0ca $".toList.take 3)) = 3 ∧
      CodeUnit.utf16.count (slice "\x0ca $".toList 3 4) = 1 := by
  decide +kernel

end Editor

end ModuleGrammar
