/-
# Tidy texts

A tidy text has at least one line, and none of its lines is empty or ends with a blank.
This is what the cleanup makes of a text when it trims, so it has nothing to do on a tidy
text but to take the newline away that may stand at its end.
-/
import ModuleGrammar.Layout.Cleanup
import ModuleGrammar.Proofs.Text

namespace ModuleGrammar.Layout

/-- The last character of a text is not blank. -/
def EndsNonblank (text : Text) : Prop :=
  ∃ c ∈ text.getLast?, isBlank c = false

theorem EndsNonblank.append {text : Text} (ends : EndsNonblank text) (start : Text) :
    EndsNonblank (start ++ text) := by
  obtain ⟨c, last, nonblank⟩ := ends
  refine ⟨c, ?_, nonblank⟩
  rw [List.getLast?_append, Option.mem_def.mp last]
  rfl

theorem EndsNonblank.trimBlankEnd_eq {text : Text} (ends : EndsNonblank text) :
    text.trimBlankEnd = text := by
  obtain ⟨c, last, nonblank⟩ := ends
  apply Text.trimEnd_eq_self
  intro other same
  rwa [Option.mem_unique same last]

/-- A piece of a line that can be its end. -/
structure LineEnd (text : Text) : Prop where
  noNewline : '\n' ∉ text
  nonblank : EndsNonblank text

/-- A text of lines that are not empty and do not end with a blank. -/
inductive Tidy : Text → Prop
  | line {text : Text} (line : LineEnd text) : Tidy text
  | cons {text others : Text} (line : LineEnd text) (tidy : Tidy others) :
      Tidy (text ++ '\n' :: others)

namespace LineEnd

/-- A line may start with anything but a newline. -/
theorem append {start text : Text} (noNewline : '\n' ∉ start) (line : LineEnd text) :
    LineEnd (start ++ text) :=
  ⟨by simp [noNewline, line.noNewline], line.nonblank.append start⟩

/-- Characters that are not blank make up a line. -/
theorem of_forall {text : Text} (nonempty : text ≠ []) (nonblank : ∀ c ∈ text, isBlank c = false) :
    LineEnd text := by
  refine ⟨fun newline => ?_, text.getLast nonempty, List.getLast_mem_getLast? nonempty,
    nonblank _ (List.getLast_mem nonempty)⟩
  have blank := nonblank '\n' newline
  cases blank

theorem ne_nil {text : Text} (line : LineEnd text) : text ≠ [] := by
  rintro rfl
  obtain ⟨c, last, -⟩ := line.nonblank
  cases last

end LineEnd

namespace Tidy

/-- The last line of a tidy text can be continued. -/
theorem append {text ending : Text} (tidy : Tidy text) (line : LineEnd ending) :
    Tidy (text ++ ending) := by
  induction tidy with
  | line first => exact .line (line.append first.noNewline)
  | cons first _ ih =>
      rw [List.append_assoc]
      exact .cons first ih

/-- Tidy texts can be put below each other. -/
theorem stack {text others : Text} (tidy : Tidy text) (next : Tidy others) :
    Tidy (text ++ '\n' :: others) := by
  induction tidy with
  | line first => exact .cons first next
  | cons first _ ih =>
      rw [List.append_assoc]
      exact .cons first ih

theorem head?_ne_newline {text : Text} (tidy : Tidy text) (rest : Text) :
    (text ++ rest).head? ≠ some '\n' := by
  have first {line : Text} (h : LineEnd line) (rest : Text) : (line ++ rest).head? ≠ some '\n' := by
    cases line with
    | nil => exact absurd rfl h.ne_nil
    | cons c line =>
        rintro ⟨rfl⟩
        exact h.noNewline List.mem_cons_self
  cases tidy with
  | line h => exact first h rest
  | cons h tidy =>
      rw [List.append_assoc]
      exact first h _

end Tidy

theorem collapseNewlines_append {line : Text} (noNewline : '\n' ∉ line) (rest : Text) :
    collapseNewlines (line ++ rest) = line ++ collapseNewlines rest := by
  induction line with
  | nil => rfl
  | cons c line ih =>
      rw [List.mem_cons, not_or] at noNewline
      rw [List.cons_append, collapseNewlines, if_neg (fun h => noNewline.1 h.1.symm),
        ih noNewline.2, List.cons_append]

theorem collapseNewlines_newline {rest : Text} (other : rest.head? ≠ some '\n') :
    collapseNewlines ('\n' :: rest) = '\n' :: collapseNewlines rest := by
  rw [collapseNewlines, if_neg (fun h => other h.2)]

/-- A tidy text has no newline too many, also if one stands at its end. -/
theorem Tidy.collapseNewlines_eq {text : Text} (tidy : Tidy text) :
    collapseNewlines (text ++ ['\n']) = text ++ ['\n'] := by
  induction tidy with
  | line line => rw [collapseNewlines_append line.noNewline]; rfl
  | cons line tidy ih =>
      rw [List.append_assoc, collapseNewlines_append line.noNewline, List.cons_append,
        collapseNewlines_newline (tidy.head?_ne_newline _), ih]

/-- No line of a tidy text has blanks at its end. -/
theorem Tidy.trimBlankEnd_of_mem_cut {text : Text} (tidy : Tidy text) :
    ∀ line ∈ (text ++ ['\n']).cut '\n', line.trimBlankEnd = line := by
  induction tidy with
  | line first =>
      rw [Text.cut_append_cons first.noNewline]
      intro line member
      rcases List.mem_cons.mp member with rfl | member
      · exact first.nonblank.trimBlankEnd_eq
      · rw [List.mem_singleton.mp member]
        rfl
  | cons first _ ih =>
      rw [List.append_assoc, List.cons_append, Text.cut_append_cons first.noNewline]
      intro line member
      rcases List.mem_cons.mp member with rfl | member
      · exact first.nonblank.trimBlankEnd_eq
      · exact ih line member

theorem Tidy.endsNonblank {text : Text} (tidy : Tidy text) : EndsNonblank text := by
  induction tidy with
  | line line => exact line.nonblank
  | cons line _ ih =>
      rw [← List.singleton_append, ← List.append_assoc]
      exact ih.append _

/-- The cleanup takes the newline behind a tidy text away, if it trims. -/
theorem Tidy.cleanup_eq {style : Style} (trims : style.trimTrailingWhitespace = true) {text : Text}
    (tidy : Tidy text) : cleanup style (text ++ ['\n']) = text := by
  have lines : ((text ++ ['\n']).cut '\n').map Text.trimBlankEnd = (text ++ ['\n']).cut '\n' :=
    (List.map_congr_left tidy.trimBlankEnd_of_mem_cut).trans (List.map_id _)
  have newline : ∀ c ∈ ['\n'], isBlank c = true := List.forall_mem_singleton.mpr (by decide)
  rw [cleanup, if_pos trims, tidy.collapseNewlines_eq, trimLines, lines, Text.join_cut,
    Text.trimBlankEnd, Text.trimEnd_append_of_forall newline]
  exact tidy.endsNonblank.trimBlankEnd_eq

end ModuleGrammar.Layout
