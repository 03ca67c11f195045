/-
# The cleanup keeps the words

The cleanup removes newlines that follow a newline, blanks at the ends of lines and
blanks at the end of the text. Where it removes something between two words a blank
stays, so the words stay as they are.
-/
import ModuleGrammar.Layout.Cleanup
import ModuleGrammar.Proofs.Word

namespace ModuleGrammar.Layout

open Word

theorem ofText_trimEnd {p : Char → Bool} (blanks : ∀ c, p c = true → isBlank c = true)
    (text : Text) : ofText (text.trimEnd p) = ofText text := by
  have dropped : ∀ c ∈ (text.reverse.takeWhile p).reverse, isBlank c = true := by
    intro c member
    exact blanks c (List.mem_takeWhile_imp (List.mem_reverse.mp member))
  conv => rhs; rw [← Text.trimEnd_append p text]
  rw [ofText_append_blank dropped]

theorem ofText_trimBlankEnd (text : Text) : ofText text.trimBlankEnd = ofText text :=
  ofText_trimEnd (fun _ blank => blank) text

/-- The words of lines are the words of the text that the lines make up. -/
theorem ofText_join_newline (lines : List Text) :
    ofText (Text.join ['\n'] lines) = lines.flatMap ofText := by
  induction lines with
  | nil => rfl
  | cons line rest ih =>
      cases rest with
      | nil => simp [Text.join]
      | cons next rest =>
          rw [Text.join, List.intercalate_cons_cons, ← Text.join, List.append_assoc,
            List.singleton_append, ofText_append_cons_of_isBlank (by decide), ih]
          rfl

/-- A newline in front of a newline separates nothing more. The text before is there
for the induction: words reach over the place where the text is taken apart. -/
theorem ofText_append_collapseNewlines (before text : Text) :
    ofText (before ++ collapseNewlines text) = ofText (before ++ text) := by
  induction text generalizing before with
  | nil => rfl
  | cons c rest ih =>
      rw [collapseNewlines]
      split
      case isTrue repeated =>
        obtain ⟨rfl, next⟩ := repeated
        cases rest with
        | nil => cases next
        | cons d rest =>
            cases next
            rw [ih, ofText_append_cons_of_isBlank (by decide),
              ofText_append_cons_of_isBlank (by decide), ofText_cons_of_isBlank (by decide)]
      case isFalse kept =>
        have shifted := ih (before ++ [c])
        rwa [List.append_assoc, List.append_assoc] at shifted

theorem ofText_trimLines (text : Text) : ofText (trimLines text) = ofText text := by
  have lines : ofText text = (text.cut '\n').flatMap ofText := by
    conv => lhs; rw [← Text.join_cut '\n' text]
    exact ofText_join_newline _
  rw [trimLines, ofText_trimBlankEnd, ofText_join_newline, lines, List.flatMap_map]
  congr 1
  funext line
  exact ofText_trimBlankEnd line

theorem ofText_endWithNewline (text : Text) : ofText (endWithNewline text) = ofText text := by
  rw [endWithNewline]
  cases text with
  | nil => rfl
  | cons c rest =>
      rw [if_neg (by simp), ofText_append_blank (List.forall_mem_singleton.mpr (by decide))]
      apply ofText_trimEnd
      intro d newline
      rw [beq_iff_eq] at newline
      rw [newline]
      decide

/-- The cleanup keeps the words of every text, in every style. -/
theorem ofText_cleanup (style : Style) (text : Text) :
    ofText (cleanup style text) = ofText text := by
  have collapsed : ofText (collapseNewlines text) = ofText text :=
    ofText_append_collapseNewlines [] text
  rw [cleanup]
  split
  · rw [ofText_trimLines, collapsed]
  · split
    · rw [ofText_endWithNewline, collapsed]
    · exact collapsed

end ModuleGrammar.Layout
