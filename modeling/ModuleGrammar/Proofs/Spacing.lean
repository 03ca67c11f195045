/-
# The blanks of a layout

The layout writes spaces, tabs and newlines and no other blanks, whatever blanks the source
has. The cleanup only removes characters, apart from a newline that it may put at the end. In
particular no layout holds a carriage return, so the convention for newlines that is applied
when a file is read does not change a layout that was written to it.
-/
import ModuleGrammar.Grammar
import ModuleGrammar.Text.Line
import ModuleGrammar.Proofs.Coverage
import ModuleGrammar.Proofs.Text

namespace ModuleGrammar

/-- The blanks that the layout writes. -/
def IsSpacing (c : Char) : Prop :=
  c = ' ' ∨ c = '\t' ∨ c = '\n'

namespace Text

theorem trimEnd_sublist (p : Char → Bool) (text : Text) : (trimEnd p text).Sublist text := by
  conv => rhs; rw [← trimEnd_append p text]
  exact List.sublist_append_left _ _

/-- Parts that lose characters make up a text that loses them. -/
theorem join_map_sublist (separator : Text) {f : Text → Text}
    (loses : ∀ part, (f part).Sublist part) (parts : List Text) :
    (join separator (parts.map f)).Sublist (join separator parts) := by
  induction parts with
  | nil => exact List.Sublist.refl _
  | cons part rest ih =>
      cases rest with
      | nil => simpa [join] using loses part
      | cons next rest =>
          rw [join, join, List.map_cons, List.map_cons, List.intercalate_cons_cons,
            List.intercalate_cons_cons, ← List.map_cons]
          exact ((loses part).append (List.Sublist.refl separator)).append ih

theorem unifyBreaks_eq_self {text : Text} (absent : '\r' ∉ text) : text.unifyBreaks = text := by
  have contracted : text.contractBreaks = text := by
    fun_induction contractBreaks text with
    | case1 => rfl
    | case2 rest ih => simp at absent
    | case3 c rest unpaired ih =>
        rw [List.mem_cons, not_or] at absent
        rw [ih absent.2]
  rw [unifyBreaks, contracted]
  refine (List.map_congr_left fun c member => if_neg ?_).trans (List.map_id _)
  rintro rfl
  exact absent member

end Text

namespace Layout

theorem collapseNewlines_sublist (text : Text) : (collapseNewlines text).Sublist text := by
  induction text with
  | nil => exact List.Sublist.refl _
  | cons c rest ih =>
      rw [collapseNewlines]
      split
      · exact ih.cons c
      · exact ih.cons_cons c

theorem trimLines_sublist (text : Text) : (trimLines text).Sublist text := by
  have trimmed := Text.join_map_sublist ['\n'] (Text.trimEnd_sublist isBlank) (text.cut '\n')
  rw [Text.join_cut] at trimmed
  exact (Text.trimEnd_sublist isBlank _).trans trimmed

/-- The cleanup adds nothing but a newline. -/
theorem mem_of_mem_cleanup {style : Style} {text : Text} {c : Char}
    (member : c ∈ cleanup style text) : c ∈ text ∨ c = '\n' := by
  rw [cleanup] at member
  have collapsed := (collapseNewlines_sublist text).subset
  split at member
  · exact .inl (collapsed ((trimLines_sublist _).subset member))
  · split at member
    · rw [endWithNewline] at member
      split at member
      · cases member
      · rcases List.mem_append.mp member with kept | added
        · exact .inl (collapsed ((Text.trimEnd_sublist _ _).subset kept))
        · exact .inr (List.mem_singleton.mp added)
    · exact .inl (collapsed member)

theorem isSpacing_of_mem_indent {style : Style} {level : Nat} {c : Char}
    (member : c ∈ style.indent level) : IsSpacing c := by
  induction level with
  | zero => cases member
  | succ level ih =>
      rcases List.mem_append.mp member with unit | others
      · rw [Style.indentUnit] at unit
        split at unit
        · exact .inr (.inl (List.mem_singleton.mp unit))
        · exact .inl (List.mem_replicate.mp unit).2
      · exact ih others

theorem isSpacing_of_mem_newlineIf {condition : Bool} {c : Char}
    (member : c ∈ newlineIf condition) : IsSpacing c := by
  cases condition with
  | false => cases member
  | true => exact .inr (.inr (List.mem_singleton.mp member))

/-- A token is written with its own text, a comma or a colon, and spacing around it. -/
theorem mem_piece {style : Style} {level : Nat} {next : Option Token.Kind} {token : Token}
    {c : Char} (member : c ∈ piece style level next token) :
    c ∈ token.text ∨ isBlank c = false ∨ IsSpacing c := by
  have framed {indentation ending : Text} (before : ∀ c ∈ indentation, IsSpacing c)
      (behind : ∀ c ∈ ending, IsSpacing c) (member : c ∈ indentation ++ token.text ++ ending) :
      c ∈ token.text ∨ isBlank c = false ∨ IsSpacing c := by
    rcases List.mem_append.mp member with front | back
    · rcases List.mem_append.mp front with spacing | text
      · exact .inr (.inr (before c spacing))
      · exact .inl text
    · exact .inr (.inr (behind c back))
  have indentation (level : Nat) : ∀ c ∈ style.indent level, IsSpacing c :=
    fun _ => isSpacing_of_mem_indent
  have newline (condition : Bool) : ∀ c ∈ newlineIf condition, IsSpacing c :=
    fun _ => isSpacing_of_mem_newlineIf
  rw [piece] at member
  split at member
  · exact framed (indentation _) (newline _) member
  · exact framed (indentation _) (newline _) member
  · exact framed (indentation 0) (newline _) member
  · exact framed (indentation 0) (newline _) member
  · rcases List.mem_cons.mp member with rfl | member
    · exact .inr (.inl (by decide))
    · exact .inr (.inr (.inr (.inr (List.mem_singleton.mp member))))
  · rcases List.mem_cons.mp member with rfl | member
    · exact .inr (.inl (by decide))
    · exact .inr (.inr (.inl (List.mem_singleton.mp member)))
  · exact framed (indentation _) (newline _) member
  · exact .inl member

theorem mem_renderFrom {style : Style} {level : Nat} {tokens : List Token} {c : Char}
    (member : c ∈ renderFrom style level tokens) :
    (∃ token ∈ tokens, c ∈ token.text) ∨ isBlank c = false ∨ IsSpacing c := by
  induction tokens generalizing level with
  | nil => cases member
  | cons token rest ih =>
      rcases List.mem_append.mp member with here | later
      · rcases mem_piece here with text | other
        · exact .inl ⟨token, List.mem_cons_self, text⟩
        · exact .inr other
      · rcases ih later with ⟨found, inside, text⟩ | other
        · exact .inl ⟨found, List.mem_cons_of_mem token inside, text⟩
        · exact .inr other

end Layout

/-- All blanks of a layout are spaces, tabs and newlines. -/
theorem isSpacing_of_mem_layOut {style : Style} {source : Text} {c : Char}
    (member : c ∈ layOut style source) (blank : isBlank c = true) : IsSpacing c := by
  rcases Layout.mem_of_mem_cleanup member with rendered | newline
  · rcases Layout.mem_renderFrom rendered with ⟨token, inside, text⟩ | nonblank | spacing
    · have nonblank := ((Token.covers_scan source).text_nonblank token inside).2 c text
      rw [blank] at nonblank
      cases nonblank
    · rw [blank] at nonblank
      cases nonblank
    · exact spacing
  · exact .inr (.inr newline)

theorem return_not_mem_layOut (style : Style) (source : Text) : '\r' ∉ layOut style source := by
  intro member
  have other : ¬ IsSpacing '\r' := by simp [IsSpacing]
  exact other (isSpacing_of_mem_layOut member (by decide))

/-- A layout is read from a file as it was written there. -/
theorem unifyBreaks_layOut (style : Style) (source : Text) :
    (layOut style source).unifyBreaks = layOut style source :=
  Text.unifyBreaks_eq_self (return_not_mem_layOut style source)

end ModuleGrammar
