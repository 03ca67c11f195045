/-
# Laws of texts

Runs at the start of a text, trimming its end, and cutting it into parts. Joining
undoes cutting, and trimming drops nothing but what it is told to drop.
-/
import Mathlib.Data.List.TakeWhile
import ModuleGrammar.Text.Basic

namespace ModuleGrammar.Text

/-- A run ends where a text follows whose first character does not continue it. -/
theorem takeWhile_append_of_head {p : Char → Bool} {rest : Text}
    (stop : ∀ c ∈ rest.head?, p c = false) (text : Text) :
    (text ++ rest).takeWhile p = text.takeWhile p := by
  induction text with
  | nil =>
      cases rest with
      | nil => rfl
      | cons c rest => simp [stop c (by simp)]
  | cons c text ih =>
      rw [List.cons_append, List.takeWhile_cons, List.takeWhile_cons, ih]

theorem drop_length_takeWhile (p : Char → Bool) (text : Text) :
    text.drop (text.takeWhile p).length = text.dropWhile p := by
  induction text with
  | nil => rfl
  | cons c rest ih => cases pc : p c <;> simp [pc, ih]

/-- A text starts with a run, and what follows does not continue it. -/
theorem exists_run (p : Char → Bool) (text : Text) :
    ∃ run rest, text = run ++ rest ∧ (∀ c ∈ run, p c = true) ∧
      ∀ c ∈ rest.head?, p c = false := by
  refine ⟨text.takeWhile p, text.dropWhile p, List.takeWhile_append_dropWhile.symm,
    fun c member => List.mem_takeWhile_imp member, fun c first => ?_⟩
  have stop := List.head?_dropWhile_not p text
  rw [Option.mem_def.mp first] at stop
  exact stop

/-- What trimming drops. -/
theorem trimEnd_append (p : Char → Bool) (text : Text) :
    trimEnd p text ++ (text.reverse.takeWhile p).reverse = text := by
  rw [trimEnd, ← List.reverse_append, List.takeWhile_append_dropWhile, List.reverse_reverse]

/-- Nothing is trimmed behind a character that is not to be dropped. -/
theorem trimEnd_eq_self {p : Char → Bool} {text : Text} (kept : ∀ c ∈ text.getLast?, p c = false) :
    trimEnd p text = text := by
  have first : ∀ c ∈ text.reverse.head?, p c = false := by
    rw [List.head?_reverse]
    exact kept
  have whole : text.reverse.dropWhile p = text.reverse := by
    cases reversed : text.reverse with
    | nil => rfl
    | cons c rest =>
        rw [reversed] at first
        exact List.dropWhile_cons_of_neg (by simp [first c rfl])
  rw [trimEnd, whole, List.reverse_reverse]

theorem trimEnd_append_of_forall {p : Char → Bool} {dropped : Text}
    (all : ∀ c ∈ dropped, p c = true) (text : Text) :
    trimEnd p (text ++ dropped) = trimEnd p text := by
  rw [trimEnd, List.reverse_append,
    List.dropWhile_append_of_pos fun c member => all c (List.mem_reverse.mp member), trimEnd]

theorem cut_ne_nil (separator : Char) (text : Text) : cut separator text ≠ [] := by
  induction text with
  | nil => simp [cut]
  | cons c rest ih =>
      rw [cut]
      split
      · simp
      · cases parts : cut separator rest <;> simp [consHead]

/-- Joining the parts of a text gives the text. -/
theorem join_cut (separator : Char) (text : Text) :
    join [separator] (cut separator text) = text := by
  induction text with
  | nil => exact List.intercalate_singleton
  | cons c rest ih =>
      rw [cut]
      by_cases first : c = separator
      · rw [if_pos first, join, List.intercalate_cons_of_ne_nil (cut_ne_nil separator rest), ← join,
          ih, first]
        rfl
      · rw [if_neg first]
        cases parts : cut separator rest with
        | nil => exact absurd parts (cut_ne_nil separator rest)
        | cons part others =>
            rw [parts] at ih
            rw [consHead, join, List.intercalate_cons_cons_left, ← join, ih]

/-- Up to the first separator a text is one part. -/
theorem cut_append_cons {separator : Char} {text : Text} (absent : separator ∉ text) (rest : Text) :
    cut separator (text ++ separator :: rest) = text :: cut separator rest := by
  induction text with
  | nil => rw [List.nil_append, cut, if_pos rfl]
  | cons c text ih =>
      rw [List.mem_cons, not_or] at absent
      rw [List.cons_append, cut, if_neg (Ne.symm absent.1), ih absent.2, consHead]

theorem cut_of_not_mem {separator : Char} {text : Text} (absent : separator ∉ text) :
    cut separator text = [text] := by
  induction text with
  | nil => rfl
  | cons c text ih =>
      rw [List.mem_cons, not_or] at absent
      rw [cut, if_neg (Ne.symm absent.1), ih absent.2, consHead]

/-- The parts before a separator and those behind it. -/
theorem cut_append_separator (separator : Char) (text rest : Text) :
    cut separator (text ++ separator :: rest) = cut separator text ++ cut separator rest := by
  induction text with
  | nil => simp [cut]
  | cons c text ih =>
      rw [List.cons_append, cut, cut, ih]
      split
      · rfl
      · cases parts : cut separator text with
        | nil => exact absurd parts (cut_ne_nil separator text)
        | cons part parts => rfl

end ModuleGrammar.Text
