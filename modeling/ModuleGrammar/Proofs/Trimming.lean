/-
# What a second cleanup does

The cleanup collapses the newlines of a text before it trims the lines. Trimming can empty a line
that holds nothing but blanks, and then two newlines stand side by side that only the next cleanup
collapses. This is the only thing that one cleanup leaves to do: after the second one a text stays
as it is, and without trimming it does so after the first.
-/
import ModuleGrammar.Proofs.Spacing
import ModuleGrammar.Proofs.Tidy

namespace ModuleGrammar

namespace Text

theorem trimEnd_eq_nil_iff {p : Char → Bool} {text : Text} :
    trimEnd p text = [] ↔ ∀ c ∈ text, p c = true := by
  simp [trimEnd, List.dropWhile_eq_nil_iff]

/-- Trimming goes on behind a text only if nothing of what follows it is left. -/
theorem trimEnd_append_eq_ite (p : Char → Bool) (text rest : Text) :
    trimEnd p (text ++ rest) =
      if trimEnd p rest = [] then trimEnd p text else text ++ trimEnd p rest := by
  rw [trimEnd, List.reverse_append, List.dropWhile_append]
  simp only [trimEnd, List.isEmpty_iff, List.reverse_eq_nil_iff]
  split
  · rfl
  · rw [List.reverse_append, List.reverse_reverse]

theorem getLast?_trimEnd (p : Char → Bool) (text : Text) :
    ∀ c ∈ (trimEnd p text).getLast?, p c = false := by
  intro c last
  have stop := List.head?_dropWhile_not p text.reverse
  rw [trimEnd, List.getLast?_reverse, Option.mem_def] at last
  rw [last] at stop
  exact stop

theorem trimEnd_trimEnd (p : Char → Bool) (text : Text) :
    trimEnd p (trimEnd p text) = trimEnd p text :=
  trimEnd_eq_self (getLast?_trimEnd p text)

theorem trimEnd_newline_eq_self {text : Text} (last : text.getLast? ≠ some '\n') :
    trimEnd (· == '\n') text = text := by
  refine trimEnd_eq_self fun c member => ?_
  rw [beq_eq_false_iff_ne]
  rintro rfl
  exact last member

theorem not_mem_trimBlankEnd {c : Char} {text : Text} (absent : c ∉ text) :
    c ∉ text.trimBlankEnd :=
  fun member => absent ((trimEnd_sublist _ text).subset member)

/-- A text has ink if it has a character that is not blank. -/
def HasInk (text : Text) : Prop :=
  ∃ c ∈ text, ModuleGrammar.isBlank c = false

theorem trimBlankEnd_ne_nil_iff {text : Text} : text.trimBlankEnd ≠ [] ↔ text.HasInk := by
  rw [trimBlankEnd, ne_eq, trimEnd_eq_nil_iff]
  simp [HasInk]

/-- A text is a line, or a line above another text. -/
@[elab_as_elim]
theorem line_induction {motive : Text → Prop}
    (line : ∀ line, '\n' ∉ line → motive line)
    (cons : ∀ line rest, '\n' ∉ line → motive rest → motive (line ++ '\n' :: rest))
    (text : Text) : motive text := by
  induction length : text.length using Nat.strongRecOn generalizing text with
  | ind n ih =>
      obtain ⟨first, rest, rfl, inside, stop⟩ := exists_run (· != '\n') text
      have noNewline : '\n' ∉ first := fun member => by simpa using inside '\n' member
      cases rest with
      | nil =>
          rw [List.append_nil]
          exact line first noNewline
      | cons c rest =>
          obtain rfl : c = '\n' := by simpa using stop c rfl
          refine cons first rest noNewline (ih rest.length ?_ rest rfl)
          rw [← length, List.length_append, List.length_cons]
          omega

end Text

namespace Layout

/-- Two newlines stand side by side. -/
def DoubleNewline (text : Text) : Prop :=
  ['\n', '\n'] <:+: text

theorem doubleNewline_append {line : Text} (noNewline : '\n' ∉ line) (rest : Text) :
    DoubleNewline (line ++ rest) ↔ DoubleNewline rest := by
  induction line with
  | nil => rfl
  | cons c line ih =>
      rw [List.mem_cons, not_or] at noNewline
      rw [DoubleNewline, List.cons_append, List.infix_cons_iff, List.cons_prefix_cons]
      exact (or_iff_right fun first => noNewline.1 first.1).trans (ih noNewline.2)

theorem not_doubleNewline {line : Text} (noNewline : '\n' ∉ line) : ¬ DoubleNewline line :=
  fun double => noNewline (double.subset List.mem_cons_self)

theorem doubleNewline_newline (rest : Text) :
    DoubleNewline ('\n' :: rest) ↔ rest.head? = some '\n' ∨ DoubleNewline rest := by
  rw [DoubleNewline, List.infix_cons_iff, List.cons_prefix_cons]
  cases rest with
  | nil => simp [DoubleNewline]
  | cons c rest => simp [DoubleNewline, eq_comm]

theorem head?_collapseNewlines (text : Text) : (collapseNewlines text).head? = text.head? := by
  induction text with
  | nil => rfl
  | cons c rest ih =>
      rw [collapseNewlines]
      split
      case isTrue repeated => rw [ih, repeated.2, repeated.1, List.head?_cons]
      case isFalse => rfl

theorem getLast?_collapseNewlines (text : Text) :
    (collapseNewlines text).getLast? = text.getLast? := by
  induction text with
  | nil => rfl
  | cons c rest ih =>
      rw [collapseNewlines]
      split
      case isTrue repeated =>
        cases rest with
        | nil => cases repeated.2
        | cons d rest => rw [ih, List.getLast?_cons_cons]
      case isFalse => rw [List.getLast?_cons, List.getLast?_cons, ih]

theorem not_doubleNewline_collapseNewlines (text : Text) :
    ¬ DoubleNewline (collapseNewlines text) := by
  induction text with
  | nil => exact not_doubleNewline List.not_mem_nil
  | cons c rest ih =>
      rw [collapseNewlines]
      split
      case isTrue => exact ih
      case isFalse kept =>
        by_cases newline : c = '\n'
        · rw [newline, doubleNewline_newline, head?_collapseNewlines, not_or]
          exact ⟨fun next => kept ⟨newline, next⟩, ih⟩
        · rw [← List.singleton_append, doubleNewline_append (by simpa using Ne.symm newline)]
          exact ih

/-- Collapsing leaves exactly the texts alone in which no newline follows another one. -/
theorem collapseNewlines_eq_self_iff (text : Text) :
    collapseNewlines text = text ↔ ¬ DoubleNewline text := by
  constructor
  · intro same
    rw [← same]
    exact not_doubleNewline_collapseNewlines text
  · intro single
    induction text with
    | nil => rfl
    | cons c rest ih =>
        rw [DoubleNewline, List.infix_cons_iff, not_or] at single
        rw [collapseNewlines, if_neg, ih single.2]
        rintro ⟨rfl, next⟩
        cases rest with
        | nil => cases next
        | cons d rest =>
            cases next
            exact single.1 ⟨rest, rfl⟩

/-- A line above another text is collapsed with that text, whose own first newline stays. -/
theorem collapseNewlines_cases {line : Text} (noNewline : '\n' ∉ line) (rest : Text) :
    (∃ more, collapseNewlines rest = '\n' :: more ∧
        rest.head? = some '\n' ∧
        collapseNewlines (line ++ '\n' :: rest) = line ++ '\n' :: more) ∨
      (rest.head? ≠ some '\n' ∧
        collapseNewlines (line ++ '\n' :: rest) = line ++ '\n' :: collapseNewlines rest) := by
  rw [collapseNewlines_append noNewline]
  by_cases next : rest.head? = some '\n'
  · obtain ⟨more, collapsed⟩ : ∃ more, collapseNewlines rest = '\n' :: more := by
      rw [← head?_collapseNewlines] at next
      exact List.head?_eq_some_iff.mp next
    refine .inl ⟨more, collapsed, next, ?_⟩
    rw [collapseNewlines, if_pos ⟨rfl, next⟩, collapsed]
  · exact .inr ⟨next, by rw [collapseNewlines_newline next]⟩

/-- Collapsing makes no new lines. -/
theorem mem_cut_of_mem_cut_collapseNewlines {text part : Text}
    (member : part ∈ (collapseNewlines text).cut '\n') : part ∈ text.cut '\n' := by
  induction text using Text.line_induction generalizing part with
  | line line noNewline =>
      rwa [(collapseNewlines_eq_self_iff line).mpr (not_doubleNewline noNewline)] at member
  | cons line rest noNewline ih =>
      rw [Text.cut_append_cons noNewline, List.mem_cons]
      rcases collapseNewlines_cases noNewline rest with ⟨more, collapsed, -, whole⟩ | ⟨-, whole⟩
      · rw [whole, Text.cut_append_cons noNewline, List.mem_cons] at member
        refine member.imp_right fun later => ih ?_
        rw [collapsed]
        exact List.mem_cons_of_mem [] later
      · rw [whole, Text.cut_append_cons noNewline, List.mem_cons] at member
        exact member.imp_right ih

theorem trimLines_line {line : Text} (noNewline : '\n' ∉ line) :
    trimLines line = line.trimBlankEnd := by
  rw [trimLines, Text.cut_of_not_mem noNewline, List.map_singleton, Text.join,
    List.intercalate_singleton]
  exact Text.trimEnd_trimEnd isBlank line

theorem trimLines_cons {line : Text} (noNewline : '\n' ∉ line) (rest : Text) :
    trimLines (line ++ '\n' :: rest) =
      if trimLines rest = [] then line.trimBlankEnd
      else line.trimBlankEnd ++ '\n' :: trimLines rest := by
  have others : (rest.cut '\n').map Text.trimBlankEnd ≠ [] := by simp [Text.cut_ne_nil]
  have newline : ∀ c ∈ ['\n'], isBlank c = true := List.forall_mem_singleton.mpr (by decide)
  rw [trimLines, Text.cut_append_cons noNewline, List.map_cons, Text.join,
    List.intercalate_cons_of_ne_nil others, ← Text.join, Text.trimBlankEnd,
    Text.trimEnd_append_eq_ite, Text.trimEnd_append_of_forall newline, Text.trimBlankEnd,
    Text.trimEnd_trimEnd, List.append_assoc]
  rfl

/-- Nothing of a text can be trimmed. -/
structure Trimmed (text : Text) : Prop where
  lines : ∀ line ∈ text.cut '\n', ∀ c ∈ line.getLast?, isBlank c = false
  ends : ∀ c ∈ text.getLast?, isBlank c = false

theorem Trimmed.trimLines_eq {text : Text} (trimmed : Trimmed text) : trimLines text = text := by
  have lines : (text.cut '\n').map Text.trimBlankEnd = text.cut '\n' := by
    refine (List.map_congr_left fun line member => ?_).trans (List.map_id _)
    exact Text.trimEnd_eq_self (trimmed.lines line member)
  rw [trimLines, lines, Text.join_cut]
  exact Text.trimEnd_eq_self trimmed.ends

theorem Trimmed.collapseNewlines {text : Text} (trimmed : Trimmed text) :
    Trimmed (collapseNewlines text) where
  lines line member := trimmed.lines line (mem_cut_of_mem_cut_collapseNewlines member)
  ends := by
    rw [getLast?_collapseNewlines]
    exact trimmed.ends

theorem trimmed_trimBlankEnd {line : Text} (noNewline : '\n' ∉ line) :
    Trimmed line.trimBlankEnd where
  lines := by
    rw [Text.cut_of_not_mem (Text.not_mem_trimBlankEnd noNewline), List.forall_mem_singleton]
    exact Text.getLast?_trimEnd isBlank line
  ends := Text.getLast?_trimEnd isBlank line

theorem trimmed_trimLines (text : Text) : Trimmed (trimLines text) := by
  induction text using Text.line_induction with
  | line line noNewline =>
      rw [trimLines_line noNewline]
      exact trimmed_trimBlankEnd noNewline
  | cons line rest noNewline ih =>
      have first := trimmed_trimBlankEnd noNewline
      rw [trimLines_cons noNewline]
      split
      case isTrue => exact first
      case isFalse nonempty =>
        constructor
        · rw [Text.cut_append_cons (Text.not_mem_trimBlankEnd noNewline), List.forall_mem_cons]
          exact ⟨Text.getLast?_trimEnd isBlank line, ih.lines⟩
        · intro c last
          refine ih.ends c ?_
          rw [List.getLast?_append, List.getLast?_cons, Option.some_or, Option.mem_def,
            List.getLast?_eq_some_getLast nonempty] at last
          rw [List.getLast?_eq_some_getLast nonempty]
          exact last

/-- What the cleanup makes of a text if it trims. -/
def swept (text : Text) : Text :=
  trimLines (collapseNewlines text)

theorem cleanup_of_trims {style : Style} (trims : style.trimTrailingWhitespace = true)
    (text : Text) : cleanup style text = swept text := by
  rw [cleanup, if_pos trims]
  rfl

theorem trimmed_cleanup {style : Style} (trims : style.trimTrailingWhitespace = true)
    (text : Text) : Trimmed (cleanup style text) := by
  rw [cleanup_of_trims trims]
  exact trimmed_trimLines _

/-- Of a trimmed text only double newlines are cleaned up. -/
theorem Trimmed.swept_eq {text : Text} (trimmed : Trimmed text) :
    swept text = Layout.collapseNewlines text :=
  trimmed.collapseNewlines.trimLines_eq

theorem swept_line {line : Text} (noNewline : '\n' ∉ line) :
    swept line = line.trimBlankEnd := by
  rw [swept, (collapseNewlines_eq_self_iff line).mpr (not_doubleNewline noNewline),
    trimLines_line noNewline]

/-- A line above an empty line shares the newline behind it with that line. -/
theorem swept_cons_of_newline {line rest : Text} (noNewline : '\n' ∉ line)
    (next : rest.head? = some '\n') :
    swept (line ++ '\n' :: rest) = line.trimBlankEnd ++ swept rest := by
  rcases collapseNewlines_cases noNewline rest with ⟨more, collapsed, -, whole⟩ | ⟨other, -⟩
  · have empty := trimLines_cons List.not_mem_nil more
    rw [List.nil_append] at empty
    rw [swept, swept, whole, collapsed, trimLines_cons noNewline, empty]
    split
    · exact (List.append_nil _).symm
    · rfl
  · exact absurd next other

theorem swept_cons {line rest : Text} (noNewline : '\n' ∉ line) (next : rest.head? ≠ some '\n') :
    swept (line ++ '\n' :: rest) =
      if swept rest = [] then line.trimBlankEnd else line.trimBlankEnd ++ '\n' :: swept rest := by
  rcases collapseNewlines_cases noNewline rest with ⟨-, -, same, -⟩ | ⟨-, whole⟩
  · exact absurd same next
  · rw [swept, whole, trimLines_cons noNewline]
    rfl

/-- Some line has ink. -/
def AnyInk (lines : List Text) : Prop :=
  ∃ line ∈ lines, line.HasInk

/-- A line of blanks has something below it. -/
def Overlooks (lines : List Text) : Prop :=
  ∃ before line after, lines = before ++ line :: after ∧ line.isBlank = true ∧ AnyInk after

theorem anyInk_cons (line : Text) (lines : List Text) :
    AnyInk (line :: lines) ↔ line.trimBlankEnd ≠ [] ∨ AnyInk lines := by
  rw [Text.trimBlankEnd_ne_nil_iff]
  simp [AnyInk]

theorem overlooks_cons (line : Text) (lines : List Text) :
    Overlooks (line :: lines) ↔ (line.isBlank = true ∧ AnyInk lines) ∨ Overlooks lines := by
  constructor
  · rintro ⟨before, part, after, whole, blank, ink⟩
    cases before with
    | nil =>
        cases whole
        exact .inl ⟨blank, ink⟩
    | cons first before =>
        cases whole
        exact .inr ⟨before, part, after, rfl, blank, ink⟩
  · rintro (⟨blank, ink⟩ | ⟨before, part, after, rfl, blank, ink⟩)
    · exact ⟨[], line, lines, rfl, blank, ink⟩
    · exact ⟨line :: before, part, after, rfl, blank, ink⟩

theorem not_overlooks_nil : ¬ Overlooks [] := by
  rintro ⟨before, line, after, whole, -⟩
  cases before <;> cases whole

theorem not_anyInk_nil : ¬ AnyInk [] := by
  rintro ⟨line, member, -⟩
  cases member

theorem isBlank_iff {line : Text} (nonempty : line ≠ []) :
    line.isBlank = true ↔ line.trimBlankEnd = [] := by
  rw [Text.trimBlankEnd, Text.trimEnd_eq_nil_iff, Text.isBlank, Bool.and_eq_true, List.all_eq_true]
  simp [nonempty]

theorem swept_ne_nil_iff (text : Text) : swept text ≠ [] ↔ AnyInk (text.cut '\n') := by
  induction text using Text.line_induction with
  | line line noNewline =>
      rw [swept_line noNewline, Text.cut_of_not_mem noNewline, anyInk_cons]
      exact (or_iff_left not_anyInk_nil).symm
  | cons line rest noNewline ih =>
      rw [Text.cut_append_cons noNewline, anyInk_cons, ← ih]
      by_cases next : rest.head? = some '\n'
      · rw [swept_cons_of_newline noNewline next, ne_eq, List.append_eq_nil_iff, not_and_or]
      · rw [swept_cons noNewline next]
        split
        case isTrue empty => simp [empty]
        case isFalse nonempty => simp [nonempty]

/-- An empty first line stays, if anything is left below it. -/
theorem head?_swept_of_newline {text : Text} (first : text.head? = some '\n')
    (nonempty : swept text ≠ []) : (swept text).head? = some '\n' := by
  obtain ⟨more, collapsed⟩ : ∃ more, collapseNewlines text = '\n' :: more := by
    rw [← head?_collapseNewlines] at first
    exact List.head?_eq_some_iff.mp first
  have empty := trimLines_cons List.not_mem_nil more
  rw [List.nil_append, ← collapsed, ← swept] at empty
  split at empty
  case isTrue => exact absurd empty nonempty
  case isFalse =>
    rw [empty]
    rfl

/-- A text that starts with a line other than an empty one starts with an empty line after its
cleanup if that line is blank and has something below it. -/
theorem head?_swept_iff {text : Text} (first : text.head? ≠ some '\n') :
    (swept text).head? = some '\n' ↔
      ((text.cut '\n').headD []).isBlank = true ∧ AnyInk (text.cut '\n').tail := by
  have inside {line : Text} (noNewline : '\n' ∉ line) : line.trimBlankEnd.head? ≠ some '\n' :=
    fun found => Text.not_mem_trimBlankEnd noNewline (List.mem_of_head? found)
  cases text using Text.line_induction with
  | line line noNewline =>
      rw [swept_line noNewline, Text.cut_of_not_mem noNewline]
      exact iff_of_false (inside noNewline) fun hidden => not_anyInk_nil hidden.2
  | cons line rest noNewline =>
      have nonempty : line ≠ [] := by
        rintro rfl
        exact first rfl
      rw [Text.cut_append_cons noNewline, List.headD_cons, List.tail_cons, isBlank_iff nonempty,
        ← swept_ne_nil_iff]
      cases start : line.trimBlankEnd with
      | cons c body =>
          have other := inside noNewline
          rw [start] at other
          refine iff_of_false ?_ fun hidden => List.cons_ne_nil c body hidden.1
          by_cases next : rest.head? = some '\n'
          · rwa [swept_cons_of_newline noNewline next, start]
          · rw [swept_cons noNewline next, start]
            split <;> exact other
      | nil =>
          by_cases next : rest.head? = some '\n'
          · rw [swept_cons_of_newline noNewline next, start, List.nil_append]
            refine ⟨fun found => ⟨rfl, ?_⟩, fun hidden => head?_swept_of_newline next hidden.2⟩
            rintro empty
            rw [empty] at found
            cases found
          · rw [swept_cons noNewline next, start]
            split
            case isTrue empty => simp [empty]
            case isFalse nonempty => simp [nonempty]

/-- One cleanup leaves a double newline exactly if it overlooks a line of blanks below the first
line. -/
theorem doubleNewline_swept_iff (text : Text) :
    DoubleNewline (swept text) ↔ Overlooks (text.cut '\n').tail := by
  induction text using Text.line_induction with
  | line line noNewline =>
      rw [swept_line noNewline, Text.cut_of_not_mem noNewline]
      exact iff_of_false (not_doubleNewline (Text.not_mem_trimBlankEnd noNewline))
        not_overlooks_nil
  | cons line rest noNewline ih =>
      have start := Text.not_mem_trimBlankEnd noNewline
      rw [Text.cut_append_cons noNewline, List.tail_cons]
      obtain ⟨first, others, lines⟩ : ∃ first others, rest.cut '\n' = first :: others :=
        List.exists_cons_of_ne_nil (Text.cut_ne_nil '\n' rest)
      rw [lines, overlooks_cons]
      rw [lines, List.tail_cons] at ih
      by_cases next : rest.head? = some '\n'
      · -- The line below is empty, so it is not a line of blanks.
        have empty : first = [] := by
          obtain ⟨more, rfl⟩ := List.head?_eq_some_iff.mp next
          rw [Text.cut, if_pos rfl] at lines
          exact (List.cons.inj lines).1.symm
        rw [swept_cons_of_newline noNewline next, doubleNewline_append start, ih, empty]
        simp [Text.isBlank]
      · have below := head?_swept_iff next
        rw [lines, List.headD_cons, List.tail_cons] at below
        rw [← below, ← ih, ← doubleNewline_newline, swept_cons noNewline next]
        split
        case isTrue none =>
          rw [none, doubleNewline_newline]
          exact iff_of_false (not_doubleNewline start) (by simp [DoubleNewline])
        case isFalse => exact doubleNewline_append start _

theorem endWithNewline_cases (text : Text) :
    (text = [] ∧ endWithNewline text = []) ∨
      ∃ body, body <+: text ∧ body.getLast? ≠ some '\n' ∧ endWithNewline text = body ++ ['\n'] := by
  cases text with
  | nil => exact .inl ⟨rfl, rfl⟩
  | cons c rest =>
      refine .inr ⟨_, ⟨_, Text.trimEnd_append (· == '\n') (c :: rest)⟩, fun last => ?_, rfl⟩
      have other := Text.getLast?_trimEnd (· == '\n') (c :: rest) '\n' last
      cases other

theorem endWithNewline_eq_self {body : Text} (last : body.getLast? ≠ some '\n') :
    endWithNewline (body ++ ['\n']) = body ++ ['\n'] := by
  have newline : ∀ c ∈ ['\n'], (c == '\n') = true := List.forall_mem_singleton.mpr rfl
  rw [endWithNewline, if_neg (by simp), Text.trimEnd_append_of_forall newline,
    Text.trimEnd_newline_eq_self last]

theorem not_doubleNewline_concat {body : Text} (single : ¬ DoubleNewline body)
    (last : body.getLast? ≠ some '\n') : ¬ DoubleNewline (body ++ ['\n']) := by
  rw [DoubleNewline, List.infix_concat_iff, not_or]
  refine ⟨?_, single⟩
  rintro ⟨start, whole⟩
  rw [← List.singleton_append, ← List.append_assoc] at whole
  rw [← (List.append_inj_left' whole rfl), List.getLast?_concat] at last
  exact last rfl

theorem endWithNewline_endWithNewline (text : Text) :
    endWithNewline (endWithNewline text) = endWithNewline text := by
  rcases endWithNewline_cases text with ⟨-, ended⟩ | ⟨body, -, last, ended⟩
  · rw [ended]
    rfl
  · rw [ended, endWithNewline_eq_self last]

theorem not_doubleNewline_cleanup_of_not_trims {style : Style}
    (trims : style.trimTrailingWhitespace = false) (text : Text) :
    ¬ DoubleNewline (cleanup style text) := by
  have single := not_doubleNewline_collapseNewlines text
  cases final : style.insertFinalNewline with
  | false => simpa only [cleanup, trims, final, Bool.false_eq_true, if_false] using single
  | true =>
      simp only [cleanup, trims, final, Bool.false_eq_true, if_false, if_true]
      rcases endWithNewline_cases (collapseNewlines text) with
        ⟨-, ended⟩ | ⟨body, start, last, ended⟩
      · rw [ended]
        exact not_doubleNewline (by simp)
      · rw [ended]
        exact not_doubleNewline_concat (fun double => single (double.trans start.isInfix)) last

theorem cleanup_cleanup_of_not_trims {style : Style} (trims : style.trimTrailingWhitespace = false)
    (text : Text) : cleanup style (cleanup style text) = cleanup style text := by
  have settled := (collapseNewlines_eq_self_iff _).mpr
    (not_doubleNewline_cleanup_of_not_trims trims text)
  cases final : style.insertFinalNewline with
  | false =>
      simp only [cleanup, trims, final, Bool.false_eq_true, if_false] at settled ⊢
      exact settled
  | true =>
      simp only [cleanup, trims, final, Bool.false_eq_true, if_false, if_true] at settled ⊢
      rw [settled, endWithNewline_endWithNewline]

/-- A second cleanup has nothing to do but to collapse newlines. -/
theorem cleanup_cleanup (style : Style) (text : Text) :
    cleanup style (cleanup style text) = collapseNewlines (cleanup style text) := by
  cases trims : style.trimTrailingWhitespace with
  | false =>
      rw [cleanup_cleanup_of_not_trims trims, (collapseNewlines_eq_self_iff _).mpr
        (not_doubleNewline_cleanup_of_not_trims trims text)]
  | true =>
      have trimmed := trimmed_cleanup trims text
      rw [cleanup_of_trims trims (cleanup style text), trimmed.swept_eq]

/-- A cleanup leaves an empty line if it trims and the text has a line of blanks that is not its
first one and has something below it. -/
theorem doubleNewline_cleanup_iff (style : Style) (text : Text) :
    DoubleNewline (cleanup style text) ↔
      style.trimTrailingWhitespace = true ∧ Overlooks (text.cut '\n').tail := by
  cases trims : style.trimTrailingWhitespace with
  | false => exact iff_of_false (not_doubleNewline_cleanup_of_not_trims trims text) (by simp)
  | true => simp [cleanup_of_trims trims, doubleNewline_swept_iff]

/-- A cleanup has nothing to do on a text that was cleaned up, unless it trims and the text had a
line of blanks that was not its first one and had something below it. Exactly then it has left an
empty line, and all that the second cleanup does is to remove such lines. It never leaves blanks to
be trimmed, and after the second time the text stays as it is. -/
theorem cleanup_idempotent_iff (style : Style) (text : Text) :
    (cleanup style (cleanup style text) = cleanup style text ↔
        ¬ (style.trimTrailingWhitespace = true ∧ Overlooks (text.cut '\n').tail)) ∧
      (DoubleNewline (cleanup style text) ↔
        style.trimTrailingWhitespace = true ∧ Overlooks (text.cut '\n').tail) ∧
      cleanup style (cleanup style text) = collapseNewlines (cleanup style text) ∧
      ¬ DoubleNewline (cleanup style (cleanup style text)) ∧
      (style.trimTrailingWhitespace = true → Trimmed (cleanup style text)) ∧
      cleanup style (cleanup style (cleanup style text)) = cleanup style (cleanup style text) := by
  have single : ¬ DoubleNewline (cleanup style (cleanup style text)) := by
    rw [cleanup_cleanup]
    exact not_doubleNewline_collapseNewlines _
  refine ⟨?_, doubleNewline_cleanup_iff style text, cleanup_cleanup style text, single,
    fun trims => trimmed_cleanup trims text, ?_⟩
  · rw [cleanup_cleanup, collapseNewlines_eq_self_iff, doubleNewline_cleanup_iff]
  · rw [cleanup_cleanup style (cleanup style text)]
    exact (collapseNewlines_eq_self_iff _).mpr single

/-- A line that holds one space is left behind as an empty line. -/
theorem cleanup_leaves_empty_line :
    cleanup {} "a\n \nb".toList = "a\n\nb".toList ∧
      cleanup {} (cleanup {} "a\n \nb".toList) ≠ cleanup {} "a\n \nb".toList := by
  decide +kernel

end Layout

end ModuleGrammar
