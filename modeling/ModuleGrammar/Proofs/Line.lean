/-
# Laws of lines and positions

An offset divides its line: in front of it are whole lines and a margin, the start of the
line that it lies in. Its position is read off the two, with the newline as the only
break. The lines that all breaks make are compared with that: a newline always ends one
of them, so whole lines stay whole, and there are as many of them as newlines if no other
character breaks a line.
-/
import ModuleGrammar.Position
import ModuleGrammar.Text.Blank
import ModuleGrammar.Text.Line
import ModuleGrammar.Proofs.Text

namespace ModuleGrammar.Text

/-- A line starts behind a text: the text is empty or ends with a newline. -/
def StartsLine (text : Text) : Prop :=
  ∀ c ∈ text.getLast?, c = '\n'

/-- The only characters that break a line are newlines and carriage returns. -/
def PlainBreaks (text : Text) : Prop :=
  ∀ c ∈ text, isLineBreak c = true → c = '\n' ∨ c = '\r'

/-- Every carriage return stands in front of a newline. -/
def ReturnsPaired (text : Text) : Prop :=
  ∀ i < text.length, text[i]? = some '\r' → text[i + 1]? = some '\n'

instance (text : Text) : Decidable (PlainBreaks text) :=
  List.decidableBAll (fun c => isLineBreak c = true → c = '\n' ∨ c = '\r') text

instance (text : Text) : Decidable (ReturnsPaired text) :=
  Nat.decidableBallLT text.length fun i _ => text[i]? = some '\r' → text[i + 1]? = some '\n'

theorem plainBreaks_append {text rest : Text} :
    PlainBreaks (text ++ rest) ↔ PlainBreaks text ∧ PlainBreaks rest :=
  List.forall_mem_append

theorem isBlank_of_isLineBreak {c : Char} (isbreak : isLineBreak c = true) :
    ModuleGrammar.isBlank c = true := by
  simp only [isLineBreak, Bool.or_eq_true, Bool.and_eq_true, decide_eq_true_eq, beq_iff_eq]
    at isbreak
  simp only [ModuleGrammar.isBlank, Bool.or_eq_true, Bool.and_eq_true, decide_eq_true_eq,
    beq_iff_eq]
  omega

/-- The start of the last line of a text. -/
def margin (text : Text) : Text :=
  (text.reverse.takeWhile (· != '\n')).reverse

theorem margin_append {before rest : Text} (starts : StartsLine before) (inside : '\n' ∉ rest) :
    margin (before ++ rest) = rest := by
  have stop : ∀ c ∈ before.reverse.head?, (c != '\n') = false := by
    intro c last
    rw [List.head?_reverse] at last
    simp [starts c last]
  have whole : rest.reverse.takeWhile (· != '\n') = rest.reverse := by
    rw [List.takeWhile_eq_self_iff]
    intro c member
    have other : c ≠ '\n' := by
      rintro rfl
      exact inside (List.mem_reverse.mp member)
    simpa using other
  rw [margin, List.reverse_append, takeWhile_append_of_head stop, whole, List.reverse_reverse]

theorem exists_margin (text : Text) :
    ∃ before margin, text = before ++ margin ∧ StartsLine before ∧ '\n' ∉ margin := by
  obtain ⟨run, rest, whole, inside, stop⟩ := exists_run (· != '\n') text.reverse
  refine ⟨rest.reverse, run.reverse, ?_, ?_, ?_⟩
  · rw [← List.reverse_append, ← whole, List.reverse_reverse]
  · intro c last
    rw [List.getLast?_reverse] at last
    simpa using stop c last
  · intro member
    simpa using inside '\n' (List.mem_reverse.mp member)

section

variable {c : Char} {rest text : Text}

theorem StartsLine.tail (starts : StartsLine (c :: text)) : StartsLine text := by
  intro d last
  apply starts d
  rw [List.getLast?_cons, Option.mem_def.mp last]
  rfl

/-- A text that does not end behind its first character, or else is a newline. -/
theorem StartsLine.eq_newline_or_ne_nil (starts : StartsLine (c :: text)) :
    c = '\n' ∨ text ≠ [] := by
  cases text with
  | nil => exact .inl (starts c rfl)
  | cons d text => exact .inr (List.cons_ne_nil d text)

theorem PlainBreaks.tail (plain : PlainBreaks (c :: text)) : PlainBreaks text :=
  fun d member => plain d (List.mem_cons_of_mem c member)

theorem ReturnsPaired.head (paired : ReturnsPaired (c :: text)) (first : c = '\r') :
    text.head? = some '\n' := by
  rw [List.head?_eq_getElem?]
  exact paired 0 (by simp) (by simp [first])

theorem ReturnsPaired.tail (paired : ReturnsPaired (c :: text)) : ReturnsPaired text := by
  intro i inside found
  exact paired (i + 1) (by simpa using inside) found

/-- A carriage return and its newline do not lie on two sides of the start of a line. -/
theorem ReturnsPaired.of_append (paired : ReturnsPaired (text ++ rest)) (starts : StartsLine text) :
    ReturnsPaired text := by
  intro i inside found
  have next := paired i (by simp; omega) (by rw [List.getElem?_append_left inside]; exact found)
  by_cases last : i + 1 < text.length
  · rwa [List.getElem?_append_left last] at next
  · have ends : text.getLast? = some '\r' := by
      rw [List.getLast?_eq_getElem?, ← found]
      congr 1
      omega
    exact absurd (starts '\r' ends) (by decide)

theorem ReturnsPaired.of_append_right (paired : ReturnsPaired (text ++ rest)) :
    ReturnsPaired rest := by
  induction text with
  | nil => exact paired
  | cons c text ih => exact ih paired.tail

/-- A carriage return is not the last character before a character other than a newline. -/
theorem ReturnsPaired.return_not_mem (paired : ReturnsPaired (text ++ rest))
    (newline : '\n' ∉ text) (next : rest.head? ≠ some '\n') : '\r' ∉ text := by
  induction text with
  | nil => simp
  | cons c text ih =>
      rw [List.mem_cons, not_or] at newline
      rw [List.mem_cons, not_or]
      refine ⟨fun first => ?_, ih paired.tail newline.2⟩
      have follows := paired.head first.symm
      cases text with
      | nil => exact next follows
      | cons d text => exact newline.2 (by simpa using Or.inl (Option.some.inj follows).symm)

theorem lines_return_newline (rest : Text) :
    lines ('\r' :: '\n' :: rest) = ['\r', '\n'] :: lines rest := by
  rw [lines]

theorem lines_cons_of_isLineBreak (isbreak : isLineBreak c = true)
    (single : c = '\r' → rest.head? ≠ some '\n') : lines (c :: rest) = [c] :: lines rest := by
  rw [lines, if_pos isbreak]
  rintro after rfl rfl
  exact single rfl rfl

theorem lines_newline (rest : Text) : lines ('\n' :: rest) = ['\n'] :: lines rest :=
  lines_cons_of_isLineBreak (by decide) (fun return_ => absurd return_ (by decide))

theorem lines_cons (inside : isLineBreak c = false) (rest : Text) :
    lines (c :: rest) = consHead c (lines rest) := by
  rw [lines, if_neg (by simp [inside])]
  rintro after rfl rfl
  exact absurd inside (by decide)

end

/-- The four ways in which a text can start, as the lines of the text distinguish them. -/
@[elab_as_elim]
theorem lines_induction {motive : Text → Prop} (nil : motive [])
    (pair : ∀ rest, motive rest → motive ('\r' :: '\n' :: rest))
    (single : ∀ c rest, isLineBreak c = true → (c = '\r' → rest.head? ≠ some '\n') →
      motive rest → motive (c :: rest))
    (inside : ∀ c rest, isLineBreak c = false → motive rest → motive (c :: rest))
    (text : Text) : motive text := by
  induction text using lines.induct with
  | case1 => exact nil
  | case2 rest ih => exact pair rest ih
  | case3 c rest unpaired isbreak ih =>
      refine single c rest isbreak (fun first next => ?_) ih
      obtain ⟨after, rfl⟩ := List.head?_eq_some_iff.mp next
      exact unpaired after first rfl
  | case4 c rest unpaired nobreak ih => exact inside c rest (by simpa using nobreak) ih

theorem length_consHead (c : Char) (parts : List Text) :
    (consHead c parts).length = max 1 parts.length := by
  cases parts with
  | nil => rfl
  | cons part parts => simp [consHead]

theorem lines_ne_nil {text : Text} (nonempty : text ≠ []) : lines text ≠ [] := by
  cases text using lines_induction with
  | nil => exact absurd rfl nonempty
  | pair rest ih => simp [lines_return_newline]
  | single c rest isbreak unpaired ih => simp [lines_cons_of_isLineBreak isbreak unpaired]
  | inside c rest nobreak ih =>
      rw [lines_cons nobreak]
      cases lines rest <;> simp [consHead]

/-- The lines up to the start of a line, and those from there on. -/
theorem lines_append {before : Text} (starts : StartsLine before) (rest : Text) :
    lines (before ++ rest) = lines before ++ lines rest := by
  induction before using lines_induction with
  | nil => rfl
  | pair before ih =>
      rw [lines_return_newline, List.cons_append, List.cons_append, lines_return_newline,
        ih starts.tail.tail, List.cons_append]
  | single c before isbreak unpaired ih =>
      -- A carriage return cannot be the last character, so it stays unpaired.
      have unpaired' : c = '\r' → (before ++ rest).head? ≠ some '\n' := by
        rintro rfl
        rcases starts.eq_newline_or_ne_nil with newline | nonempty
        · exact absurd newline (by decide)
        · obtain ⟨next, others, rfl⟩ := List.exists_cons_of_ne_nil nonempty
          exact unpaired rfl
      rw [lines_cons_of_isLineBreak isbreak unpaired, List.cons_append,
        lines_cons_of_isLineBreak isbreak unpaired', ih starts.tail, List.cons_append]
  | inside c before nobreak ih =>
      rcases starts.eq_newline_or_ne_nil with rfl | nonempty
      · exact absurd nobreak (by decide)
      · rw [lines_cons nobreak, List.cons_append, lines_cons nobreak, ih starts.tail]
        cases parts : lines before with
        | nil => exact absurd parts (lines_ne_nil nonempty)
        | cons part parts => rfl

theorem count_newline_le_length_lines (text : Text) : text.count '\n' ≤ (lines text).length := by
  induction text using lines_induction with
  | nil => rfl
  | pair rest ih => simpa [lines_return_newline] using ih
  | single c rest isbreak unpaired ih =>
      rw [lines_cons_of_isLineBreak isbreak unpaired, List.length_cons, List.count_cons]
      split <;> omega
  | inside c rest nobreak ih =>
      have other : c ≠ '\n' := by
        rintro rfl
        exact absurd nobreak (by decide)
      rw [lines_cons nobreak, List.count_cons_of_ne other, length_consHead]
      omega

/-- Up to the start of a line there are as many lines as newlines, if only newlines and
carriage returns in front of them break a line. -/
theorem length_lines {text : Text} (starts : StartsLine text) (plain : PlainBreaks text)
    (paired : ReturnsPaired text) : (lines text).length = text.count '\n' := by
  induction text using lines_induction with
  | nil => rfl
  | pair rest ih =>
      have later := ih starts.tail.tail plain.tail.tail paired.tail.tail
      simp [lines_return_newline, later]
  | single c rest isbreak unpaired ih =>
      have newline : c = '\n' := by
        rcases plain c List.mem_cons_self isbreak with newline | first
        · exact newline
        · exact absurd (paired.head first) (unpaired first)
      have later := ih starts.tail plain.tail paired.tail
      rw [lines_cons_of_isLineBreak isbreak unpaired, List.length_cons, later, newline,
        List.count_cons_self]
  | inside c rest nobreak ih =>
      rcases starts.eq_newline_or_ne_nil with rfl | nonempty
      · exact absurd nobreak (by decide)
      · have other : c ≠ '\n' := by
          rintro rfl
          exact absurd nobreak (by decide)
        have later := ih starts.tail plain.tail paired.tail
        have positive := List.length_pos_iff.mpr (lines_ne_nil nonempty)
        rw [lines_cons nobreak, List.count_cons_of_ne other, length_consHead]
        omega

/-- Characters that break no line lie at the start of one line. -/
theorem lines_append_of_inside {body : Text} (inside : ∀ c ∈ body, isLineBreak c = false)
    (nonempty : body ≠ []) (rest : Text) :
    lines (body ++ rest) = (body ++ (lines rest).headD []) :: (lines rest).tail := by
  induction body with
  | nil => exact absurd rfl nonempty
  | cons c body ih =>
      rw [List.cons_append, lines_cons (inside c List.mem_cons_self)]
      by_cases last : body = []
      · rw [last, List.nil_append]
        cases lines rest <;> rfl
      · rw [ih (fun d member => inside d (List.mem_cons_of_mem _ member)) last]
        rfl

theorem headD_lines_append {body : Text} (inside : ∀ c ∈ body, isLineBreak c = false)
    (rest : Text) : (lines (body ++ rest)).headD [] = body ++ (lines rest).headD [] := by
  by_cases empty : body = []
  · rw [empty, List.nil_append, List.nil_append]
  · rw [lines_append_of_inside inside empty]
    rfl

/-- What ends a line, and the text behind it: a newline, a carriage return with its
newline, or the end of the text. -/
inductive LineEnd : Text → Text → Prop
  | newline (rest : Text) : LineEnd ['\n'] rest
  | pair (rest : Text) : LineEnd ['\r', '\n'] rest
  | finish : LineEnd [] []

/-- A line of a source that starts at an offset, without what ends it. -/
def IsLine (source : Text) (start : Nat) (line : Text) : Prop :=
  ∃ before terminator rest, source = before ++ line ++ terminator ++ rest ∧
    before.length = start ∧ StartsLine before ∧ (∀ c ∈ line, isLineBreak c = false) ∧
    LineEnd terminator rest

/-- If only newlines and carriage returns in front of them break a line, then a line goes up
to one of these or to the end. -/
theorem exists_lineEnd {text : Text} (plain : PlainBreaks text) (paired : ReturnsPaired text) :
    ∃ line terminator rest, text = line ++ terminator ++ rest ∧
      (∀ c ∈ line, isLineBreak c = false) ∧ LineEnd terminator rest := by
  induction text using lines_induction with
  | nil => exact ⟨[], [], [], rfl, by simp, .finish⟩
  | pair rest ih => exact ⟨[], ['\r', '\n'], rest, rfl, by simp, .pair rest⟩
  | single c rest isbreak unpaired ih =>
      rcases plain c List.mem_cons_self isbreak with rfl | first
      · exact ⟨[], ['\n'], rest, rfl, by simp, .newline rest⟩
      · exact absurd (paired.head first) (unpaired first)
  | inside c rest nobreak ih =>
      obtain ⟨line, terminator, others, rfl, inside, ends⟩ := ih plain.tail paired.tail
      exact ⟨c :: line, terminator, others, rfl, List.forall_mem_cons.mpr ⟨nobreak, inside⟩, ends⟩

theorem LineEnd.headD_lines {terminator rest : Text} (ends : LineEnd terminator rest) :
    (lines (terminator ++ rest)).headD [] = terminator := by
  cases ends with
  | newline => rw [List.singleton_append, lines_newline]; rfl
  | pair => rw [List.cons_append, List.singleton_append, lines_return_newline]; rfl
  | finish => rfl

end ModuleGrammar.Text

namespace ModuleGrammar.Position

open Text

/-- A position by the whole lines before it and the margin. -/
theorem behind_append {before margin : Text} (starts : StartsLine before)
    (inside : '\n' ∉ margin) :
    behind (before ++ margin) =
      ⟨before.count '\n' + 1, margin.length + 1, before.length + margin.length⟩ := by
  have line : (before ++ margin).count '\n' = before.count '\n' := by
    rw [List.count_append, List.count_eq_zero.mpr inside, Nat.add_zero]
  have column : ((before ++ margin).reverse.takeWhile (· != '\n')).length = margin.length := by
    rw [← List.length_reverse, ← Text.margin, margin_append starts inside]
  rw [behind, line, column, List.length_append]

theorem resolve?_append {before margin : Text} (starts : StartsLine before)
    (inside : '\n' ∉ margin) (rest : Text) :
    resolve? (before ++ margin ++ rest) (before.length + margin.length) =
      some ⟨before.count '\n' + 1, margin.length + 1, before.length + margin.length⟩ := by
  have offset : ((before.length : Int) + margin.length).toNat = (before ++ margin).length := by
    rw [List.length_append]
    omega
  rw [resolve?, if_pos (by simp; omega), offset, List.take_left, behind_append starts inside]

end ModuleGrammar.Position
