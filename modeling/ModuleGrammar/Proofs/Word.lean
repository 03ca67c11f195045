/-
# Words

A word is a piece of a text that a blank would break: a maximal run of name
characters, a closing bracket with the multiplier characters behind it, or any
other character by itself. Words know nothing of kinds and of colons, so they obey
simple laws for blanks and for concatenation, and the lexemes of a text turn out to
depend on its words only.

A closing bracket with a single repetition sign behind it counts as two words. The
sign is the same multiplier whether or not a blank separates it from the bracket,
and the layout puts the two together.
-/
import ModuleGrammar.Proofs.Character
import ModuleGrammar.Proofs.Text

namespace ModuleGrammar.Word

/-- One repetition sign and nothing else. -/
def isLoneSign : Text → Bool
  | [c] => isSign c
  | _ => false

theorem length_of_isLoneSign {text : Text} (lone : isLoneSign text = true) :
    text.length = 1 := by
  match text, lone with
  | [_], _ => rfl

/-- The characters behind `c` that belong to its word. -/
def tail (c : Char) (rest : Text) : Text :=
  if isNameChar c then rest.takeWhile isNameChar
  else if closesGroup c && !isLoneSign (rest.takeWhile isMultiplierChar) then
    rest.takeWhile isMultiplierChar
  else []

theorem tail_isPrefix (c : Char) (rest : Text) : tail c rest <+: rest := by
  unfold tail
  split
  · exact List.takeWhile_prefix _
  · split
    · exact List.takeWhile_prefix _
    · exact List.nil_prefix

theorem tail_append_drop (c : Char) (rest : Text) :
    tail c rest ++ rest.drop (tail c rest).length = rest :=
  List.prefix_iff_eq_append.mp (tail_isPrefix c rest)

theorem tail_of_isNameChar {c : Char} (name : isNameChar c = true) (rest : Text) :
    tail c rest = rest.takeWhile isNameChar := by
  rw [tail, if_pos name]

/-- A character that is neither a name character nor a closing bracket is a word by
itself. -/
theorem tail_eq_nil {c : Char} (name : isNameChar c = false) (closes : closesGroup c = false)
    (rest : Text) : tail c rest = [] := by
  simp [tail, name, closes]

/-- `word` is the first word of the text `word ++ rest`. -/
def EndsAt : Text → Text → Prop
  | [], _ => False
  | c :: body, rest => isBlank c = false ∧ tail c (body ++ rest) = body

/-- The words of a text whose first `taken` characters belong to a word before it. -/
def ofTextAfter : Nat → Text → List Text
  | _, [] => []
  | taken + 1, _ :: rest => ofTextAfter taken rest
  | 0, c :: rest =>
    if isBlank c then ofTextAfter 0 rest
    else (c :: tail c rest) :: ofTextAfter (tail c rest).length rest

/-- The words of a text. -/
def ofText (text : Text) : List Text :=
  ofTextAfter 0 text

/-- No word can take the first character of the text along. -/
def Stops (text : Text) : Prop :=
  ∀ c ∈ text.head?, isNameChar c = false ∧ isMultiplierChar c = false

theorem ofTextAfter_eq_drop (taken : Nat) (text : Text) :
    ofTextAfter taken text = ofText (text.drop taken) := by
  induction text generalizing taken with
  | nil => cases taken <;> rfl
  | cons c rest ih =>
      cases taken with
      | zero => rfl
      | succ taken => exact ih taken

@[simp]
theorem ofText_nil : ofText [] = [] := rfl

theorem ofText_cons_of_isBlank {c : Char} (blank : isBlank c = true) (rest : Text) :
    ofText (c :: rest) = ofText rest := by
  rw [ofText, ofTextAfter, if_pos blank, ofText]

theorem ofText_cons {c : Char} (nonblank : isBlank c = false) (rest : Text) :
    ofText (c :: rest) = (c :: tail c rest) :: ofText (rest.drop (tail c rest).length) := by
  rw [ofText, ofTextAfter, if_neg (by simp [nonblank]), ofTextAfter_eq_drop]

theorem ofText_append_of_endsAt {word rest : Text} (ends : EndsAt word rest) :
    ofText (word ++ rest) = word :: ofText rest := by
  cases word with
  | nil => exact ends.elim
  | cons c body =>
      obtain ⟨nonblank, tail_eq⟩ := ends
      rw [List.cons_append, ofText_cons nonblank, tail_eq, List.drop_left]

/-- A character that belongs to no run is a word by itself. -/
theorem ofText_cons_single {c : Char} (nonblank : isBlank c = false)
    (name : isNameChar c = false) (closes : closesGroup c = false) (rest : Text) :
    ofText (c :: rest) = [c] :: ofText rest := by
  rw [ofText_cons nonblank, tail_eq_nil name closes]
  rfl

/-- A text is empty, or it starts with a blank, or it starts with a word. -/
@[elab_as_elim]
theorem ofText_induction {motive : Text → Prop} (nil : motive [])
    (blank : ∀ c rest, isBlank c = true → motive rest → motive (c :: rest))
    (word : ∀ word rest, EndsAt word rest → motive rest → motive (word ++ rest))
    (text : Text) : motive text := by
  induction length : text.length using Nat.strongRecOn generalizing text with
  | ind n ih =>
      cases text with
      | nil => exact nil
      | cons c rest =>
          subst length
          cases isblank : isBlank c with
          | true => exact blank c rest isblank (ih rest.length (by simp) rest rfl)
          | false =>
              have parts := tail_append_drop c rest
              have ends : EndsAt (c :: tail c rest) (rest.drop (tail c rest).length) :=
                ⟨isblank, by rw [parts]⟩
              have shorter : (rest.drop (tail c rest).length).length < (c :: rest).length := by
                rw [List.length_drop, List.length_cons]
                omega
              have whole := word _ _ ends (ih _ shorter _ rfl)
              rwa [List.cons_append, parts] at whole

theorem stops_nil : Stops [] := by
  simp [Stops]

theorem stops_cons {c : Char} {rest : Text} (name : isNameChar c = false)
    (multiplier : isMultiplierChar c = false) : Stops (c :: rest) := by
  simp [Stops, name, multiplier]

theorem stops_cons_of_isBlank {c : Char} (blank : isBlank c = true) (rest : Text) :
    Stops (c :: rest) :=
  stops_cons (classes_of_isBlank blank).2.1 (classes_of_isBlank blank).2.2

theorem tail_append_of_stops {rest : Text} (stops : Stops rest) (c : Char) (text : Text) :
    tail c (text ++ rest) = tail c text := by
  have names := Text.takeWhile_append_of_head (fun d hd => (stops d hd).1) text
  have multipliers := Text.takeWhile_append_of_head (fun d hd => (stops d hd).2) text
  rw [tail, tail, names, multipliers]

theorem EndsAt.append {word rest after : Text} (ends : EndsAt word rest) (stops : Stops after) :
    EndsAt word (rest ++ after) := by
  cases word with
  | nil => exact ends.elim
  | cons c body =>
      refine ⟨ends.1, ?_⟩
      rw [← List.append_assoc, tail_append_of_stops stops]
      exact ends.2

/-- The three shapes of words. -/
inductive IsWord : Text → Prop
  | name {c : Char} {body : Text} (first : isNameChar c = true)
      (others : ∀ d ∈ body, isNameChar d = true) : IsWord (c :: body)
  | bracket {c : Char} {body : Text} (first : closesGroup c = true)
      (others : ∀ d ∈ body, isMultiplierChar d = true) (lone : isLoneSign body = false) :
      IsWord (c :: body)
  | single {c : Char} (nonblank : isBlank c = false) (name : isNameChar c = false)
      (closes : closesGroup c = false) : IsWord [c]

/-- A name ends in front of everything that is not a name character. -/
theorem endsAt_of_isNameChar {c : Char} {body rest : Text} (first : isNameChar c = true)
    (others : ∀ d ∈ body, isNameChar d = true)
    (stop : ∀ d ∈ rest.head?, isNameChar d = false) : EndsAt (c :: body) rest := by
  refine ⟨isBlank_eq_false_of_isNameChar first, ?_⟩
  rw [tail_of_isNameChar first, Text.takeWhile_append_of_head stop]
  exact List.takeWhile_eq_self_iff.mpr others

/-- A closing bracket with its multiplier ends in front of everything that is not a
multiplier character. -/
theorem endsAt_of_closesGroup {c : Char} {body rest : Text} (first : closesGroup c = true)
    (others : ∀ d ∈ body, isMultiplierChar d = true) (lone : isLoneSign body = false)
    (stop : ∀ d ∈ rest.head?, isMultiplierChar d = false) : EndsAt (c :: body) rest := by
  obtain ⟨nonblank, name, -⟩ := classes_of_closesGroup first
  have own : (body ++ rest).takeWhile isMultiplierChar = body := by
    rw [Text.takeWhile_append_of_head stop]
    exact List.takeWhile_eq_self_iff.mpr others
  refine ⟨nonblank, ?_⟩
  rw [tail, own]
  simp [name, first, lone]

/-- A closing bracket that a single repetition sign follows ends in front of it. -/
theorem endsAt_of_loneSign {c : Char} {rest : Text} (closes : closesGroup c = true)
    (lone : isLoneSign (rest.takeWhile isMultiplierChar) = true) : EndsAt [c] rest := by
  refine ⟨(classes_of_closesGroup closes).1, ?_⟩
  simp [tail, lone, (classes_of_closesGroup closes).2.1]

theorem endsAt_of_single {c : Char} (nonblank : isBlank c = false) (name : isNameChar c = false)
    (closes : closesGroup c = false) (rest : Text) : EndsAt [c] rest :=
  ⟨nonblank, tail_eq_nil name closes _⟩

/-- Every word ends in front of a text that it can take nothing of. -/
theorem IsWord.endsAt {word rest : Text} (isword : IsWord word) (stops : Stops rest) :
    EndsAt word rest := by
  cases isword with
  | name first others => exact endsAt_of_isNameChar first others fun d hd => (stops d hd).1
  | bracket first others lone =>
      exact endsAt_of_closesGroup first others lone fun d hd => (stops d hd).2
  | single nonblank name closes => exact endsAt_of_single nonblank name closes rest

/-- A run of multiplier characters that is a single repetition sign is a word. -/
theorem ofText_of_loneSign {text : Text}
    (lone : isLoneSign (text.takeWhile isMultiplierChar) = true) :
    ofText text =
      text.takeWhile isMultiplierChar :: ofText (text.dropWhile isMultiplierChar) := by
  have parts := List.takeWhile_append_dropWhile (p := isMultiplierChar) (l := text)
  generalize text.takeWhile isMultiplierChar = run at lone parts ⊢
  match run, lone with
  | [c], sign =>
      obtain ⟨symbol, nonblank, name, -⟩ := classes_of_isSign sign
      conv => lhs; rw [← parts]
      exact ofText_cons_single nonblank name (closesGroup_eq_false_of_ofSymbol? symbol) _

/-- Whatever the words of a text are, they have one of the three shapes. -/
theorem EndsAt.isWord {word rest : Text} (ends : EndsAt word rest) : IsWord word := by
  cases word with
  | nil => exact ends.elim
  | cons c body =>
      obtain ⟨nonblank, tail_eq⟩ := ends
      unfold tail at tail_eq
      split at tail_eq
      case isTrue name =>
        apply IsWord.name name
        intro d hd
        rw [← tail_eq] at hd
        exact List.mem_takeWhile_imp hd
      case isFalse name =>
        split at tail_eq
        case isTrue closes =>
          rw [Bool.and_eq_true] at closes
          have lone : isLoneSign body = false := by
            rw [← tail_eq]
            simpa using closes.2
          apply IsWord.bracket closes.1 _ lone
          intro d hd
          rw [← tail_eq] at hd
          exact List.mem_takeWhile_imp hd
        case isFalse closes =>
          subst tail_eq
          cases bracket : closesGroup c with
          | false => exact .single nonblank (by simpa using name) bracket
          | true => exact .bracket bracket (by simp) rfl

theorem IsWord.nonblank {word : Text} (isword : IsWord word) :
    ∀ c ∈ word, isBlank c = false := by
  intro c hc
  cases isword with
  | name first others =>
      rcases List.mem_cons.mp hc with rfl | hc
      · exact isBlank_eq_false_of_isNameChar first
      · exact isBlank_eq_false_of_isNameChar (others c hc)
  | bracket first others lone =>
      rcases List.mem_cons.mp hc with rfl | hc
      · exact (classes_of_closesGroup first).1
      · exact isBlank_eq_false_of_isMultiplierChar (others c hc)
  | single nonblank name closes =>
      rw [List.mem_singleton.mp hc]
      exact nonblank

theorem IsWord.ne_nil {word : Text} (isword : IsWord word) : word ≠ [] := by
  cases isword <;> simp

theorem IsWord.ofText_eq {word : Text} (isword : IsWord word) : ofText word = [word] := by
  have words := ofText_append_of_endsAt (isword.endsAt stops_nil)
  rwa [List.append_nil] at words

theorem EndsAt.ofText_append {word rest : Text} (ends : EndsAt word rest) :
    ofText (word ++ rest) = ofText word ++ ofText rest := by
  rw [ofText_append_of_endsAt ends, ends.isWord.ofText_eq, List.singleton_append]

/-- The words of a text have one of the three shapes. -/
theorem isWord_of_mem_ofText {text word : Text} (member : word ∈ ofText text) : IsWord word := by
  induction text using ofText_induction with
  | nil => simp at member
  | blank c rest blank ih =>
      rw [ofText_cons_of_isBlank blank] at member
      exact ih member
  | word first rest ends ih =>
      rw [ofText_append_of_endsAt ends] at member
      rcases List.mem_cons.mp member with rfl | member
      · exact ends.isWord
      · exact ih member

/-- The words of a text that no word can reach into come behind those of the text
before it. -/
theorem ofText_append_of_stops {after : Text} (stops : Stops after) (text : Text) :
    ofText (text ++ after) = ofText text ++ ofText after := by
  induction text using ofText_induction with
  | nil => simp
  | blank c rest blank ih =>
      rw [List.cons_append, ofText_cons_of_isBlank blank, ofText_cons_of_isBlank blank, ih]
  | word first rest ends ih =>
      rw [List.append_assoc, ofText_append_of_endsAt (ends.append stops),
        ofText_append_of_endsAt ends, ih, List.cons_append]

/-- A blank separates words and does nothing else. -/
theorem ofText_append_cons_of_isBlank {c : Char} (blank : isBlank c = true) (text after : Text) :
    ofText (text ++ c :: after) = ofText text ++ ofText after := by
  rw [ofText_append_of_stops (stops_cons_of_isBlank blank after), ofText_cons_of_isBlank blank]

theorem ofText_eq_nil_of_blank {text : Text} (blank : ∀ c ∈ text, isBlank c = true) :
    ofText text = [] := by
  induction text with
  | nil => exact ofText_nil
  | cons c rest ih =>
      rw [ofText_cons_of_isBlank (blank c (by simp))]
      exact ih fun d hd => blank d (by simp [hd])

theorem ofText_blank_append {gap : Text} (blank : ∀ c ∈ gap, isBlank c = true) (text : Text) :
    ofText (gap ++ text) = ofText text := by
  induction gap with
  | nil => rfl
  | cons c gap ih =>
      rw [List.cons_append, ofText_cons_of_isBlank (blank c (by simp))]
      exact ih fun d hd => blank d (by simp [hd])

theorem ofText_append_blank {gap : Text} (blank : ∀ c ∈ gap, isBlank c = true) (text : Text) :
    ofText (text ++ gap) = ofText text := by
  cases gap with
  | nil => rw [List.append_nil]
  | cons c gap =>
      have rest_blank : ofText gap = [] :=
        ofText_eq_nil_of_blank fun d hd => blank d (by simp [hd])
      rw [ofText_append_cons_of_isBlank (blank c (by simp)), rest_blank, List.append_nil]

/-- The words of a text together are its characters other than blanks. -/
theorem flatten_ofText (text : Text) : (ofText text).flatten = text.filter (!isBlank ·) := by
  induction text using ofText_induction with
  | nil => simp
  | blank c rest blank ih => simp [ofText_cons_of_isBlank blank, blank, ih]
  | word first rest ends ih =>
      have own : first.filter (!isBlank ·) = first :=
        List.filter_eq_self.mpr fun c hc => by simp [ends.isWord.nonblank c hc]
      rw [ofText_append_of_endsAt ends, List.flatten_cons, ih, List.filter_append, own]

theorem filter_eq_of_ofText_eq {first second : Text} (same : ofText first = ofText second) :
    first.filter (!isBlank ·) = second.filter (!isBlank ·) := by
  rw [← flatten_ofText, ← flatten_ofText, same]

end ModuleGrammar.Word
