/-
# Words across a seam

Where two texts are put together, a word can reach from the first one into the second.
Only the end of the first text matters for that: its open run, a name or a closing
bracket with its multiplier that more characters can be added to. The main result says
when a part of a text can be replaced by another one with the same words: the words
that reach over the two seams have to take the same characters along.
-/
import Mathlib.Data.List.Induction
import ModuleGrammar.Proofs.Word

namespace ModuleGrammar.Word

/-- The rest of the word that reaches over the first `n` characters of the words. -/
def overlap : List Text → Nat → Text
  | [], _ => []
  | word :: rest, n =>
    if word.length ≤ n then overlap rest (n - word.length)
    else if n = 0 then [] else word.drop n

/-- The characters of `after` that belong to a word which starts in `before`. -/
def across (before after : Text) : Text :=
  overlap (ofText (before ++ after)) (before.countP (!isBlank ·))

theorem overlap_append (first second : List Text) (n : Nat) :
    overlap (first ++ second) (first.flatten.length + n) = overlap second n := by
  induction first with
  | nil => simp
  | cons word rest ih =>
      have enough : word.length ≤ (word :: rest).flatten.length + n := by
        simp only [List.flatten_cons, List.length_append]
        omega
      have remaining : (word :: rest).flatten.length + n - word.length =
          rest.flatten.length + n := by
        simp only [List.flatten_cons, List.length_append]
        omega
      rw [List.cons_append, overlap, if_pos enough, remaining]
      exact ih

theorem overlap_ofText_zero (text : Text) : overlap (ofText text) 0 = [] := by
  cases words : ofText text with
  | nil => rfl
  | cons word rest =>
      have member : word ∈ ofText text := by simp [words]
      have nonempty := List.length_pos_iff.mpr (isWord_of_mem_ofText member).ne_nil
      rw [overlap, if_neg (by omega), if_pos rfl]

theorem length_flatten_ofText (text : Text) :
    (ofText text).flatten.length = text.countP (!isBlank ·) := by
  rw [flatten_ofText, List.countP_eq_length_filter]

/-- Words that stand before a seam as a whole do not matter to what reaches over it. -/
theorem across_append {before run after : Text}
    (cut : ofText (before ++ run ++ after) = ofText before ++ ofText (run ++ after)) :
    across (before ++ run) after = across run after := by
  rw [across, cut, List.countP_append, ← length_flatten_ofText before, overlap_append]
  rfl

theorem across_eq_nil {before after : Text}
    (apart : ofText (before ++ after) = ofText before ++ ofText after) :
    across before after = [] := by
  rw [across, apart, ← length_flatten_ofText before, ← Nat.add_zero (List.length _),
    overlap_append, overlap_ofText_zero]

/-- A word that is cut into two parts takes the second part along. -/
theorem across_of_endsAt {run taken rest : Text} (nonempty : run ≠ []) (taken_ne : taken ≠ [])
    (ends : EndsAt (run ++ taken) rest) : across run (taken ++ rest) = taken := by
  have own : run.countP (!isBlank ·) = run.length :=
    List.countP_eq_length.mpr fun c hc => by
      simp [ends.isWord.nonblank c (List.mem_append_left _ hc)]
  have run_length := List.length_pos_iff.mpr nonempty
  have taken_length := List.length_pos_iff.mpr taken_ne
  rw [across, own, ← List.append_assoc, ofText_append_of_endsAt ends, overlap,
    if_neg (by simp; omega), if_neg (by omega), List.drop_left]

/-- The end of a text that a word can grow from. -/
inductive IsRun : Text → Prop
  | nil : IsRun []
  | name {c : Char} {body : Text} (first : isNameChar c = true)
      (others : ∀ d ∈ body, isNameChar d = true) : IsRun (c :: body)
  | bracket {c : Char} {body : Text} (first : closesGroup c = true)
      (others : ∀ d ∈ body, isMultiplierChar d = true) : IsRun (c :: body)

/-- The words of a bracket run are found before the text behind it is read. -/
theorem ofText_bracket_append {c : Char} {body after : Text} (first : closesGroup c = true)
    (others : ∀ d ∈ body, isMultiplierChar d = true)
    (stop : ∀ d ∈ after.head?, isMultiplierChar d = false) :
    ofText (c :: body ++ after) = ofText (c :: body) ++ ofText after := by
  cases lone : isLoneSign body with
  | false => exact (endsAt_of_closesGroup first others lone stop).ofText_append
  | true =>
      -- The bracket ends in front of the sign, and the sign is a word by itself.
      have words (rest : Text) (stop : ∀ d ∈ rest.head?, isMultiplierChar d = false) :
          ofText ([c] ++ (body ++ rest)) = [c] :: body :: ofText rest := by
        have own : (body ++ rest).takeWhile isMultiplierChar = body := by
          rw [Text.takeWhile_append_of_head stop]
          exact List.takeWhile_eq_self_iff.mpr others
        have sign := ofText_of_loneSign (by rw [own, lone])
        rw [← Text.drop_length_takeWhile, own, List.drop_left] at sign
        rw [ofText_append_of_endsAt (endsAt_of_loneSign first (by rw [own, lone])), sign]
      have alone := words [] (by simp)
      rw [List.append_nil] at alone
      have whole := words after stop
      rw [← List.append_assoc] at whole
      rw [List.singleton_append] at alone whole
      rw [whole, alone]
      rfl

/-- What follows a run stays apart from it, or the run takes the first characters of
it along. -/
theorem IsRun.joins {run : Text} (isrun : IsRun run) (after : Text) :
    ofText (run ++ after) = ofText run ++ ofText after ∨
      ∃ taken rest, run ≠ [] ∧ taken ≠ [] ∧ after = taken ++ rest ∧
        EndsAt (run ++ taken) rest := by
  cases isrun with
  | nil => exact .inl rfl
  | @name c body first others =>
      obtain ⟨taken, rest, rfl, names, stop⟩ := Text.exists_run isNameChar after
      by_cases nothing : taken = []
      · subst nothing
        exact .inl (endsAt_of_isNameChar first others stop).ofText_append
      · refine .inr ⟨taken, rest, List.cons_ne_nil c body, nothing, rfl, ?_⟩
        apply endsAt_of_isNameChar first _ stop
        intro d hd
        exact (List.mem_append.mp hd).elim (others d) (names d)
  | @bracket c body first others =>
      obtain ⟨taken, rest, rfl, multipliers, stop⟩ := Text.exists_run isMultiplierChar after
      by_cases nothing : taken = []
      · subst nothing
        exact .inl (ofText_bracket_append first others stop)
      · cases lone : isLoneSign (body ++ taken) with
        | false =>
            refine .inr ⟨taken, rest, List.cons_ne_nil c body, nothing, rfl, ?_⟩
            apply endsAt_of_closesGroup first _ lone stop
            intro d hd
            exact (List.mem_append.mp hd).elim (others d) (multipliers d)
        | true =>
            have own : (taken ++ rest).takeWhile isMultiplierChar = taken := by
              rw [Text.takeWhile_append_of_head stop]
              exact List.takeWhile_eq_self_iff.mpr multipliers
            have short := length_of_isLoneSign lone
            have taken_length := List.length_pos_iff.mpr nothing
            rw [List.length_append] at short
            have empty : body = [] := List.length_eq_zero_iff.mp (by omega)
            subst empty
            exact .inl (endsAt_of_loneSign first (by rw [own]; exact lone)).ofText_append

/-- All characters of a word behind the first one are of the same class. -/
theorem IsWord.tail_cases {c : Char} {body : Text} (isword : IsWord (c :: body)) :
    (isNameChar c = true ∧ ∀ d ∈ body, isNameChar d = true) ∨
      (closesGroup c = true ∧ ∀ d ∈ body, isMultiplierChar d = true) ∨ body = [] := by
  cases isword with
  | name first others => exact .inl ⟨first, others⟩
  | bracket first others lone => exact .inr (.inl ⟨first, others⟩)
  | single nonblank name closes => exact .inr (.inr rfl)

/-- A word that is cut behind its first character starts with a run. -/
theorem isRun_of_isWord {run taken : Text} {c : Char} (nonempty : run ≠ [])
    (isword : IsWord (run ++ c :: taken)) : IsRun (run ++ [c]) := by
  cases run with
  | nil => exact absurd rfl nonempty
  | cons d body =>
      have whole : d :: body ++ c :: taken = d :: (body ++ [c] ++ taken) := by simp
      rw [whole] at isword
      rcases isword.tail_cases with ⟨first, names⟩ | ⟨first, multipliers⟩ | empty
      · apply IsRun.name first
        intro e he
        exact names e (List.mem_append_left taken he)
      · apply IsRun.bracket first
        intro e he
        exact multipliers e (List.mem_append_left taken he)
      · simp at empty

/-- A character that starts no run is a blank or a word by itself. -/
theorem ofText_cons_of_not_isRun {c : Char} (single : ¬ IsRun [c]) (after : Text) :
    ofText (c :: after) = ofText [c] ++ ofText after := by
  have name : isNameChar c = false := by
    rw [← Bool.not_eq_true]
    exact fun first => single (.name first (by simp))
  have closes : closesGroup c = false := by
    rw [← Bool.not_eq_true]
    exact fun first => single (.bracket first (by simp))
  cases blank : isBlank c with
  | true => rw [ofText_cons_of_isBlank blank, ofText_cons_of_isBlank blank]; rfl
  | false => exact (endsAt_of_single blank name closes after).ofText_append

/-- Every text ends in a run, and all words that start before the run end before it,
whatever follows the text. -/
theorem exists_openRun (text : Text) :
    ∃ before run, text = before ++ run ∧ IsRun run ∧
      ∀ after, ofText (text ++ after) = ofText before ++ ofText (run ++ after) := by
  induction text using List.reverseRecOn with
  | nil => exact ⟨[], [], rfl, .nil, fun after => rfl⟩
  | append_singleton text c ih =>
      obtain ⟨before, run, parts, isrun, cut⟩ := ih
      by_cases grows : IsRun (run ++ [c])
      · refine ⟨before, run ++ [c], by rw [parts, List.append_assoc], grows, ?_⟩
        intro after
        rw [List.append_assoc, cut, List.append_assoc]
      · -- The run ends in front of `c`, so all words of the text do.
        have ends (after : Text) :
            ofText (text ++ c :: after) = ofText text ++ ofText (c :: after) := by
          have words := cut []
          rw [List.append_nil, List.append_nil] at words
          rcases isrun.joins (c :: after) with
            apart | ⟨taken, rest, nonempty, taken_ne, split, joined⟩
          · rw [cut, apart, words, List.append_assoc]
          · cases taken with
            | nil => exact absurd rfl taken_ne
            | cons d taken =>
                cases split
                exact absurd (isRun_of_isWord nonempty joined.isWord) grows
        by_cases fresh : IsRun [c]
        · refine ⟨text, [c], rfl, fresh, ?_⟩
          intro after
          rw [List.append_assoc]
          exact ends after
        · refine ⟨text ++ [c], [], by simp, .nil, ?_⟩
          intro after
          rw [List.append_assoc, List.singleton_append, ends, ends,
            ofText_cons_of_not_isRun fresh, List.append_assoc]
          rfl

theorem IsRun.across_eq_nil_iff {run : Text} (isrun : IsRun run) (after : Text) :
    across run after = [] ↔ ofText (run ++ after) = ofText run ++ ofText after := by
  refine ⟨?_, across_eq_nil⟩
  intro nothing
  rcases isrun.joins after with apart | ⟨taken, rest, nonempty, taken_ne, rfl, ends⟩
  · exact apart
  · rw [across_of_endsAt nonempty taken_ne ends] at nothing
    exact absurd nothing taken_ne

/-- A run that takes something along becomes a word with it. -/
theorem IsRun.endsAt_of_across {run after : Text} (isrun : IsRun run)
    (taken_ne : across run after ≠ []) :
    run ≠ [] ∧ ∃ rest, after = across run after ++ rest ∧
      EndsAt (run ++ across run after) rest := by
  rcases isrun.joins after with apart | ⟨taken, rest, nonempty, nonempty_taken, rfl, ends⟩
  · exact absurd (across_eq_nil apart) taken_ne
  · rw [across_of_endsAt nonempty nonempty_taken ends]
    exact ⟨nonempty, rest, rfl, ends⟩

/-- A run is a word, or a closing bracket and a repetition sign. -/
theorem IsRun.ofText_eq {run : Text} (isrun : IsRun run) (nonempty : run ≠ []) :
    ofText run = [run] ∨ ∃ c d, run = [c, d] ∧ isSign d = true ∧ ofText run = [[c], [d]] := by
  cases isrun with
  | nil => exact absurd rfl nonempty
  | name first others => exact .inl (IsWord.name first others).ofText_eq
  | @bracket c body first others =>
      cases lone : isLoneSign body with
      | false => exact .inl (IsWord.bracket first others lone).ofText_eq
      | true =>
          match body, lone with
          | [d], sign =>
              obtain ⟨symbol, nonblank, name, -⟩ := classes_of_isSign sign
              have closes := closesGroup_eq_false_of_ofSymbol? symbol
              have own : [d].takeWhile isMultiplierChar = [d] :=
                List.takeWhile_eq_self_iff.mpr others
              have bracket : EndsAt [c] [d] := endsAt_of_loneSign first (by rw [own]; exact sign)
              refine .inr ⟨c, d, rfl, sign, ?_⟩
              rw [← List.singleton_append, ofText_append_of_endsAt bracket,
                (IsWord.single nonblank name closes).ofText_eq]

/-- Words that end in a run do not end in a repetition sign. -/
theorem IsRun.append_ne {first second : List Text} {run : Text} {c d : Char}
    (isrun : IsRun run) (sign : isSign d = true) : first ++ [run] ≠ second ++ [[c], [d]] := by
  intro same
  have last : run = [d] := by simpa using congrArg List.getLast? same
  obtain ⟨symbol, -, name, -⟩ := classes_of_isSign sign
  subst last
  cases isrun with
  | name first others => simp [name] at first
  | bracket first others => simp [closesGroup_eq_false_of_ofSymbol? symbol] at first

/-- The run at the end of a text can be told from its words. -/
theorem append_ofText_run_inj {first second : List Text} {run other : Text}
    (isrun : IsRun run) (isother : IsRun other) (nonempty : run ≠ []) (other_ne : other ≠ [])
    (same : first ++ ofText run = second ++ ofText other) : first = second ∧ run = other := by
  rcases isrun.ofText_eq nonempty with whole | ⟨c, d, rfl, sign, divided⟩
  · rcases isother.ofText_eq other_ne with whole' | ⟨c', d', rfl, sign', divided'⟩
    · rw [whole, whole'] at same
      simpa using List.append_inj' same rfl
    · rw [whole, divided'] at same
      exact absurd same (isrun.append_ne sign')
  · rcases isother.ofText_eq other_ne with whole' | ⟨c', d', rfl, sign', divided'⟩
    · rw [whole', divided] at same
      exact absurd same.symm (isother.append_ne sign)
    · rw [divided, divided'] at same
      simpa using List.append_inj' same rfl

/-- Texts with the same words can be followed by a text with the same effect, if they
take the same characters of it along. -/
theorem ofText_append_congr {first second after : Text} (same : ofText first = ofText second)
    (seam : across first after = across second after) :
    ofText (first ++ after) = ofText (second ++ after) := by
  obtain ⟨before, run, rfl, isrun, cut⟩ := exists_openRun first
  obtain ⟨before', run', rfl, isrun', cut'⟩ := exists_openRun second
  have words : ofText before ++ ofText run = ofText before' ++ ofText run' := by
    have all := cut []
    have all' := cut' []
    simp only [List.append_nil] at all all'
    rw [← all, ← all', same]
  rw [across_append (cut after), across_append (cut' after)] at seam
  rw [cut, cut']
  by_cases nothing : across run after = []
  · have apart := (isrun.across_eq_nil_iff after).mp nothing
    have apart' := (isrun'.across_eq_nil_iff after).mp (seam ▸ nothing)
    rw [apart, apart', ← List.append_assoc, ← List.append_assoc, words]
  · -- Both texts end in a run that grows. Their words show that it is the same run.
    have nonempty := (isrun.endsAt_of_across nothing).1
    have nonempty' := (isrun'.endsAt_of_across (seam ▸ nothing)).1
    obtain ⟨before_eq, rfl⟩ := append_ofText_run_inj isrun isrun' nonempty nonempty' words
    rw [before_eq]

/-- Name characters at the start of a text are a word, if there are any. -/
theorem ofText_names_append {names rest : Text} (all : ∀ c ∈ names, isNameChar c = true)
    (stop : ∀ c ∈ rest.head?, isNameChar c = false) :
    ofText (names ++ rest) = ofText names ++ ofText rest := by
  cases names with
  | nil => rfl
  | cons c names =>
      have others : ∀ d ∈ names, isNameChar d = true := fun d hd => all d (by simp [hd])
      exact (endsAt_of_isNameChar (all c (by simp)) others stop).ofText_append

/-- A text without closing brackets can be taken away from the start of two texts. -/
theorem ofText_append_cancel {text first second : Text}
    (unclosed : ∀ c ∈ text, closesGroup c = false)
    (same : ofText (text ++ first) = ofText (text ++ second)) :
    ofText first = ofText second := by
  obtain ⟨before, run, parts, isrun, cut⟩ := exists_openRun text
  rw [cut, cut] at same
  have same := List.append_cancel_left same
  cases isrun with
  | nil => exact same
  | @bracket c body closes others =>
      have opens := unclosed c (by simp [parts])
      rw [closes] at opens
      cases opens
  | @name c body name others =>
      obtain ⟨names, rest, rfl, all, stop⟩ := Text.exists_run isNameChar first
      obtain ⟨names', rest', rfl, all', stop'⟩ := Text.exists_run isNameChar second
      have joined {names rest : Text} (all : ∀ d ∈ names, isNameChar d = true)
          (stop : ∀ d ∈ rest.head?, isNameChar d = false) :
          ofText (c :: body ++ (names ++ rest)) = (c :: body ++ names) :: ofText rest := by
        rw [← List.append_assoc]
        apply ofText_append_of_endsAt
        apply endsAt_of_isNameChar name _ stop
        intro d hd
        exact (List.mem_append.mp hd).elim (others d) (all d)
      rw [joined all stop, joined all' stop', List.cons.injEq] at same
      rw [ofText_names_append all stop, ofText_names_append all' stop',
        List.append_cancel_left same.1, same.2]

/-- What the outer words take along at both ends is the same for two texts between the
same neighbours. -/
def SameSeams (before first second after : Text) : Prop :=
  across before (first ++ after) = across before (second ++ after) ∧
    across (before ++ first) after = across (before ++ second) after

instance (before first second after : Text) : Decidable (SameSeams before first second after) :=
  inferInstanceAs (Decidable (_ ∧ _))

/-- A text that a word takes as a whole has no blanks, so only one text has its words and
is followed by the rest of the word. -/
theorem eq_of_taken_whole {taken old new after rest rest' : Text}
    (nonblank : ∀ c ∈ taken, isBlank c = false) (same : ofText old = ofText new)
    (split : old ++ after = taken ++ rest) (split' : new ++ after = taken ++ rest')
    (long : old.length < taken.length) : old = new := by
  have own {text : Text} (inside : text <+: taken) : text.filter (!isBlank ·) = text :=
    List.filter_eq_self.mpr fun c hc => by simp [nonblank c (inside.subset hc)]
  have chars := filter_eq_of_ofText_eq same
  have inside : old <+: taken :=
    List.prefix_of_prefix_length_le (List.prefix_append old after)
      (split ▸ List.prefix_append taken rest) (Nat.le_of_lt long)
  rw [own inside] at chars
  by_cases short : new.length ≤ taken.length
  · have inside' : new <+: taken :=
      List.prefix_of_prefix_length_le (List.prefix_append new after)
        (split' ▸ List.prefix_append taken rest') short
    rw [chars, own inside']
  · -- Otherwise `new` would have all characters of `taken`, more than `old` has.
    have outside : taken <+: new :=
      List.prefix_of_prefix_length_le (split' ▸ List.prefix_append taken rest')
        (List.prefix_append new after) (by omega)
    have fewer := (outside.filter (!isBlank ·)).length_le
    rw [own (List.prefix_refl taken), ← chars] at fewer
    omega

theorem closesGroup_eq_false_of_mem_taken {run taken : Text} (nonempty : run ≠ [])
    (isword : IsWord (run ++ taken)) : ∀ c ∈ taken, closesGroup c = false := by
  intro c hc
  rw [← Bool.not_eq_true]
  intro closes
  obtain ⟨-, name, multiplier⟩ := classes_of_closesGroup closes
  cases run with
  | nil => exact nonempty rfl
  | cons d body =>
      have member : c ∈ body ++ taken := List.mem_append_right body hc
      rw [List.cons_append] at isword
      rcases isword.tail_cases with ⟨-, names⟩ | ⟨-, multipliers⟩ | empty
      · simp [names c member] at name
      · simp [multipliers c member] at multiplier
      · simp [empty] at member

/-- A replacement behind a run. -/
theorem IsRun.ofText_splice {run old new after : Text} (isrun : IsRun run)
    (same : ofText old = ofText new) (seams : SameSeams run old new after) :
    ofText (run ++ (old ++ after)) = ofText (run ++ (new ++ after)) := by
  obtain ⟨left, right⟩ := seams
  by_cases nothing : across run (old ++ after) = []
  · have apart := (isrun.across_eq_nil_iff _).mp nothing
    have apart' := (isrun.across_eq_nil_iff _).mp (left ▸ nothing)
    rw [← List.append_assoc] at apart apart'
    rw [across_append apart, across_append apart'] at right
    rw [← List.append_assoc, ← List.append_assoc, apart, apart',
      ofText_append_congr same right]
  · obtain ⟨nonempty, rest, split, ends⟩ := isrun.endsAt_of_across nothing
    obtain ⟨-, rest', split', ends'⟩ := isrun.endsAt_of_across (left ▸ nothing)
    rw [← left] at split' ends'
    generalize across run (old ++ after) = taken at split split' ends ends'
    have nonblank : ∀ c ∈ taken, isBlank c = false := fun c hc =>
      ends.isWord.nonblank c (List.mem_append_right run hc)
    by_cases long : old.length < taken.length
    · rw [eq_of_taken_whole nonblank same split split' long]
    by_cases long' : new.length < taken.length
    · rw [eq_of_taken_whole nonblank same.symm split' split long']
    -- The word ends inside of both texts, and what follows it there has the same words.
    obtain ⟨old', rfl⟩ : taken <+: old :=
      List.prefix_of_prefix_length_le (split ▸ List.prefix_append taken rest)
        (List.prefix_append old after) (by omega)
    obtain ⟨new', rfl⟩ : taken <+: new :=
      List.prefix_of_prefix_length_le (split' ▸ List.prefix_append taken rest')
        (List.prefix_append new after) (by omega)
    rw [List.append_assoc] at split split'
    cases List.append_cancel_left split
    cases List.append_cancel_left split'
    have same' : ofText old' = ofText new' :=
      ofText_append_cancel (closesGroup_eq_false_of_mem_taken nonempty ends.isWord) same
    have cut := ends.ofText_append
    have cut' := ends'.ofText_append
    rw [← List.append_assoc] at cut cut' right
    rw [← List.append_assoc run, across_append cut, across_append cut'] at right
    simp only [← List.append_assoc]
    rw [cut, cut', ofText_append_congr same' right]

/-- A part of a text can be replaced by a text with the same words exactly if the seams
stay the same. -/
theorem ofText_splice_iff {before old new after : Text} (same : ofText old = ofText new) :
    ofText (before ++ old ++ after) = ofText (before ++ new ++ after) ↔
      SameSeams before old new after := by
  constructor
  · intro words
    have count : (before ++ old).countP (!isBlank ·) = (before ++ new).countP (!isBlank ·) := by
      rw [List.countP_append, List.countP_append, ← length_flatten_ofText old, same,
        length_flatten_ofText]
    constructor
    · rw [across, across, ← List.append_assoc, ← List.append_assoc, words]
    · rw [across, across, words, count]
  · rintro ⟨left, right⟩
    obtain ⟨outer, run, rfl, isrun, cut⟩ := exists_openRun before
    have seams : SameSeams run old new after := by
      rw [across_append (cut _), across_append (cut _)] at left
      have cut' (text : Text) : ofText (outer ++ (run ++ text) ++ after) =
          ofText outer ++ ofText (run ++ text ++ after) := by
        have moved := cut (text ++ after)
        simpa only [List.append_assoc] using moved
      rw [List.append_assoc, List.append_assoc, across_append (cut' old),
        across_append (cut' new)] at right
      exact ⟨left, right⟩
    rw [List.append_assoc, List.append_assoc _ new, cut, cut, isrun.ofText_splice same seams]

/-- No word reaches over an edge behind a blank. -/
theorem across_of_isBlank_getLast {before : Text}
    (blank : ∀ c ∈ before.getLast?, isBlank c = true) (after : Text) :
    across before after = [] := by
  induction before using List.reverseRecOn with
  | nil => exact overlap_ofText_zero after
  | append_singleton before c _ =>
      have blank : isBlank c = true := blank c (by simp)
      apply across_eq_nil
      rw [List.append_assoc, List.singleton_append, ofText_append_cons_of_isBlank blank,
        ofText_append_cons_of_isBlank blank, ofText_nil, List.append_nil]

theorem across_of_stops {after : Text} (stops : Stops after) (before : Text) :
    across before after = [] :=
  across_eq_nil (ofText_append_of_stops stops before)

/-- Any two texts fit between blanks. -/
theorem sameSeams_of_isBlank {before after : Text}
    (front : ∀ c ∈ before.getLast?, isBlank c = true)
    (back : ∀ c ∈ after.head?, isBlank c = true) (first second : Text) :
    SameSeams before first second after := by
  have stops : Stops after := by
    intro c head
    obtain ⟨-, name, multiplier⟩ := classes_of_isBlank (back c head)
    exact ⟨name, multiplier⟩
  constructor
  · rw [across_of_isBlank_getLast front, across_of_isBlank_getLast front]
  · rw [across_of_stops stops, across_of_stops stops]

end ModuleGrammar.Word
