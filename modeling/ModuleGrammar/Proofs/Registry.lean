/-
# Identifiers and the names of tokens

Two passes read the names of a source. One collects the maximal runs of name characters, whatever
stands around them. The other one makes tokens: it gives digits in front of a run to a multiplier
behind a closing bracket, and digits at its end to a multiplier of the name. Both find the same
names in the same order, up to such digits. The registry of identifiers has the runs as its keys,
each of them where it appears first.
-/
import Mathlib.Data.List.Forall2
import Mathlib.Data.List.Induction
import ModuleGrammar.Identifier
import ModuleGrammar.Proofs.Classification

namespace ModuleGrammar

theorem Text.isNumeral_eq_false_iff {text : Text} (nonempty : text ≠ []) :
    text.isNumeral = false ↔ ∃ c ∈ text, isDigit c = false := by
  simp [Text.isNumeral, nonempty]

namespace Identifier

theorem runs_nil : runs [] = [] := by
  rw [runs.eq_def]

theorem runs_cons_of_isNameChar {c : Char} (name : isNameChar c = true) (rest : Text) :
    runs (c :: rest) =
      (c :: rest.takeWhile isNameChar) :: runs (rest.dropWhile isNameChar) := by
  rw [runs.eq_def]
  dsimp only
  rw [if_pos name]

theorem runs_cons {c : Char} (other : isNameChar c = false) (rest : Text) :
    runs (c :: rest) = runs rest := by
  rw [runs.eq_def]
  dsimp only
  rw [if_neg (by simp [other])]

/-! ## The runs of a source -/

/-- A maximal run of name characters stands at an offset of a source. -/
structure RunAt (source : Text) (start : Nat) (run : Text) : Prop where
  nonempty : run ≠ []
  names : ∀ c ∈ run, isNameChar c = true
  here : run <+: source.drop start
  before : ∀ c ∈ (source.take start).getLast?, isNameChar c = false
  behind : ∀ c ∈ (source.drop (start + run.length)).head?, isNameChar c = false

section RunAt

variable {source before after run other : Text} {start : Nat}

/-- The run at an offset is determined by it. -/
theorem RunAt.run_eq (found : RunAt source start run) :
    run = (source.drop start).takeWhile isNameChar := by
  obtain ⟨rest, whole⟩ := found.here
  have stop : ∀ c ∈ rest.head?, isNameChar c = false := by
    have behind := found.behind
    rwa [← List.drop_drop, ← whole, List.drop_left] at behind
  rw [← whole, Text.takeWhile_append_of_head stop]
  exact (List.takeWhile_eq_self_iff.mpr found.names).symm

theorem runAt_length (nonempty : run ≠ []) (names : ∀ c ∈ run, isNameChar c = true)
    (front : ∀ c ∈ before.getLast?, isNameChar c = false)
    (behind : ∀ c ∈ after.head?, isNameChar c = false) :
    RunAt (before ++ (run ++ after)) before.length run where
  nonempty := nonempty
  names := names
  here := by
    rw [List.drop_left]
    exact List.prefix_append run after
  before := by rwa [List.take_left]
  behind := by rwa [← List.drop_drop, List.drop_left, List.drop_left]

/-- No run starts inside of another one. -/
theorem RunAt.start_of_inside (names : ∀ c ∈ run, isNameChar c = true)
    (found : RunAt (before ++ (run ++ after)) start other) (inside : before.length ≤ start) :
    start = before.length ∨ before.length + run.length ≤ start := by
  obtain ⟨read, rfl⟩ := Nat.exists_eq_add_of_le inside
  rcases Nat.eq_zero_or_pos read with rfl | positive
  · exact .inl rfl
  · refine .inr (Nat.add_le_add_left (Nat.le_of_not_lt fun short => ?_) _)
    have front := found.before
    rw [List.take_length_add_append, List.take_append_of_le_length short.le,
      List.getLast?_append] at front
    obtain ⟨c, last⟩ : ∃ c, (run.take read).getLast? = some c := by
      refine ⟨_, List.getLast?_eq_some_getLast (List.ne_nil_of_length_pos ?_)⟩
      rw [List.length_take]
      omega
    have outside := front c (by rw [last]; rfl)
    rw [names c (List.mem_of_mem_take (List.mem_of_getLast? last))] at outside
    cases outside

end RunAt

/-- The runs of a text behind another one, from which no run reaches into the text. -/
theorem exists_runs (before text : Text)
    (apart : (∀ c ∈ before.getLast?, isNameChar c = false) ∨
      ∀ c ∈ text.head?, isNameChar c = false) :
    ∃ found : List (Nat × Text), found.map (·.2) = runs text ∧
      found.Pairwise (fun first second => first.1 < second.1) ∧
      ∀ start run, (start, run) ∈ found ↔
        before.length ≤ start ∧ RunAt (before ++ text) start run := by
  induction text using runs.induct generalizing before with
  | case1 =>
      refine ⟨[], by rw [runs_nil]; rfl, .nil, fun start run => iff_of_false (by simp) ?_⟩
      rintro ⟨behind, found⟩
      have here := found.here
      rw [List.append_nil, List.drop_eq_nil_of_le behind] at here
      exact found.nonempty (List.prefix_nil.mp here)
  | case2 c rest name ih =>
      have names : ∀ d ∈ c :: rest.takeWhile isNameChar, isNameChar d = true :=
        List.forall_mem_cons.mpr ⟨name, fun _ => List.mem_takeWhile_imp⟩
      have stop : ∀ d ∈ (rest.dropWhile isNameChar).head?, isNameChar d = false := by
        intro d first
        have stop := List.head?_dropWhile_not isNameChar rest
        rwa [Option.mem_def.mp first] at stop
      have front : ∀ d ∈ before.getLast?, isNameChar d = false := by
        refine apart.resolve_right fun other => ?_
        rw [other c rfl] at name
        cases name
      have whole : c :: rest =
          (c :: rest.takeWhile isNameChar) ++ rest.dropWhile isNameChar := by
        rw [List.cons_append, List.takeWhile_append_dropWhile]
      obtain ⟨found, texts, ordered, complete⟩ :=
        ih (before ++ (c :: rest.takeWhile isNameChar)) (.inr stop)
      rw [List.append_assoc, ← whole, List.length_append] at complete
      have first : RunAt (before ++ c :: rest) before.length (c :: rest.takeWhile isNameChar) := by
        rw [whole]
        exact runAt_length (List.cons_ne_nil _ _) names front stop
      refine ⟨(before.length, c :: rest.takeWhile isNameChar) :: found, ?_, ?_, ?_⟩
      · rw [List.map_cons, texts, runs_cons_of_isNameChar name]
      · refine List.Pairwise.cons (fun later member => ?_) ordered
        have behind := ((complete later.1 later.2).mp member).1
        rw [List.length_cons] at behind
        show before.length < later.1
        omega
      · intro start run
        rw [List.mem_cons, complete]
        constructor
        · rintro (same | ⟨behind, here⟩)
          · cases same
            exact ⟨Nat.le_refl _, first⟩
          · exact ⟨by omega, here⟩
        · rintro ⟨inside, here⟩
          have placed := here
          rw [whole] at placed
          rcases placed.start_of_inside names inside with rfl | behind
          · rw [here.run_eq, first.run_eq]
            exact .inl rfl
          · exact .inr ⟨behind, here⟩
  | case3 c rest other ih =>
      rw [Bool.not_eq_true] at other
      obtain ⟨found, texts, ordered, complete⟩ := ih (before ++ [c]) (.inl (by simpa using other))
      refine ⟨found, by rw [texts, runs_cons other], ordered, fun start run => ?_⟩
      rw [complete, List.append_assoc, List.singleton_append, List.length_append,
        List.length_singleton]
      refine ⟨fun inside => ⟨by omega, inside.2⟩, fun inside => ⟨?_, inside.2⟩⟩
      -- At the character itself no run can stand.
      refine Nat.lt_of_le_of_ne inside.1 fun here => ?_
      obtain ⟨nonempty, names, starts, -⟩ := inside.2
      rw [← here, List.drop_left] at starts
      obtain ⟨d, body, rfl⟩ := List.exists_cons_of_ne_nil nonempty
      rw [(List.cons_prefix_cons.mp starts).1] at names
      rw [names c List.mem_cons_self] at other
      cases other

/-! ## Runs and names -/

/-- The runs of a text that are no numerals. -/
def words (text : Text) : List Text :=
  (runs text).filter (!·.isNumeral)

/-- The names among lexemes that are no numerals. -/
def names (items : List Lexeme) : List Text :=
  (items.filter fun item => item.kind == .name && !item.text.isNumeral).map (·.text)

/-- A run is a name with digits around it. -/
def Wraps (run name : Text) : Prop :=
  ∃ front back, (∀ c ∈ front, isDigit c = true) ∧ (∀ c ∈ back, isDigit c = true) ∧
    run = front ++ name ++ back

theorem Wraps.cons {run name : Text} (wraps : Wraps run name) {digit : Char}
    (isdigit : isDigit digit = true) : Wraps (digit :: run) name := by
  obtain ⟨front, back, leading, trailing, rfl⟩ := wraps
  exact ⟨digit :: front, back, List.forall_mem_cons.mpr ⟨isdigit, leading⟩, trailing, rfl⟩

theorem words_cons {c : Char} (other : isNameChar c = false) (rest : Text) :
    words (c :: rest) = words rest := by
  rw [words, runs_cons other, words]

theorem words_cons_of_isNameChar {c : Char} (name : isNameChar c = true) (rest : Text) :
    words (c :: rest) =
      if Text.isNumeral (c :: rest.takeWhile isNameChar) then words (rest.dropWhile isNameChar)
      else (c :: rest.takeWhile isNameChar) :: words (rest.dropWhile isNameChar) := by
  rw [words, runs_cons_of_isNameChar name, List.filter_cons]
  cases Text.isNumeral (c :: rest.takeWhile isNameChar) <;> rfl

theorem names_append (items others : List Lexeme) :
    names (items ++ others) = names items ++ names others := by
  simp [names]

theorem isNameChar_of_isDigit {c : Char} (digit : isDigit c = true) : isNameChar c = true := by
  simp [isNameChar, digit]

/-- A digit in front of a text starts no word, but it may belong to the first one. -/
theorem forall₂_words_digit {digit : Char} (isdigit : isDigit digit = true) {text : Text}
    {others : List Text} (wraps : List.Forall₂ Wraps (words text) others) :
    List.Forall₂ Wraps (words (digit :: text)) others := by
  have alone : Text.isNumeral [digit] = true := by simp [Text.isNumeral, isdigit]
  rw [words_cons_of_isNameChar (isNameChar_of_isDigit isdigit)]
  cases text with
  | nil =>
      rw [List.takeWhile_nil, List.dropWhile_nil, if_pos alone]
      exact wraps
  | cons c rest =>
      cases name : isNameChar c with
      | false =>
          rw [List.takeWhile_cons_of_neg (by simp [name]), List.dropWhile_cons_of_neg
            (by simp [name]), if_pos alone]
          exact wraps
      | true =>
          have same : Text.isNumeral (digit :: c :: rest.takeWhile isNameChar) =
              Text.isNumeral (c :: rest.takeWhile isNameChar) := by
            simp [Text.isNumeral, isdigit]
          rw [words_cons_of_isNameChar name] at wraps
          rw [List.takeWhile_cons_of_pos name, List.dropWhile_cons_of_pos name, same]
          split at wraps
          case isTrue numeral => rwa [if_pos numeral]
          case isFalse numeral =>
            rw [if_neg numeral]
            cases wraps with
            | cons first rest => exact .cons (first.cons isdigit) rest

/-- Multiplier characters in front of a text start no word. -/
theorem forall₂_words_repeats {repeats : Text} (all : ∀ c ∈ repeats, isMultiplierChar c = true)
    {text : Text} {others : List Text} (wraps : List.Forall₂ Wraps (words text) others) :
    List.Forall₂ Wraps (words (repeats ++ text)) others := by
  induction repeats with
  | nil => exact wraps
  | cons c repeats ih =>
      rw [List.forall_mem_cons] at all
      have later := ih all.2
      cases digit : isDigit c with
      | true => exact forall₂_words_digit digit later
      | false =>
          have sign : isSign c = true := by simpa [isMultiplierChar, digit, isSign] using all.1
          rwa [List.cons_append, words_cons (classes_of_isSign sign).2.2.1]

/-- The name of a run is its word, up to digits at the end. -/
theorem wraps_ofRun {run : Text} (numeral : run.isNumeral = false) (afterColon beforeColon : Bool) :
    ∃ name, names (Segment.ofRun afterColon beforeColon run) = [name] ∧ Wraps run name := by
  unfold Segment.ofRun
  rw [if_neg (by simp [numeral])]
  split
  case isTrue =>
    refine ⟨run, by simp [names, numeral], [], [], List.forall_mem_nil _, List.forall_mem_nil _, ?_⟩
    rw [List.nil_append, List.append_nil]
  case isFalse =>
    have kept : (Segment.stem run).isNumeral = false := by
      rw [Bool.eq_false_iff]
      intro isNumeral
      exact Segment.not_endsWithDigit_stem run (Text.endsWithDigit_of_isNumeral isNumeral)
    refine ⟨Segment.stem run, by simp [names, kept], [], Segment.trailingDigits run,
      List.forall_mem_nil _, fun _ => Segment.isDigit_of_mem_trailingDigits, ?_⟩
    rw [List.nil_append, Segment.stem_append_trailingDigits]

theorem names_ofRun_of_isNumeral {run : Text} (numeral : run.isNumeral = true)
    (afterColon beforeColon : Bool) : names (Segment.ofRun afterColon beforeColon run) = [] := by
  cases afterColon <;> simp [Segment.ofRun, names, numeral]

theorem names_cons_of_ne {kind : Token.Kind} (other : kind ≠ .name) (text : Text)
    (items : List Lexeme) : names (⟨kind, text⟩ :: items) = names items := by
  simp [names, other]

theorem ne_name_of_ofSymbol? {c : Char} {kind : Token.Kind}
    (symbol : Token.Kind.ofSymbol? c = some kind) : kind ≠ .name := by
  rcases ofSymbol?_cases symbol with ⟨shape, rfl⟩ | ⟨shape, rfl⟩ | ⟨rfl, -⟩ | ⟨rfl, -⟩ <;> simp

/-- The words at a character correspond to the names at it, if those behind do. -/
theorem forall₂_leading (afterColon : Bool) (c : Char) (rest : Text) {others : List Text}
    (later : List.Forall₂ Wraps (words (Segment.leading afterColon c rest).2) others) :
    List.Forall₂ Wraps (words (c :: rest))
      (names (Segment.leading afterColon c rest).1 ++ others) := by
  revert later
  refine Segment.leading_cases afterColon c rest ?symbol ?repeats ?name ?sign ?error
  case symbol =>
    intro kind symbol _ later
    rw [words_cons (classes_of_ofSymbol? symbol).2.1,
      names_cons_of_ne (ne_name_of_ofSymbol? symbol)]
    exact later
  case repeats =>
    intro kind symbol _ _ later
    have all : ∀ d ∈ rest.takeWhile isMultiplierChar, isMultiplierChar d = true :=
      fun _ => List.mem_takeWhile_imp
    have whole := forall₂_words_repeats all later
    rw [List.takeWhile_append_dropWhile] at whole
    rw [words_cons (classes_of_ofSymbol? symbol).2.1,
      names_cons_of_ne (ne_name_of_ofSymbol? symbol), names_cons_of_ne (by simp)]
    exact whole
  case name =>
    intro name later
    rw [words_cons_of_isNameChar name]
    split
    case isTrue numeral => rwa [names_ofRun_of_isNumeral numeral]
    case isFalse numeral =>
      obtain ⟨stem, named, wraps⟩ := wraps_ofRun (Bool.eq_false_iff.mpr numeral) afterColon
        (Segment.meetsColon (rest.dropWhile isNameChar))
      rw [named]
      exact .cons wraps later
  case sign =>
    intro sign later
    rw [words_cons (classes_of_isSign sign).2.2.1, names_cons_of_ne (by simp)]
    exact later
  case error =>
    intro _ name _ later
    rw [words_cons name, names_cons_of_ne (by simp)]
    exact later

/-- The words of a text correspond to the names that a scan finds in it. -/
theorem forall₂_words (afterColon : Bool) (text : Text) :
    List.Forall₂ Wraps (words text)
      (names ((Segment.ofText afterColon text).filterMap Segment.lexeme?)) := by
  induction afterColon, text using Segment.ofText.induct with
  | case1 afterColon =>
      rw [Segment.ofText_nil, words, runs_nil]
      exact .nil
  | case2 afterColon c rest blank ih =>
      rw [Segment.ofText_cons_of_isBlank afterColon blank,
        words_cons (classes_of_isBlank blank).2.1]
      exact ih
  | case3 afterColon c rest nonblank ih =>
      have lexemes : ((Segment.leading afterColon c rest).1.map Segment.lexeme).filterMap
          Segment.lexeme? = (Segment.leading afterColon c rest).1 := by
        rw [List.filterMap_map]
        exact List.filterMap_some
      rw [Segment.ofText_cons afterColon (by simpa using nonblank), List.filterMap_append, lexemes,
        names_append]
      exact forall₂_leading afterColon c rest ih

/-! ## The registry -/

theorem keys_enter (key value : Text) (entries : List (Text × Text)) :
    (enter key value entries).map (·.1) =
      if key ∈ entries.map (·.1) then entries.map (·.1) else entries.map (·.1) ++ [key] := by
  induction entries with
  | nil => rfl
  | cons entry rest ih =>
      rw [enter]
      by_cases same : entry.1 = key
      · simp [same]
      · rw [if_neg same, List.map_cons, ih]
        by_cases there : key ∈ rest.map (·.1) <;> simp [there, Ne.symm same]

theorem eq_or_mem_of_mem_enter {key value : Text} {entries : List (Text × Text)}
    {entry : Text × Text} (member : entry ∈ enter key value entries) :
    entry = (key, value) ∨ entry ∈ entries := by
  induction entries with
  | nil => exact .inl (List.mem_singleton.mp member)
  | cons first rest ih =>
      rw [enter] at member
      split at member
      case isTrue => exact (List.mem_cons.mp member).imp_right (List.mem_cons_of_mem first)
      case isFalse =>
        rcases List.mem_cons.mp member with rfl | later
        · exact .inr List.mem_cons_self
        · exact (ih later).imp_right (List.mem_cons_of_mem first)

/-- The dictionary that some words are entered into, each of them under itself. -/
def register (words : List Text) : List (Text × Text) :=
  words.foldl (fun found word => enter word word found) []

theorem register_concat (words : List Text) (word : Text) :
    register (words ++ [word]) = enter word word (register words) := by
  simp [register]

theorem eq_of_mem_register {words : List Text} {entry : Text × Text}
    (member : entry ∈ register words) : entry.2 = entry.1 := by
  induction words using List.reverseRecOn with
  | nil => cases member
  | append_singleton words word ih =>
      rw [register_concat] at member
      rcases eq_or_mem_of_mem_enter member with rfl | before
      · rfl
      · exact ih before

theorem mem_keys_register (words : List Text) (key : Text) :
    key ∈ (register words).map (·.1) ↔ key ∈ words := by
  induction words using List.reverseRecOn with
  | nil => rfl
  | append_singleton words word ih =>
      rw [register_concat, keys_enter, List.mem_append, List.mem_singleton, ← ih]
      split
      case isTrue there =>
        refine ⟨.inl, ?_⟩
        rintro (before | rfl)
        · exact before
        · exact there
      case isFalse => rw [List.mem_append, List.mem_singleton]

/-- A word is entered where it appears first. -/
theorem keys_register_ordered (words : List Text) :
    ((register words).map (·.1)).Pairwise fun first second =>
      words.idxOf first < words.idxOf second := by
  induction words using List.reverseRecOn with
  | nil => exact .nil
  | append_singleton words word ih =>
      have kept : ((register words).map (·.1)).Pairwise fun first second =>
          (words ++ [word]).idxOf first < (words ++ [word]).idxOf second := by
        refine ih.imp_of_mem fun first second before => ?_
        rw [mem_keys_register] at first second
        rwa [List.idxOf_append_of_mem first, List.idxOf_append_of_mem second]
      rw [register_concat, keys_enter]
      split
      case isTrue => exact kept
      case isFalse new =>
        refine List.pairwise_append.mpr ⟨kept, List.pairwise_singleton _ _, ?_⟩
        intro key there last same
        rw [List.mem_singleton.mp same]
        rw [mem_keys_register] at there new
        rw [List.idxOf_append_of_mem there, List.idxOf_append_of_notMem new]
        exact Nat.lt_add_right _ (List.idxOf_lt_length_iff.mpr there)

end Identifier

open Identifier

/-- The maximal runs of name characters that are not all digits and the names among the tokens
that are not all digits correspond one by one, in their order. A run is its name with digits in
front and behind. The registry of identifiers maps each of these runs to itself, in the order of
their first appearance and once for all of its appearances, and nothing else. -/
theorem registry_matches_names (source : Text) :
    ∃ found : List (Nat × Text),
      (∀ start run, (start, run) ∈ found ↔
        RunAt source start run ∧ ∃ c ∈ run, isDigit c = false) ∧
      found.Pairwise (fun first second => first.1 < second.1) ∧
      List.Forall₂ Wraps (found.map (·.2))
        (((Token.scan source).filter fun token => token.kind == .name && !token.text.isNumeral).map
          (·.text)) ∧
      (∀ entry ∈ registry source, entry.2 = entry.1 ∧ entry.1.isNumeral = false) ∧
      (∀ key, key ∈ (registry source).map (·.1) ↔ key ∈ found.map (·.2)) ∧
      ((registry source).map (·.1)).Pairwise fun first second =>
        (found.map (·.2)).idxOf first < (found.map (·.2)).idxOf second := by
  obtain ⟨runs, texts, ordered, complete⟩ := exists_runs [] source (.inl (by simp))
  have found : (runs.filter fun run => !run.2.isNumeral).map (·.2) = words source := by
    rw [words, ← texts, List.filter_map]
    rfl
  have tokens : ((Token.scan source).filter fun token =>
      token.kind == .name && !token.text.isNumeral).map (·.text) =
        names (Token.lexemes source) := by
    rw [names, Token.lexemes, List.filter_map, List.map_map]
    rfl
  have lexemes : Token.lexemes source =
      (Segment.ofText false source).filterMap Segment.lexeme? :=
    Segment.map_toLexeme_place 0 _
  refine ⟨runs.filter fun run => !run.2.isNumeral, ?_, ordered.filter _, ?_, ?_, ?_, ?_⟩
  · intro start run
    rw [List.mem_filter, complete, Bool.not_eq_true']
    constructor
    · rintro ⟨⟨-, here⟩, numeral⟩
      exact ⟨here, (Text.isNumeral_eq_false_iff here.nonempty).mp numeral⟩
    · rintro ⟨here, letter⟩
      exact ⟨⟨Nat.zero_le _, here⟩, (Text.isNumeral_eq_false_iff here.nonempty).mpr letter⟩
  · rw [found, tokens, lexemes]
    exact forall₂_words false source
  · intro entry member
    refine ⟨eq_of_mem_register member, ?_⟩
    have key := (mem_keys_register (words source) entry.1).mp (List.mem_map_of_mem member)
    simpa using (List.mem_filter.mp key).2
  · rw [found]
    exact mem_keys_register (words source)
  · rw [found]
    exact keys_register_ordered (words source)

end ModuleGrammar
