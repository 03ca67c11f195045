/-
# Lexemes of words

The lexemes of a text are those of its words, where a word has to know whether a
colon stands before it and behind it. Conversely the lexemes determine the words:
a multiplier other than a single repetition sign continues the word of the lexeme
before it, and every other lexeme starts a word. Two texts have the same lexemes if
and only if they have the same words.
-/
import ModuleGrammar.Proofs.Segment
import ModuleGrammar.Proofs.Word

namespace ModuleGrammar

/-- The lexemes of a source: the kinds and texts of its tokens without their
offsets. -/
def Token.lexemes (source : Text) : List Lexeme :=
  (Token.scan source).map (·.toLexeme)

namespace Word

/-- The lexemes of a word, from whether the words before it and behind it are
colons. -/
def lexemes (afterColon beforeColon : Bool) : Text → List Lexeme
  | [] => []
  | c :: body =>
    match Token.Kind.ofSymbol? c with
    | some kind => ⟨kind, [c]⟩ :: if body.isEmpty then [] else [⟨.multiplier, body⟩]
    | none =>
      if isNameChar c then Segment.ofRun afterColon beforeColon (c :: body)
      else [⟨if isSign c then .multiplier else .error, [c]⟩]

/-- The lexemes of words that follow each other. -/
def lexemesAll (afterColon : Bool) : List Text → List Lexeme
  | [] => []
  | word :: rest =>
    lexemes afterColon (rest.head? == some [':']) word ++ lexemesAll (word == [':']) rest

/-- The only word that starts with a colon is the colon. -/
theorem cons_tail_beq_colon (c : Char) (rest : Text) :
    ((c :: tail c rest) == [':']) = (c == ':') := by
  by_cases colon : c = ':'
  · subst colon
    rw [tail_eq_nil (by decide) (by decide)]
    decide
  · simp [colon]

theorem meetsColon_eq_head? (text : Text) :
    Segment.meetsColon text = ((ofText text).head? == some [':']) := by
  induction text with
  | nil => simp [Segment.meetsColon]
  | cons c rest ih =>
      cases blank : isBlank c with
      | true =>
          rw [ofText_cons_of_isBlank blank, ← ih]
          simp [Segment.meetsColon, blank]
      | false =>
          have whole := cons_tail_beq_colon c rest
          rw [ofText_cons blank, List.head?_cons, Segment.meetsColon,
            List.dropWhile_cons_of_neg (by simp [blank]), List.head?_cons]
          simpa using whole.symm

theorem closesGroup_eq_isClosing {c : Char} {kind : Token.Kind}
    (symbol : Token.Kind.ofSymbol? c = some kind) : closesGroup c = kind.isClosing := by
  simp [closesGroup, symbol]

theorem tail_of_repeats {c : Char} (closes : closesGroup c = true) {rest : Text}
    (lone : isLoneSign (rest.takeWhile isMultiplierChar) = false) :
    tail c rest = rest.takeWhile isMultiplierChar := by
  simp [tail, closes, lone, (classes_of_closesGroup closes).2.1]

theorem tail_of_loneSign {c : Char} (closes : closesGroup c = true) {rest : Text}
    (lone : isLoneSign (rest.takeWhile isMultiplierChar) = true) : tail c rest = [] := by
  simp [tail, lone, (classes_of_closesGroup closes).2.1]

theorem lexemes_of_isSign {c : Char} (sign : isSign c = true) (afterColon beforeColon : Bool) :
    lexemes afterColon beforeColon [c] = [⟨.multiplier, [c]⟩] := by
  obtain ⟨symbol, -, name, -⟩ := classes_of_isSign sign
  simp [lexemes, symbol, name, sign]

theorem isLoneSign_iff (text : Text) :
    isLoneSign text = true ↔ ∃ c, text = [c] ∧ isSign c = true := by
  constructor
  · intro lone
    match text, lone with
    | [c], sign => exact ⟨c, rfl, sign⟩
  · rintro ⟨c, rfl, sign⟩
    exact sign

/-- The lexemes that start at a character, followed by those of the words of what
is left. -/
theorem lexemesAll_ofText_cons (afterColon : Bool) {c : Char} (nonblank : isBlank c = false)
    (rest : Text) :
    lexemesAll afterColon (ofText (c :: rest)) =
      (Segment.leading afterColon c rest).1 ++
        lexemesAll (c == ':') (ofText (Segment.leading afterColon c rest).2) := by
  rw [ofText_cons nonblank, lexemesAll, cons_tail_beq_colon]
  refine Segment.leading_cases afterColon c rest ?symbol ?repeats ?name ?sign ?error
  case symbol =>
    intro kind symbol plain
    have alone : tail c rest = [] := by
      have closes := closesGroup_eq_isClosing symbol
      cases closing : kind.isClosing with
      | false => exact tail_eq_nil (classes_of_ofSymbol? symbol).2.1 (closes.trans closing) rest
      | true =>
          have empty := plain closing
          rw [tail_of_repeats (closes.trans closing) (by rw [empty]; rfl), empty]
    simp [lexemes, symbol, alone]
  case repeats =>
    intro kind symbol closing repeats
    have closes := (closesGroup_eq_isClosing symbol).trans closing
    cases lone : isLoneSign (rest.takeWhile isMultiplierChar) with
    | false =>
        rw [tail_of_repeats closes lone, Text.drop_length_takeWhile]
        simp [lexemes, symbol, repeats]
    | true =>
        obtain ⟨d, single, sign⟩ := (isLoneSign_iff _).mp lone
        rw [tail_of_loneSign closes lone, List.length_nil, List.drop_zero,
          ofText_of_loneSign lone, single, lexemesAll, lexemes_of_isSign sign]
        have bracket : (c == ':') = false := by
          rw [beq_eq_false_iff_ne]
          rintro rfl
          cases symbol
          cases closing
        have notColon : ([d] == [':']) = false := by
          rw [beq_eq_false_iff_ne]
          rintro ⟨rfl⟩
          cases sign
        simp [lexemes, symbol, bracket, notColon]
  case name =>
    intro name
    rw [tail_of_isNameChar name, Text.drop_length_takeWhile, ← meetsColon_eq_head?]
    simp [lexemes, ofSymbol?_eq_none_of_isNameChar name, name]
  case sign =>
    intro sign
    obtain ⟨symbol, -, name, -⟩ := classes_of_isSign sign
    rw [tail_eq_nil name (closesGroup_eq_false_of_ofSymbol? symbol), lexemes_of_isSign sign]
    simp
  case error =>
    intro symbol name sign
    rw [tail_eq_nil name (closesGroup_eq_false_of_ofSymbol? symbol)]
    simp [lexemes, symbol, name, sign]

/-- The lexemes of the segments of a text are those of its words. -/
theorem filterMap_lexeme?_ofText (afterColon : Bool) (text : Text) :
    (Segment.ofText afterColon text).filterMap Segment.lexeme? =
      lexemesAll afterColon (ofText text) := by
  induction afterColon, text using Segment.ofText.induct with
  | case1 afterColon => rw [Segment.ofText_nil, ofText_nil, lexemesAll, List.filterMap_nil]
  | case2 afterColon c rest blank ih =>
      rw [Segment.ofText_cons_of_isBlank afterColon blank, ofText_cons_of_isBlank blank, ← ih]
      rfl
  | case3 afterColon c rest nonblank ih =>
      rw [Bool.not_eq_true] at nonblank
      rw [Segment.ofText_cons afterColon nonblank, lexemesAll_ofText_cons afterColon nonblank,
        List.filterMap_append, ih, List.filterMap_map]
      congr 1
      exact List.filterMap_some

/-- The lexemes that a word can have, whatever stands around it. -/
inductive Spelled : Text → List Lexeme → Prop
  | run {c : Char} {body : Text} {kind : Token.Kind} (first : isNameChar c = true)
      (others : ∀ d ∈ body, isNameChar d = true) (kinds : kind = .name ∨ kind = .weight) :
      Spelled (c :: body) [⟨kind, c :: body⟩]
  | divided {c : Char} {body stem digits : Text} (first : isNameChar c = true)
      (others : ∀ d ∈ body, isNameChar d = true) (whole : stem ++ digits = c :: body)
      (numeral : ∀ d ∈ digits, isDigit d = true) :
      Spelled (c :: body) [⟨.name, stem⟩, ⟨.multiplier, digits⟩]
  | closing {c : Char} {shape : Bracket} (closes : closesGroup c = true) :
      Spelled [c] [⟨.closing shape, [c]⟩]
  | repeated {c : Char} {shape : Bracket} {body : Text} (closes : closesGroup c = true)
      (others : ∀ d ∈ body, isMultiplierChar d = true) (lone : isLoneSign body = false) :
      Spelled (c :: body) [⟨.closing shape, [c]⟩, ⟨.multiplier, body⟩]
  | opening {c : Char} {shape : Bracket} (nonblank : isBlank c = false)
      (name : isNameChar c = false) (closes : closesGroup c = false) :
      Spelled [c] [⟨.opening shape, [c]⟩]
  | comma : Spelled [','] [⟨.comma, [',']⟩]
  | colon : Spelled [':'] [⟨.colon, [':']⟩]
  | sign {c : Char} (sign : isSign c = true) : Spelled [c] [⟨.multiplier, [c]⟩]
  | error {c : Char} (nonblank : isBlank c = false) (name : isNameChar c = false)
      (closes : closesGroup c = false) : Spelled [c] [⟨.error, [c]⟩]

theorem spelled_lexemes {word : Text} (isword : IsWord word) (afterColon beforeColon : Bool) :
    Spelled word (lexemes afterColon beforeColon word) := by
  cases isword with
  | @name c body first others =>
      have run : lexemes afterColon beforeColon (c :: body) =
          Segment.ofRun afterColon beforeColon (c :: body) := by
        simp [lexemes, ofSymbol?_eq_none_of_isNameChar first, first]
      rcases Segment.ofRun_cases afterColon beforeColon (List.cons_ne_nil c body) with
        ⟨kind, kinds, whole⟩ | ⟨-, -, divided⟩
      · rw [run, whole]
        exact .run first others kinds
      · rw [run, divided]
        exact .divided first others (Segment.stem_append_trailingDigits _) fun _ =>
          Segment.isDigit_of_mem_trailingDigits
  | @bracket c body first others lone =>
      obtain ⟨kind, symbol, closing⟩ := (closesGroup_iff c).mp first
      obtain ⟨shape, rfl⟩ : ∃ shape, kind = .closing shape := by
        cases kind <;> cases closing
        exact ⟨_, rfl⟩
      cases body with
      | nil => simpa [lexemes, symbol] using Spelled.closing first
      | cons d body => simpa [lexemes, symbol] using Spelled.repeated first others lone
  | @single c nonblank name closes =>
      cases symbol : Token.Kind.ofSymbol? c with
      | some kind =>
          have one : lexemes afterColon beforeColon [c] = [⟨kind, [c]⟩] := by
            simp [lexemes, symbol]
          rw [one]
          rcases ofSymbol?_cases symbol with ⟨shape, rfl⟩ | ⟨shape, rfl⟩ | ⟨rfl, rfl⟩ | ⟨rfl, rfl⟩
          · exact .opening nonblank name closes
          · rw [closesGroup_eq_isClosing symbol] at closes
            cases closes
          · exact .comma
          · exact .colon
      | none =>
          cases sign : isSign c with
          | true => simpa [lexemes, symbol, name, sign] using Spelled.sign sign
          | false => simpa [lexemes, symbol, name, sign] using Spelled.error nonblank name closes

/-- A multiplier other than a single repetition sign stands in the word of the lexeme
before it. -/
def continuesWord (item : Lexeme) : Bool :=
  item.kind == .multiplier && !isLoneSign item.text

/-- The words of lexemes. -/
def regroup : List Lexeme → List Text
  | [] => []
  | [item] => [item.text]
  | item :: next :: rest =>
    if continuesWord next then (item.text ++ next.text) :: regroup rest
    else item.text :: regroup (next :: rest)

theorem isLoneSign_eq_false_of_isDigit {text : Text} (digits : ∀ c ∈ text, isDigit c = true) :
    isLoneSign text = false := by
  rw [Bool.eq_false_iff]
  intro lone
  obtain ⟨c, rfl, sign⟩ := (isLoneSign_iff text).mp lone
  rw [isSign_eq_false_of_isDigit (digits c (by simp))] at sign
  cases sign

theorem regroup_cons (item : Lexeme) {items : List Lexeme}
    (starts : ∀ next ∈ items.head?, continuesWord next = false) :
    regroup (item :: items) = item.text :: regroup items := by
  cases items with
  | nil => rfl
  | cons next items => simp [regroup, starts next (by simp)]

/-- The lexemes of a word form one group, if what follows starts a word. -/
theorem Spelled.regroup_append {word : Text} {items others : List Lexeme}
    (spelled : Spelled word items)
    (starts : ∀ next ∈ others.head?, continuesWord next = false) :
    regroup (items ++ others) = word :: regroup others := by
  cases spelled with
  | divided first body whole numeral =>
      simp [regroup, continuesWord, isLoneSign_eq_false_of_isDigit numeral, whole]
  | repeated closes body lone => simp [regroup, continuesWord, lone]
  | _ => exact regroup_cons _ starts

/-- The first lexeme of a word starts the word. -/
theorem Spelled.starts {word : Text} {items : List Lexeme} (spelled : Spelled word items)
    (others : List Lexeme) : ∀ item ∈ (items ++ others).head?, continuesWord item = false := by
  cases spelled with
  | run first body kinds => rcases kinds with rfl | rfl <;> simp [continuesWord]
  | sign sign => simp [continuesWord, isLoneSign, sign]
  | _ => simp [continuesWord]

theorem lexemesAll_starts {words : List Text} (valid : ∀ word ∈ words, IsWord word)
    (afterColon : Bool) :
    ∀ item ∈ (lexemesAll afterColon words).head?, continuesWord item = false := by
  cases words with
  | nil => simp [lexemesAll]
  | cons word rest => exact (spelled_lexemes (valid word (by simp)) _ _).starts _

/-- The words can be read off from their lexemes. -/
theorem regroup_lexemesAll {words : List Text} (valid : ∀ word ∈ words, IsWord word)
    (afterColon : Bool) : regroup (lexemesAll afterColon words) = words := by
  induction words generalizing afterColon with
  | nil => rfl
  | cons word rest ih =>
      have others : ∀ word ∈ rest, IsWord word := fun other member => valid other (by simp [member])
      have spelled := spelled_lexemes (valid word (by simp)) afterColon (rest.head? == some [':'])
      rw [lexemesAll, spelled.regroup_append (lexemesAll_starts others _), ih others]

/-- Every lexeme belongs to a word. -/
theorem exists_spelled {words : List Text} (valid : ∀ word ∈ words, IsWord word)
    {afterColon : Bool} {item : Lexeme} (member : item ∈ lexemesAll afterColon words) :
    ∃ word items, Spelled word items ∧ item ∈ items := by
  induction words generalizing afterColon with
  | nil => cases member
  | cons word rest ih =>
      rw [lexemesAll, List.mem_append] at member
      rcases member with first | later
      · exact ⟨word, _, spelled_lexemes (valid word List.mem_cons_self) _ _, first⟩
      · exact ih (fun other inside => valid other (List.mem_cons_of_mem _ inside)) later

end Word

namespace Segment

theorem map_toLexeme_place (offset : Nat) (segments : List Segment) :
    (place offset segments).map (·.toLexeme) = segments.filterMap lexeme? := by
  induction segments generalizing offset with
  | nil => rfl
  | cons segment rest ih => cases segment <;> simp [place, lexeme?, List.filterMap_cons, ih]

end Segment

/-- The lexemes of a source are those of its words. -/
theorem Token.lexemes_eq_lexemesAll (source : Text) :
    Token.lexemes source = Word.lexemesAll false (Word.ofText source) := by
  rw [Token.lexemes, Token.scan, Segment.map_toLexeme_place, Word.filterMap_lexeme?_ofText]

/-- Two sources have the same lexemes if and only if they have the same words. -/
theorem Token.lexemes_eq_iff (first second : Text) :
    Token.lexemes first = Token.lexemes second ↔ Word.ofText first = Word.ofText second := by
  rw [Token.lexemes_eq_lexemesAll, Token.lexemes_eq_lexemesAll]
  constructor
  · intro same
    rw [← Word.regroup_lexemesAll (fun _ => Word.isWord_of_mem_ofText) false, same,
      Word.regroup_lexemesAll fun _ => Word.isWord_of_mem_ofText]
  · intro same
    rw [same]

end ModuleGrammar
