/-
# What the kind of a token says

The scan finds the kind of a token from its first character, from the token before it and from
the characters behind it, blanks included. Afterwards only the tokens are left. This module says
what can be relied on then, for a token between its neighbours: which texts a kind allows, what
may stand before and behind it, and when it touches the token before it. The check asks for less
than that, so two of its findings never come up for the tokens of a source.
-/
import ModuleGrammar.Proofs.Coverage
import ModuleGrammar.Proofs.Message
import ModuleGrammar.Proofs.Printing
import ModuleGrammar.Proofs.Report

namespace ModuleGrammar

open ModuleGrammar.Tree (RunOf)

namespace Text

/-- The last character of a text is a digit. -/
def EndsWithDigit (text : Text) : Prop :=
  ∃ c ∈ text.getLast?, isDigit c = true

theorem runOf_isDigit_of_isNumeral {text : Text} (numeral : text.isNumeral = true) :
    RunOf isDigit text := by
  rwa [isNumeral, Bool.and_eq_true, Bool.not_eq_true', List.isEmpty_eq_false_iff,
    List.all_eq_true] at numeral

theorem endsWithDigit_of_isNumeral {text : Text} (numeral : text.isNumeral = true) :
    EndsWithDigit text := by
  obtain ⟨nonempty, digits⟩ := runOf_isDigit_of_isNumeral numeral
  exact ⟨text.getLast nonempty, List.getLast_mem_getLast? nonempty,
    digits _ (List.getLast_mem nonempty)⟩

end Text

namespace Token

/-- The characters that are tokens by themselves: brackets, separators and repetition signs. -/
def symbols : List Char :=
  ['[', ']', '{', '}', '<', '>', ',', ':', '*', '+']

/-- A name between its neighbours. -/
structure FitsName (previous next : Option Token) (token : Token) : Prop where
  run : RunOf isNameChar token.text
  numeral : token.text.isNumeral = true → ∀ other ∈ previous, other.kind ≠ .colon
  digits : token.text.isNumeral = false → token.text.EndsWithDigit →
    ∃ other ∈ next, other.kind = .colon

/-- A weight behind its neighbour. -/
structure FitsWeight (previous : Option Token) (token : Token) : Prop where
  run : RunOf isDigit token.text
  colon : ∃ other ∈ previous, other.kind = .colon

/-- A multiplier between its neighbours: a repetition sign, or what touches a closing bracket, or
the trailing digits of a name. -/
inductive FitsMultiplier (previous next : Option Token) (token : Token) : Prop
  | sign (sign : token.text = ['*'] ∨ token.text = ['+'])
  | ofGroup (group : Token) (before : previous = some group)
      (closes : group.kind.isClosing = true) (touches : token.offset = group.stop)
      (run : RunOf isMultiplierChar token.text)
  | ofName (name : Token) (before : previous = some name) (kind : name.kind = .name)
      (stem : ∃ c ∈ name.text.getLast?, isDigit c = false) (touches : token.offset = name.stop)
      (run : RunOf isDigit token.text) (apart : ∀ other ∈ next, other.kind ≠ .colon)

/-- A character that starts no lexeme. -/
structure FitsError (token : Token) (c : Char) : Prop where
  text_eq : token.text = [c]
  nonblank : isBlank c = false
  name : isNameChar c = false
  symbol : c ∉ symbols

/-- A token fits between its neighbours. Brackets and separators are what their kind says,
whatever stands around them. -/
def Fits (previous next : Option Token) (token : Token) : Prop :=
  match token.kind with
  | .name => FitsName previous next token
  | .weight => FitsWeight previous token
  | .multiplier => FitsMultiplier previous next token
  | .error => ∃ c, FitsError token c
  | kind => ∃ c, token.text = [c] ∧ Kind.ofSymbol? c = some kind

/-- All tokens of a list fit, the first one behind `previous`. -/
def FitAll : Option Token → List Token → Prop
  | _, [] => True
  | previous, token :: rest => Fits previous rest.head? token ∧ FitAll (some token) rest

/-- The token in front of the one with an index, where `previous` stands before the first one. -/
def before (previous : Option Token) (tokens : List Token) : Nat → Option Token
  | 0 => previous
  | index + 1 => tokens[index]?

theorem FitAll.fits {previous : Option Token} {tokens : List Token}
    (fit : FitAll previous tokens) {index : Nat} {token : Token}
    (found : tokens[index]? = some token) :
    Fits (before previous tokens index) tokens[index + 1]? token := by
  induction tokens generalizing previous index with
  | nil => cases found
  | cons first rest ih =>
      cases index with
      | zero =>
          cases found
          cases rest <;> exact fit.1
      | succ index =>
          have fits := ih fit.2 found
          cases index <;> exact fits

end Token

namespace Segment

open Token

theorem isDigit_getLast?_stem (run : Text) : ∀ c ∈ (stem run).getLast?, isDigit c = false := by
  intro c last
  have stop := List.head?_dropWhile_not isDigit run.reverse
  rw [stem, List.getLast?_reverse, Option.mem_def] at last
  rw [last] at stop
  exact stop

theorem kind_eq_colon_iff {c : Char} {kind : Token.Kind}
    (symbol : Token.Kind.ofSymbol? c = some kind) : kind = .colon ↔ c = ':' := by
  constructor
  · rintro rfl
    rcases ofSymbol?_cases symbol with ⟨shape, other⟩ | ⟨shape, other⟩ | ⟨other, -⟩ | ⟨-, colon⟩
    · cases other
    · cases other
    · cases other
    · exact colon
  · rintro rfl
    cases symbol
    rfl

theorem ne_colon_of_ofSymbol? {c : Char} (symbol : Token.Kind.ofSymbol? c = none) : c ≠ ':' := by
  rintro rfl
  cases symbol

/-- The first lexeme at a character is a colon exactly if the character is one. -/
theorem exists_first_leading (afterColon : Bool) (c : Char) (rest : Text) :
    ∃ item items, (leading afterColon c rest).1 = item :: items ∧
      (item.kind = .colon ↔ c = ':') := by
  refine leading_cases afterColon c rest ?symbol ?repeats ?name ?sign ?error
  case symbol => exact fun kind symbol _ => ⟨_, _, rfl, kind_eq_colon_iff symbol⟩
  case repeats => exact fun kind symbol _ _ => ⟨_, _, rfl, kind_eq_colon_iff symbol⟩
  case name =>
    intro name
    have other := ne_colon_of_ofSymbol? (ofSymbol?_eq_none_of_isNameChar name)
    rcases ofRun_cases afterColon (meetsColon (rest.dropWhile isNameChar))
      (List.cons_ne_nil c (rest.takeWhile isNameChar)) with ⟨kind, kinds, whole⟩ | ⟨-, -, divided⟩
    · refine ⟨_, _, whole, iff_of_false ?_ other⟩
      rcases kinds with rfl | rfl <;> simp
    · exact ⟨_, _, divided, iff_of_false (by simp) other⟩
  case sign =>
    intro sign
    have other := ne_colon_of_ofSymbol? (classes_of_isSign sign).1
    exact ⟨_, _, rfl, iff_of_false (by simp) other⟩
  case error =>
    intro symbol _ _
    exact ⟨_, _, rfl, iff_of_false (by simp) (ne_colon_of_ofSymbol? symbol)⟩

/-- The first token of a text is a colon exactly if the first character that is not blank is
one. -/
theorem head?_place_iff (offset : Nat) (afterColon : Bool) (text : Text) :
    (∃ token ∈ (place offset (ofText afterColon text)).head?, token.kind = .colon) ↔
      meetsColon text = true := by
  induction text generalizing offset with
  | nil => simp [ofText_nil, place, meetsColon]
  | cons c rest ih =>
      cases blank : isBlank c with
      | true =>
          rw [ofText_cons_of_isBlank afterColon blank, place, ih]
          simp [meetsColon, blank]
      | false =>
          obtain ⟨item, items, first, colon⟩ := exists_first_leading afterColon c rest
          rw [ofText_cons afterColon blank, first]
          simp [place, meetsColon, blank, colon]

/-- The colon that a scan has met last is the token before. -/
def Agrees (afterColon : Bool) (previous : Option Token) : Prop :=
  afterColon = true ↔ ∃ other ∈ previous, other.kind = .colon

theorem not_endsWithDigit_stem (run : Text) : ¬ (stem run).EndsWithDigit := by
  rintro ⟨c, last, digit⟩
  rw [isDigit_getLast?_stem run c last] at digit
  cases digit

/-- The lexemes of a run fit, if those behind them do. -/
theorem fitAll_ofRun {afterColon : Bool} {previous : Option Token}
    (agrees : Agrees afterColon previous) {run : Text} (names : RunOf isNameChar run)
    (offset : Nat) {after : Text}
    (later : ∀ (offset : Nat) (last : Token), last.kind ≠ .colon →
      FitAll (some last) (place offset (ofText false after))) :
    FitAll previous (place offset
      ((ofRun afterColon (meetsColon after) run).map .lexeme ++ ofText false after)) := by
  have next (offset : Nat) := head?_place_iff offset false after
  unfold ofRun
  split
  case isTrue numeral =>
    cases afterColon with
    | true =>
        exact ⟨⟨Text.runOf_isDigit_of_isNumeral numeral, agrees.mp rfl⟩,
          later _ ⟨⟨.weight, run⟩, offset⟩ (by simp)⟩
    | false =>
        refine ⟨⟨names, fun _ other member colon => ?_, fun other => ?_⟩,
          later _ ⟨⟨.name, run⟩, offset⟩ (by simp)⟩
        · cases agrees.mpr ⟨other, member, colon⟩
        · cases numeral.symm.trans other
  case isFalse numeral =>
    rw [Bool.not_eq_true] at numeral
    split
    case isTrue whole =>
      refine ⟨⟨names, fun isNumeral => ?_, fun _ digit => (next _).mpr ?_⟩,
        later _ ⟨⟨.name, run⟩, offset⟩ (by simp)⟩
      · cases isNumeral.symm.trans numeral
      · -- Without a colon behind it the run has no trailing digits.
        rw [Bool.or_eq_true, List.isEmpty_iff] at whole
        refine whole.resolve_right fun none => ?_
        have stem_eq := stem_append_trailingDigits run
        rw [none, List.append_nil] at stem_eq
        rw [← stem_eq] at digit
        exact not_endsWithDigit_stem run digit
    case isFalse divided =>
      rw [Bool.or_eq_true, not_or, List.isEmpty_iff, Bool.not_eq_true] at divided
      have parts := stem_append_trailingDigits run
      have nonempty := stem_ne_nil names.1 numeral
      have stemRun : RunOf isNameChar (stem run) :=
        ⟨nonempty, fun c member => names.2 c (parts ▸ List.mem_append_left _ member)⟩
      refine ⟨⟨stemRun, fun isNumeral => ?_, fun _ digit => ?_⟩, ?_,
        later _ ⟨⟨.multiplier, trailingDigits run⟩, offset + (stem run).length⟩ (by simp)⟩
      · exact absurd (Text.endsWithDigit_of_isNumeral isNumeral) (not_endsWithDigit_stem run)
      · exact absurd digit (not_endsWithDigit_stem run)
      · have last := List.getLast_mem_getLast? nonempty
        refine .ofName _ rfl rfl ⟨_, last, isDigit_getLast?_stem run _ last⟩ ?_
          ⟨divided.2, fun _ => isDigit_of_mem_trailingDigits⟩ fun other follows colon => ?_
        · rfl
        · have meets := (next _).mp ⟨other, follows, colon⟩
          rw [divided.1] at meets
          cases meets

theorem fits_symbol {c : Char} {kind : Token.Kind} (symbol : Token.Kind.ofSymbol? c = some kind)
    (previous next : Option Token) (offset : Nat) : Fits previous next ⟨⟨kind, [c]⟩, offset⟩ := by
  rcases ofSymbol?_cases symbol with ⟨shape, rfl⟩ | ⟨shape, rfl⟩ | ⟨rfl, -⟩ | ⟨rfl, -⟩ <;>
    exact ⟨c, rfl, symbol⟩

theorem not_mem_symbols {c : Char} (symbol : Token.Kind.ofSymbol? c = none)
    (sign : isSign c = false) : c ∉ symbols := by
  intro member
  simp only [symbols, List.mem_cons, List.not_mem_nil, or_false] at member
  rcases member with rfl | rfl | rfl | rfl | rfl | rfl | rfl | rfl | rfl | rfl
  case inr.inr.inr.inr.inr.inr.inr.inr.inl => cases sign
  case inr.inr.inr.inr.inr.inr.inr.inr.inr => cases sign
  all_goals cases symbol

/-- The lexemes at a character fit, if those behind them do. -/
theorem fitAll_leading {afterColon : Bool} {previous : Option Token}
    (agrees : Agrees afterColon previous) {c : Char} (nonblank : isBlank c = false) (rest : Text)
    (offset : Nat)
    (later : ∀ (offset : Nat) (last : Token), (last.kind = .colon ↔ c = ':') →
      FitAll (some last) (place offset (ofText (c == ':') (leading afterColon c rest).2))) :
    FitAll previous (place offset ((leading afterColon c rest).1.map .lexeme ++
      ofText (c == ':') (leading afterColon c rest).2)) := by
  revert later
  refine leading_cases afterColon c rest ?symbol ?repeats ?name ?sign ?error
  case symbol =>
    intro kind symbol _ later
    exact ⟨fits_symbol symbol _ _ offset, later _ ⟨⟨kind, [c]⟩, offset⟩ (kind_eq_colon_iff symbol)⟩
  case repeats =>
    intro kind symbol closing nonempty later
    have other : c ≠ ':' := by
      rw [ne_eq, ← kind_eq_colon_iff symbol]
      rintro rfl
      cases closing
    refine ⟨fits_symbol symbol _ _ offset, ?_,
      later _ ⟨⟨.multiplier, _⟩, _⟩ (iff_of_false (by simp) other)⟩
    exact .ofGroup _ rfl closing rfl ⟨nonempty, fun _ => List.mem_takeWhile_imp⟩
  case name =>
    intro name later
    have other := ne_colon_of_ofSymbol? (ofSymbol?_eq_none_of_isNameChar name)
    have names : RunOf isNameChar (c :: rest.takeWhile isNameChar) :=
      ⟨List.cons_ne_nil _ _, List.forall_mem_cons.mpr ⟨name, fun _ => List.mem_takeWhile_imp⟩⟩
    rw [beq_false_of_ne other] at later ⊢
    exact fitAll_ofRun agrees names offset fun offset last noColon =>
      later offset last (iff_of_false noColon other)
  case sign =>
    intro sign later
    have other := ne_colon_of_ofSymbol? (classes_of_isSign sign).1
    refine ⟨.sign ?_, later _ ⟨⟨.multiplier, [c]⟩, offset⟩ (iff_of_false (by simp) other)⟩
    simpa [isSign] using sign
  case error =>
    intro symbol name sign later
    have other := ne_colon_of_ofSymbol? symbol
    exact ⟨⟨c, rfl, nonblank, name, not_mem_symbols symbol sign⟩,
      later _ ⟨⟨.error, [c]⟩, offset⟩ (iff_of_false (by simp) other)⟩

/-- The tokens of a text fit behind the token before it. -/
theorem fitAll_place {afterColon : Bool} {previous : Option Token}
    (agrees : Agrees afterColon previous) (offset : Nat) (text : Text) :
    FitAll previous (place offset (ofText afterColon text)) := by
  induction afterColon, text using ofText.induct generalizing previous offset with
  | case1 afterColon =>
      rw [ofText_nil]
      trivial
  | case2 afterColon c rest blank ih =>
      rw [ofText_cons_of_isBlank afterColon blank]
      exact ih agrees (offset + 1)
  | case3 afterColon c rest nonblank ih =>
      rw [Bool.not_eq_true] at nonblank
      rw [ofText_cons afterColon nonblank]
      refine fitAll_leading agrees nonblank rest offset fun offset last colon => ih ?_ offset
      simp [Agrees, colon]

end Segment

theorem Token.fitAll_scan (source : Text) : FitAll none (scan source) :=
  Segment.fitAll_place (by simp [Segment.Agrees]) 0 source

/-- Tokens of a source that stand at the same offset are the same. -/
theorem Token.index_eq_of_offset_eq {source : Text} {i j : Nat} {first second : Token}
    (found : (scan source)[i]? = some first) (found' : (scan source)[j]? = some second)
    (same : first.offset = second.offset) : i = j := by
  obtain ⟨inside, rfl⟩ := List.getElem?_eq_some_iff.mp found
  obtain ⟨inside', rfl⟩ := List.getElem?_eq_some_iff.mp found'
  have ordered := List.pairwise_iff_getElem.mp (covers_scan source).pairwise
  rcases Nat.lt_trichotomy i j with below | same_index | above
  · have := (ordered i j inside inside' below).1
    omega
  · exact same_index
  · have := (ordered j i inside' inside above).1
    omega

theorem Finding.exists_invalidMultiplier {finding : Finding}
    (topic : finding.topic = .invalidMultiplier []) :
    ∃ text, finding = .invalidMultiplier text := by
  cases finding with
  | invalidMultiplier text => exact ⟨text, rfl⟩
  | _ => cases topic

namespace Check

section Multiplier

variable {state : State} {previous next : Option Token.Kind} {token : Token}
  {diagnostic : Diagnostic}

/-- A multiplier is stray if it follows neither a name nor a closing bracket. -/
theorem stray_of_mem_review (found : diagnostic ∈ review state previous next token)
    (said : diagnostic.finding = .strayMultiplier) :
    token.kind = .multiplier ∧ diagnostic.offset = token.offset ∧
      ∀ kind ∈ previous, kind ≠ .name ∧ kind.isClosing = false := by
  have about := isAbout_of_mem_review found
  cases kind : token.kind with
  | multiplier =>
      rw [review, kind] at found
      rcases List.mem_append.mp found with stray | invalid
      · obtain ⟨condition, rfl⟩ := mem_report_iff.mp stray
        refine ⟨rfl, rfl, ?_⟩
        simpa [Option.any_eq_false] using condition
      · obtain ⟨-, rfl⟩ := mem_report_iff.mp invalid
        cases said
  | _ =>
      rw [said, kind] at about
      cases about

/-- A multiplier is invalid by its text alone. -/
theorem invalid_of_mem_review (found : diagnostic ∈ review state previous next token)
    {text : Text} (said : diagnostic.finding = .invalidMultiplier text) :
    diagnostic.offset = token.offset ∧ isMultiplier token.text = false := by
  have about := isAbout_of_mem_review found
  cases kind : token.kind with
  | multiplier =>
      rw [review, kind] at found
      rcases List.mem_append.mp found with stray | invalid
      · obtain ⟨-, rfl⟩ := mem_report_iff.mp stray
        cases said
      · obtain ⟨condition, rfl⟩ := mem_report_iff.mp invalid
        exact ⟨rfl, by simpa using condition⟩
  | _ =>
      rw [said, kind] at about
      cases about

end Multiplier

theorem kindBefore_none (tokens : List Token) (index : Nat) :
    kindBefore none tokens index = (Token.before none tokens index).map (·.kind) := by
  cases index <;> rfl

theorem mem_reviewAll_of_mem_ofTokens {tokens : List Token} {diagnostic : Diagnostic}
    (found : diagnostic ∈ Diagnostic.ofTokens tokens)
    (review : diagnostic.finding.ofReview = true) :
    diagnostic ∈ reviewAll .initial none tokens := by
  rw [ofTokens_eq, List.mem_append] at found
  refine found.resolve_right fun unclosed => ?_
  obtain ⟨frame, -, rfl⟩ := List.mem_map.mp unclosed
  cases review

/-- A stray multiplier of a source is a repetition sign, which is valid by itself. -/
theorem isMultiplier_of_stray {previous next : Option Token} {token : Token}
    (fits : Token.FitsMultiplier previous next token)
    (stray : ∀ kind ∈ previous.map (·.kind), kind ≠ .name ∧ kind.isClosing = false) :
    isMultiplier token.text = true := by
  cases fits with
  | sign sign => rcases sign with text | text <;> rw [text] <;> rfl
  | ofGroup group before closes touches run =>
      rw [before] at stray
      rw [(stray group.kind rfl).2] at closes
      cases closes
  | ofName name before kind stem touches run apart =>
      rw [before] at stray
      exact absurd kind (stray name.kind rfl).1

/-- A weight of a source is never reported to miss its colon. -/
theorem finding_ne_weightWithoutColon {source : Text} {diagnostic : Diagnostic}
    (found : diagnostic ∈ Diagnostic.ofTokens (Token.scan source)) :
    diagnostic.finding ≠ .weightWithoutColon := by
  intro said
  have reviewed := mem_reviewAll_of_mem_ofTokens found (by rw [said]; rfl)
  obtain ⟨index, token, present, reviewed⟩ := exists_mem_review_between reviewed
  have fits := (Token.fitAll_scan source).fits present
  have about := isAbout_of_mem_review reviewed
  cases kind : token.kind with
  | weight =>
      rw [Token.Fits, kind] at fits
      obtain ⟨colon, before, isColon⟩ := fits.colon
      rw [review, kind, kindBefore_none, before] at reviewed
      obtain ⟨condition, -⟩ := mem_report_iff.mp reviewed
      simp [isColon] at condition
  | _ =>
      rw [said, kind] at about
      cases about

/-- A stray multiplier of a source is not reported to be invalid. -/
theorem offset_ne_of_stray {source : Text} {first second : Diagnostic}
    (found : first ∈ Diagnostic.ofTokens (Token.scan source))
    (found' : second ∈ Diagnostic.ofTokens (Token.scan source))
    (stray : first.finding = .strayMultiplier) {text : Text}
    (invalid : second.finding = .invalidMultiplier text) : first.offset ≠ second.offset := by
  intro same
  have reviewed := mem_reviewAll_of_mem_ofTokens found (by rw [stray]; rfl)
  have reviewed' := mem_reviewAll_of_mem_ofTokens found' (by rw [invalid]; rfl)
  obtain ⟨index, token, present, reviewed⟩ := exists_mem_review_between reviewed
  obtain ⟨index', token', present', reviewed'⟩ := exists_mem_review_between reviewed'
  obtain ⟨kind, offset, alone⟩ := stray_of_mem_review reviewed stray
  obtain ⟨offset', notMultiplier⟩ := invalid_of_mem_review reviewed' invalid
  -- Both reports stand at one offset, so they are about one token.
  obtain rfl : index = index' :=
    Token.index_eq_of_offset_eq present present' (by rw [← offset, ← offset', same])
  obtain rfl : token = token' := Option.some.inj (present.symm.trans present')
  have fits := (Token.fitAll_scan source).fits present
  rw [Token.Fits, kind] at fits
  rw [kindBefore_none] at alone
  rw [isMultiplier_of_stray fits alone] at notMultiplier
  cases notMultiplier

end Check

/-- Every token of a source fits between its neighbours. So the check of a source never says that
a weight misses its colon, and it never says of one multiplier both that it is stray and that it
is invalid. -/
theorem scan_classifies_tokens (source : Text) :
    (∀ index token, (Token.scan source)[index]? = some token →
        Token.Fits (Token.before none (Token.scan source) index) (Token.scan source)[index + 1]?
          token) ∧
      (∀ diagnostic ∈ Diagnostic.ofTokens (Token.scan source),
        diagnostic.message ≠ "Weight value must follow a colon".toList) ∧
      ∀ first ∈ Diagnostic.ofTokens (Token.scan source),
        ∀ second ∈ Diagnostic.ofTokens (Token.scan source),
          first.message = "Multiplier must follow a module or closing bracket".toList →
          "Invalid multiplier value: '".toList.isPrefixOf second.message = true →
          first.offset ≠ second.offset := by
  refine ⟨fun index token found => (Token.fitAll_scan source).fits found, ?_, ?_⟩
  · intro diagnostic found message
    exact Check.finding_ne_weightWithoutColon found (Finding.eq_of_message_eq rfl message)
  · intro first found second found' stray invalid
    have topic := (Finding.words_isPrefixOf_message_iff (.invalidMultiplier []) _).mp invalid
    obtain ⟨text, named⟩ := Finding.exists_invalidMultiplier topic
    exact Check.offset_ne_of_stray found found' (Finding.eq_of_message_eq rfl stray) named

end ModuleGrammar
