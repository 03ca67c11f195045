/-
# Laws of segments

Scanning is opened here once. There is an equation for each way in which a text can
start, and one for each kind of lexeme that the scan can meet. The lexemes at a
character and the text that they leave behind make up the text again, and no lexeme
is empty or holds a blank.
-/
import Mathlib.Data.List.TakeWhile
import ModuleGrammar.Token.Segment
import ModuleGrammar.Proofs.Character

namespace ModuleGrammar.Segment

theorem ofText_nil (afterColon : Bool) : ofText afterColon [] = [] := by
  rw [ofText.eq_def]

theorem ofText_cons_of_isBlank (afterColon : Bool) {c : Char} (blank : isBlank c = true)
    (rest : Text) : ofText afterColon (c :: rest) = .blank c :: ofText afterColon rest := by
  rw [ofText.eq_def]
  dsimp only
  rw [if_pos blank]

theorem ofText_cons (afterColon : Bool) {c : Char} (nonblank : isBlank c = false)
    (rest : Text) :
    ofText afterColon (c :: rest) =
      (leading afterColon c rest).1.map .lexeme ++
        ofText (c == ':') (leading afterColon c rest).2 := by
  rw [ofText.eq_def]
  dsimp only
  rw [if_neg (by simp [nonblank])]

/-- What the scan can meet at a character: punctuation by itself, a closing bracket
with the multiplier characters behind it, a run of name characters, a repetition
sign, or a character that starts no lexeme. -/
@[elab_as_elim]
theorem leading_cases {motive : List Lexeme × Text → Prop} (afterColon : Bool) (c : Char)
    (rest : Text)
    (symbol : ∀ kind, Token.Kind.ofSymbol? c = some kind →
      (kind.isClosing = true → rest.takeWhile isMultiplierChar = []) →
      motive ([⟨kind, [c]⟩], rest))
    (repeats : ∀ kind, Token.Kind.ofSymbol? c = some kind → kind.isClosing = true →
      rest.takeWhile isMultiplierChar ≠ [] →
      motive ([⟨kind, [c]⟩, ⟨.multiplier, rest.takeWhile isMultiplierChar⟩],
        rest.dropWhile isMultiplierChar))
    (name : isNameChar c = true →
      motive (ofRun afterColon (meetsColon (rest.dropWhile isNameChar))
          (c :: rest.takeWhile isNameChar), rest.dropWhile isNameChar))
    (sign : isSign c = true → motive ([⟨.multiplier, [c]⟩], rest))
    (error : Token.Kind.ofSymbol? c = none → isNameChar c = false → isSign c = false →
      motive ([⟨.error, [c]⟩], rest)) :
    motive (leading afterColon c rest) := by
  unfold leading
  split
  case h_1 kind issymbol =>
    dsimp only
    split
    case isTrue closing =>
      rw [Bool.and_eq_true] at closing
      exact repeats kind issymbol closing.1 (by simpa using closing.2)
    case isFalse open_ =>
      apply symbol kind issymbol
      intro closing
      simpa [closing] using open_
  case h_2 nosymbol =>
    split
    case isTrue isname => exact name isname
    case isFalse noname =>
      split
      case isTrue issign => exact sign (by simpa [isSign] using issign)
      case isFalse nosign =>
        exact error nosymbol (by simpa using noname) (by simpa [isSign] using nosign)

theorem stem_append_trailingDigits (run : Text) : stem run ++ trailingDigits run = run := by
  rw [stem, trailingDigits, ← List.reverse_append, List.takeWhile_append_dropWhile,
    List.reverse_reverse]

theorem isDigit_of_mem_trailingDigits {run : Text} {c : Char} (member : c ∈ trailingDigits run) :
    isDigit c = true := by
  rw [trailingDigits, List.mem_reverse] at member
  exact List.all_eq_true.mp List.all_takeWhile c member

/-- Only a numeral consists of trailing digits altogether. -/
theorem stem_ne_nil {run : Text} (nonempty : run ≠ []) (numeral : run.isNumeral = false) :
    stem run ≠ [] := by
  intro empty
  have digits : ∀ c ∈ run, isDigit c = true := by
    have whole := stem_append_trailingDigits run
    rw [empty, List.nil_append] at whole
    intro c member
    rw [← whole] at member
    exact isDigit_of_mem_trailingDigits member
  rw [Text.isNumeral, List.all_eq_true.mpr digits] at numeral
  simp [nonempty] at numeral

/-- A run of name characters is one lexeme, or a name with its trailing digits as a
multiplier. -/
theorem ofRun_cases (afterColon beforeColon : Bool) {run : Text} (nonempty : run ≠ []) :
    (∃ kind, (kind = .name ∨ kind = .weight) ∧
        ofRun afterColon beforeColon run = [⟨kind, run⟩]) ∨
      (stem run ≠ [] ∧ trailingDigits run ≠ [] ∧
        ofRun afterColon beforeColon run =
          [⟨.name, stem run⟩, ⟨.multiplier, trailingDigits run⟩]) := by
  unfold ofRun
  split
  case isTrue numeral =>
    exact .inl ⟨if afterColon then .weight else .name, by cases afterColon <;> simp, rfl⟩
  case isFalse numeral =>
    split
    case isTrue whole => exact .inl ⟨.name, .inl rfl, rfl⟩
    case isFalse divided =>
      refine .inr ⟨stem_ne_nil nonempty (by simpa using numeral), ?_, rfl⟩
      rw [Bool.or_eq_true, not_or] at divided
      simpa using divided.2

theorem flatMap_text_ofRun (afterColon beforeColon : Bool) {run : Text} (nonempty : run ≠ []) :
    (ofRun afterColon beforeColon run).flatMap (·.text) = run := by
  rcases ofRun_cases afterColon beforeColon nonempty with ⟨kind, -, whole⟩ | ⟨-, -, divided⟩
  · simp [whole]
  · simp [divided, stem_append_trailingDigits]

theorem text_ne_nil_of_mem_ofRun {afterColon beforeColon : Bool} {run : Text}
    (nonempty : run ≠ []) :
    ∀ item ∈ ofRun afterColon beforeColon run, item.text ≠ [] := by
  intro item member
  rcases ofRun_cases afterColon beforeColon nonempty with
    ⟨kind, -, whole⟩ | ⟨stem_ne, digits_ne, divided⟩
  · rw [whole, List.mem_singleton] at member
    rw [member]
    exact nonempty
  · rw [divided, List.mem_cons, List.mem_singleton] at member
    rcases member with rfl | rfl
    · exact stem_ne
    · exact digits_ne

/-- The lexemes at a character and the text behind them are the whole text. -/
theorem flatMap_text_leading (afterColon : Bool) (c : Char) (rest : Text) :
    (leading afterColon c rest).1.flatMap (·.text) ++ (leading afterColon c rest).2 =
      c :: rest := by
  refine leading_cases afterColon c rest ?symbol ?repeats ?name ?sign ?error
  case symbol => intros; simp
  case repeats => intros; simp
  case name =>
    intro _
    rw [flatMap_text_ofRun _ _ (by simp), List.cons_append, List.takeWhile_append_dropWhile]
  case sign => intros; simp
  case error => intros; simp

/-- No lexeme is empty. -/
theorem text_ne_nil_of_mem_leading (afterColon : Bool) (c : Char) (rest : Text) :
    ∀ item ∈ (leading afterColon c rest).1, item.text ≠ [] := by
  refine leading_cases afterColon c rest ?symbol ?repeats ?name ?sign ?error
  case symbol => intros; simp_all
  case repeats =>
    intro kind _ _ nonempty item member
    rw [List.mem_cons, List.mem_singleton] at member
    rcases member with rfl | rfl
    · exact List.cons_ne_nil c []
    · exact nonempty
  case name => exact fun _ => text_ne_nil_of_mem_ofRun (List.cons_ne_nil _ _)
  case sign => intros; simp_all
  case error => intros; simp_all

/-- No lexeme holds a blank. -/
theorem nonblank_of_mem_leading (afterColon : Bool) {c : Char} (nonblank : isBlank c = false)
    (rest : Text) :
    ∀ item ∈ (leading afterColon c rest).1, ∀ d ∈ item.text, isBlank d = false := by
  have single (kind : Token.Kind) : ∀ d ∈ (⟨kind, [c]⟩ : Lexeme).text, isBlank d = false := by
    intro d member
    rw [List.mem_singleton.mp member]
    exact nonblank
  refine leading_cases afterColon c rest ?symbol ?repeats ?name ?sign ?error
  case symbol =>
    intro kind _ _ item member
    rw [List.mem_singleton.mp member]
    exact single kind
  case repeats =>
    intro kind _ _ _ item member
    rw [List.mem_cons, List.mem_singleton] at member
    rcases member with rfl | rfl
    · exact single kind
    · exact fun d inside => isBlank_eq_false_of_isMultiplierChar (List.mem_takeWhile_imp inside)
  case name =>
    intro first item member d inside
    -- The texts of the lexemes are the run, so `d` is one of its name characters.
    have inRun : d ∈ c :: rest.takeWhile isNameChar := by
      rw [← flatMap_text_ofRun afterColon (meetsColon (rest.dropWhile isNameChar))
        (List.cons_ne_nil _ _)]
      exact List.mem_flatMap.mpr ⟨item, member, inside⟩
    rcases List.mem_cons.mp inRun with rfl | inRest
    · exact nonblank
    · exact isBlank_eq_false_of_isNameChar (List.mem_takeWhile_imp inRest)
  case sign =>
    intro _ item member
    rw [List.mem_singleton.mp member]
    exact single .multiplier
  case error =>
    intro _ _ _ item member
    rw [List.mem_singleton.mp member]
    exact single .error

end ModuleGrammar.Segment
