/-
# Classes of characters

Scanning sorts characters into blanks, name characters, punctuation, digits and
repetition signs. Digits belong to names and to multipliers; apart from that the
classes exclude each other. The numeric forms of the classes are used here only:
everything later goes through the implications between them.
-/
import ModuleGrammar.Text.Blank
import ModuleGrammar.Token

namespace ModuleGrammar

/-- Whether a character is a closing bracket. -/
def closesGroup (c : Char) : Bool :=
  (Token.Kind.ofSymbol? c).any Token.Kind.isClosing

/-- The two repetition signs. -/
def isSign (c : Char) : Bool :=
  c == '*' || c == '+'

theorem isDigit_iff_toNat (c : Char) :
    isDigit c = true ↔ 48 ≤ c.toNat ∧ c.toNat ≤ 57 := by
  simp [isDigit, Char.le_def, UInt32.le_iff_toNat_le]

theorem isNameChar_iff_toNat (c : Char) :
    isNameChar c = true ↔
      (97 ≤ c.toNat ∧ c.toNat ≤ 122) ∨ (65 ≤ c.toNat ∧ c.toNat ≤ 90) ∨
        (48 ≤ c.toNat ∧ c.toNat ≤ 57) ∨ c.toNat = 95 ∨ c.toNat = 45 := by
  simp [isNameChar, isDigit_iff_toNat, Char.le_def, UInt32.le_iff_toNat_le,
    ← Char.toNat_inj, or_assoc]

theorem isMultiplierChar_iff_toNat (c : Char) :
    isMultiplierChar c = true ↔
      c.toNat = 42 ∨ c.toNat = 43 ∨ (48 ≤ c.toNat ∧ c.toNat ≤ 57) := by
  simp [isMultiplierChar, isDigit_iff_toNat, ← Char.toNat_inj, or_assoc]

theorem isSign_iff_toNat (c : Char) : isSign c = true ↔ c.toNat = 42 ∨ c.toNat = 43 := by
  simp [isSign, ← Char.toNat_inj]

/-- The punctuation characters by their code points: the brackets, the comma and
the colon. -/
theorem toNat_of_ofSymbol? {c : Char} {kind : Token.Kind}
    (symbol : Token.Kind.ofSymbol? c = some kind) :
    c.toNat = 91 ∨ c.toNat = 93 ∨ c.toNat = 123 ∨ c.toNat = 125 ∨
      c.toNat = 60 ∨ c.toNat = 62 ∨ c.toNat = 44 ∨ c.toNat = 58 := by
  unfold Token.Kind.ofSymbol? at symbol
  split at symbol <;> simp at symbol ⊢

/-- The kinds of punctuation. -/
theorem ofSymbol?_cases {c : Char} {kind : Token.Kind}
    (symbol : Token.Kind.ofSymbol? c = some kind) :
    (∃ shape, kind = .opening shape) ∨ (∃ shape, kind = .closing shape) ∨
      (kind = .comma ∧ c = ',') ∨ (kind = .colon ∧ c = ':') := by
  unfold Token.Kind.ofSymbol? at symbol
  split at symbol <;> simp at symbol <;> simp [← symbol]

/-- A punctuation character belongs to no other class. -/
theorem classes_of_ofSymbol? {c : Char} {kind : Token.Kind}
    (symbol : Token.Kind.ofSymbol? c = some kind) :
    isBlank c = false ∧ isNameChar c = false ∧ isMultiplierChar c = false := by
  have code := toNat_of_ofSymbol? symbol
  refine ⟨?_, ?_, ?_⟩
  · rw [Bool.eq_false_iff]
    simp only [isBlank, ne_eq, Bool.or_eq_true, Bool.and_eq_true, decide_eq_true_eq, beq_iff_eq]
    omega
  · rw [Bool.eq_false_iff, ne_eq, isNameChar_iff_toNat]
    omega
  · rw [Bool.eq_false_iff, ne_eq, isMultiplierChar_iff_toNat]
    omega

/-- A blank character belongs to no other class. -/
theorem classes_of_isBlank {c : Char} (blank : isBlank c = true) :
    Token.Kind.ofSymbol? c = none ∧ isNameChar c = false ∧ isMultiplierChar c = false := by
  have noSymbol : Token.Kind.ofSymbol? c = none := by
    cases symbol : Token.Kind.ofSymbol? c with
    | none => rfl
    | some kind =>
        rw [(classes_of_ofSymbol? symbol).1] at blank
        cases blank
  simp only [isBlank, Bool.or_eq_true, Bool.and_eq_true, decide_eq_true_eq, beq_iff_eq] at blank
  refine ⟨noSymbol, ?_, ?_⟩
  · rw [Bool.eq_false_iff, ne_eq, isNameChar_iff_toNat]
    omega
  · rw [Bool.eq_false_iff, ne_eq, isMultiplierChar_iff_toNat]
    omega

/-- A repetition sign is a multiplier character and belongs to no class besides. -/
theorem classes_of_isSign {c : Char} (sign : isSign c = true) :
    Token.Kind.ofSymbol? c = none ∧ isBlank c = false ∧ isNameChar c = false ∧
      isMultiplierChar c = true := by
  simp only [isSign, Bool.or_eq_true, beq_iff_eq] at sign
  rcases sign with rfl | rfl <;> decide

theorem isSign_eq_false_of_isDigit {c : Char} (digit : isDigit c = true) : isSign c = false := by
  rw [isDigit_iff_toNat] at digit
  rw [Bool.eq_false_iff, ne_eq, isSign_iff_toNat]
  omega

theorem isBlank_eq_false_of_isNameChar {c : Char} (name : isNameChar c = true) :
    isBlank c = false := by
  cases blank : isBlank c with
  | false => rfl
  | true => rw [(classes_of_isBlank blank).2.1] at name; cases name

theorem isBlank_eq_false_of_isMultiplierChar {c : Char} (multiplier : isMultiplierChar c = true) :
    isBlank c = false := by
  cases blank : isBlank c with
  | false => rfl
  | true => rw [(classes_of_isBlank blank).2.2] at multiplier; cases multiplier

theorem ofSymbol?_eq_none_of_isNameChar {c : Char} (name : isNameChar c = true) :
    Token.Kind.ofSymbol? c = none := by
  cases symbol : Token.Kind.ofSymbol? c with
  | none => rfl
  | some kind => rw [(classes_of_ofSymbol? symbol).2.1] at name; cases name

/-- Closing brackets are punctuation of a closing kind. -/
theorem closesGroup_iff (c : Char) :
    closesGroup c = true ↔
      ∃ kind, Token.Kind.ofSymbol? c = some kind ∧ kind.isClosing = true := by
  simp [closesGroup, Option.any_eq_true]

theorem classes_of_closesGroup {c : Char} (closes : closesGroup c = true) :
    isBlank c = false ∧ isNameChar c = false ∧ isMultiplierChar c = false := by
  obtain ⟨kind, symbol, -⟩ := (closesGroup_iff c).mp closes
  exact classes_of_ofSymbol? symbol

theorem closesGroup_eq_false_of_ofSymbol? {c : Char} (symbol : Token.Kind.ofSymbol? c = none) :
    closesGroup c = false := by
  rw [closesGroup, symbol]
  rfl

end ModuleGrammar
