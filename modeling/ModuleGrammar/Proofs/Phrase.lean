/-
# Phrases of a grammar

Two descriptions of what a grammar may look like. The first one is the documented
grammar. It is given by its trees, since the layout of a grammar follows its tree. The
second one is looser: elements may stand side by side without a comma, a choice may hold
anything, and a weighted name may stand anywhere inside of a choice. It is given by its
derivations, since nothing more is ever asked of it.

Both say which lexemes a grammar has; neither looks at offsets or at blanks.
-/
import ModuleGrammar.Token

namespace ModuleGrammar

namespace Bracket

/-- The opening bracket of a shape. -/
def openingText : Bracket → Text
  | .square => ['[']
  | .curly => ['{']
  | .angle => ['<']

/-- The closing bracket of a shape. -/
def closingText : Bracket → Text
  | .square => [']']
  | .curly => ['}']
  | .angle => ['>']

end Bracket

namespace Lexeme

/-- A name. -/
def name (text : Text) : Lexeme :=
  ⟨.name, text⟩

/-- An opening bracket. -/
def opening (shape : Bracket) : Lexeme :=
  ⟨.opening shape, shape.openingText⟩

/-- A closing bracket. -/
def closing (shape : Bracket) : Lexeme :=
  ⟨.closing shape, shape.closingText⟩

/-- A comma. -/
def comma : Lexeme :=
  ⟨.comma, [',']⟩

/-- A colon. -/
def colon : Lexeme :=
  ⟨.colon, [':']⟩

/-- A multiplier. -/
def multiplier (text : Text) : Lexeme :=
  ⟨.multiplier, text⟩

/-- A weight. -/
def weight (text : Text) : Lexeme :=
  ⟨.weight, text⟩

@[simp] theorem kind_name (text : Text) : (name text).kind = .name := rfl

@[simp] theorem kind_opening (shape : Bracket) : (opening shape).kind = .opening shape := rfl

@[simp] theorem kind_closing (shape : Bracket) : (closing shape).kind = .closing shape := rfl

@[simp] theorem kind_comma : comma.kind = .comma := rfl

@[simp] theorem kind_colon : colon.kind = .colon := rfl

@[simp] theorem kind_multiplier (text : Text) : (multiplier text).kind = .multiplier := rfl

@[simp] theorem kind_weight (text : Text) : (weight text).kind = .weight := rfl

end Lexeme

/-- A multiplier repeats at least once: it is a repetition sign, or a run of digits that
are not all zero. -/
def ValidMultiplier (text : Text) : Prop :=
  text = ['*'] ∨ text = ['+'] ∨ ((∀ c ∈ text, isDigit c = true) ∧ ∃ c ∈ text, c ≠ '0')

namespace Tree

/-- A name with its weight in a choice. -/
structure Pair where
  name : Text
  weight : Text

/-- The content of a choice: pairs with commas between them. -/
inductive Choice
  | single (pair : Pair)
  | cons (first : Pair) (others : Choice)

mutual

/-- An element of a grammar: a name or a group, maybe with a multiplier. -/
inductive Element
  | name (text : Text) (multiplier : Option Text)
  | group (group : Group) (multiplier : Option Text)

/-- A group: a sequence in square brackets, a priority selection in angle brackets or a
choice in curly brackets. -/
inductive Group
  | sequence (body : Grammar)
  | priority (body : Grammar)
  | choice (choice : Choice)

/-- Elements with commas between them. -/
inductive Grammar
  | single (element : Element)
  | cons (first : Element) (others : Grammar)

end

/-- The lexeme of a multiplier, if there is one. -/
def repeats (multiplier : Option Text) : List Lexeme :=
  multiplier.toList.map .multiplier

/-- The lexemes of a pair. -/
def Pair.lexemes (pair : Pair) : List Lexeme :=
  [.name pair.name, .colon, .weight pair.weight]

/-- The lexemes of the pairs of a choice. -/
def Choice.lexemes : Choice → List Lexeme
  | .single pair => pair.lexemes
  | .cons first others => first.lexemes ++ .comma :: others.lexemes

mutual

/-- The lexemes of an element. -/
def Element.lexemes : Element → List Lexeme
  | .name text multiplier => .name text :: repeats multiplier
  | .group group multiplier => group.lexemes ++ repeats multiplier

/-- The lexemes of a group with its brackets. -/
def Group.lexemes : Group → List Lexeme
  | .sequence body => .opening .square :: (body.lexemes ++ [.closing .square])
  | .priority body => .opening .angle :: (body.lexemes ++ [.closing .angle])
  | .choice choice => .opening .curly :: (choice.lexemes ++ [.closing .curly])

/-- The lexemes of a grammar. -/
def Grammar.lexemes : Grammar → List Lexeme
  | .single element => element.lexemes
  | .cons first others => first.lexemes ++ .comma :: others.lexemes

end

/-- The number of elements of a grammar. -/
def Grammar.size : Grammar → Nat
  | .single _ => 1
  | .cons _ others => others.size + 1

mutual

/-- All multipliers of an element are valid, and its priority selections have at least
two elements to select from. -/
def Element.Valid : Element → Prop
  | .name _ multiplier => ∀ text ∈ multiplier, ValidMultiplier text
  | .group group multiplier => group.Valid ∧ ∀ text ∈ multiplier, ValidMultiplier text

@[inherit_doc Element.Valid]
def Group.Valid : Group → Prop
  | .sequence body => body.Valid
  | .priority body => body.Valid ∧ 2 ≤ body.size
  | .choice _ => True

@[inherit_doc Element.Valid]
def Grammar.Valid : Grammar → Prop
  | .single element => element.Valid
  | .cons first others => first.Valid ∧ others.Valid

end

end Tree

/-- The phrases of the looser grammar. -/
inductive Phrase
  /-- A name or a group, maybe with a multiplier, or a name with a weight. -/
  | item
  /-- Items side by side. -/
  | chunk
  /-- Chunks with commas between them. -/
  | sequence
  /-- A sequence in brackets. -/
  | group
  deriving DecidableEq, Repr

/-- The lexemes of a phrase. `inside` says whether the phrase stands inside of a choice,
at any depth; only there a name can have a weight. -/
inductive Derives : (inside : Bool) → Phrase → List Lexeme → Prop
  | name {inside : Bool} (text : Text) : Derives inside .item [.name text]
  | repeatedName {inside : Bool} (text : Text) {count : Text} (valid : ValidMultiplier count) :
      Derives inside .item [.name text, .multiplier count]
  | weightedName (text weight : Text) :
      Derives true .item [.name text, .colon, .weight weight]
  | group {inside : Bool} {items : List Lexeme} (group : Derives inside .group items) :
      Derives inside .item items
  | repeatedGroup {inside : Bool} {items : List Lexeme} {count : Text}
      (group : Derives inside .group items) (valid : ValidMultiplier count) :
      Derives inside .item (items ++ [.multiplier count])
  | item {inside : Bool} {items : List Lexeme} (item : Derives inside .item items) :
      Derives inside .chunk items
  | items {inside : Bool} {first others : List Lexeme} (item : Derives inside .item first)
      (chunk : Derives inside .chunk others) : Derives inside .chunk (first ++ others)
  | chunk {inside : Bool} {items : List Lexeme} (chunk : Derives inside .chunk items) :
      Derives inside .sequence items
  | chunks {inside : Bool} {first others : List Lexeme} (chunk : Derives inside .chunk first)
      (sequence : Derives inside .sequence others) :
      Derives inside .sequence (first ++ .comma :: others)
  | square {inside : Bool} {items : List Lexeme} (sequence : Derives inside .sequence items) :
      Derives inside .group (.opening .square :: (items ++ [.closing .square]))
  | curly {inside : Bool} {items : List Lexeme} (sequence : Derives true .sequence items) :
      Derives inside .group (.opening .curly :: (items ++ [.closing .curly]))
  | angle {inside : Bool} {first others : List Lexeme} (chunk : Derives inside .chunk first)
      (sequence : Derives inside .sequence others) :
      Derives inside .group
        (.opening .angle :: (first ++ .comma :: others ++ [.closing .angle]))

end ModuleGrammar
