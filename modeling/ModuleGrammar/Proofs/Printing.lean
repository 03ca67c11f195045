/-
# The layout of a tree

The layout knows a nesting level and the kind of the next token, and nothing of the tree
that its tokens come from. Printing follows the tree: every phrase is written by itself,
from the texts of its parts. If a line starts after every opening bracket and the cleanup
trims, both give the same text. The two meet in the newline behind an element: the layout
writes it unless a comma follows, and printing leaves it to whatever stands around.
-/
import ModuleGrammar.Proofs.Layout
import ModuleGrammar.Proofs.Phrase
import ModuleGrammar.Proofs.Tidy

namespace ModuleGrammar.Tree

section Print

variable (style : Style) (level : Nat)

/-- As many copies of the indentation of one level as there are levels. -/
def indentation : Text :=
  (List.replicate level style.indentUnit).flatten

/-- Children below each other, with a comma behind each but the last one. -/
def commaList (children : List Text) : Text :=
  Text.join [',', '\n'] children

/-- Children between brackets that have lines of their own. -/
def enclose (shape : Bracket) (children : List Text) : Text :=
  indentation style level ++ shape.openingText ++ ['\n'] ++ commaList children ++ ['\n'] ++
    indentation style level ++ shape.closingText

/-- The text of a pair. -/
def Pair.print (pair : Pair) : Text :=
  indentation style level ++ pair.name ++ [':', ' '] ++ pair.weight

/-- The texts of the pairs of a choice. -/
def Choice.prints : Choice → List Text
  | .single pair => [pair.print style level]
  | .cons first others => first.print style level :: others.prints

end Print

mutual

/-- The text of an element. -/
def Element.print (style : Style) (level : Nat) : Element → Text
  | .name text multiplier => indentation style level ++ text ++ multiplier.getD []
  | .group group multiplier => group.print style level ++ multiplier.getD []

/-- The text of a group: its children stand one level deeper. -/
def Group.print (style : Style) (level : Nat) : Group → Text
  | .sequence body => enclose style level .square (body.prints style (level + 1))
  | .priority body => enclose style level .angle (body.prints style (level + 1))
  | .choice choice => enclose style level .curly (choice.prints style (level + 1))

/-- The texts of the elements of a grammar. -/
def Grammar.prints (style : Style) (level : Nat) : Grammar → List Text
  | .single element => [element.print style level]
  | .cons first others => first.print style level :: others.prints style level

end

/-- The text of a grammar. -/
def Grammar.print (style : Style) (grammar : Grammar) : Text :=
  commaList (grammar.prints style 0)

/-- A text that is not empty and has only characters of one class. -/
def RunOf (p : Char → Bool) (text : Text) : Prop :=
  text ≠ [] ∧ ∀ c ∈ text, p c = true

instance (p : Char → Bool) (text : Text) : Decidable (RunOf p text) :=
  decidable_of_iff ((!text.isEmpty && text.all p) = true) (by simp [RunOf])

/-- A multiplier that is not there, or a run of multiplier characters. -/
def SpelledMultiplier (multiplier : Option Text) : Prop :=
  ∀ text ∈ multiplier, RunOf isMultiplierChar text

def Pair.Spelled (pair : Pair) : Prop :=
  RunOf isNameChar pair.name ∧ RunOf isDigit pair.weight

def Choice.Spelled : Choice → Prop
  | .single pair => pair.Spelled
  | .cons first others => first.Spelled ∧ others.Spelled

mutual

/-- The names, weights and multipliers of an element are texts that can stand for them. -/
def Element.Spelled : Element → Prop
  | .name text multiplier => RunOf isNameChar text ∧ SpelledMultiplier multiplier
  | .group group multiplier => group.Spelled ∧ SpelledMultiplier multiplier

@[inherit_doc Element.Spelled]
def Group.Spelled : Group → Prop
  | .sequence body => body.Spelled
  | .priority body => body.Spelled
  | .choice choice => choice.Spelled

@[inherit_doc Element.Spelled]
def Grammar.Spelled : Grammar → Prop
  | .single element => element.Spelled
  | .cons first others => first.Spelled ∧ others.Spelled

end

theorem indentation_eq (style : Style) (level : Nat) :
    indentation style level = style.indent level := by
  induction level with
  | zero => rfl
  | succ level ih =>
      rw [indentation, List.replicate_succ, List.flatten_cons, ← indentation, ih]
      rfl

theorem commaList_singleton (child : Text) : commaList [child] = child := by
  simp [commaList, Text.join]

theorem commaList_cons {children : List Text} (nonempty : children ≠ []) (child : Text) :
    commaList (child :: children) = child ++ ',' :: '\n' :: commaList children := by
  rw [commaList, Text.join, List.intercalate_cons_of_ne_nil nonempty]
  simp [commaList, Text.join]

theorem Choice.prints_ne_nil (style : Style) (level : Nat) (choice : Choice) :
    choice.prints style level ≠ [] := by
  cases choice <;> simp [Choice.prints]

theorem Grammar.prints_ne_nil (style : Style) (level : Nat) (grammar : Grammar) :
    grammar.prints style level ≠ [] := by
  cases grammar <;> simp [Grammar.prints]

/-! ### What the layout writes -/

open Layout

/-- The kind of the token that comes next. -/
def nextKind (rest : List Lexeme) : Option Token.Kind :=
  rest.head?.map (·.kind)

/-- What stands behind an element: a comma, a closing bracket or nothing. -/
def Separates (rest : List Lexeme) : Prop :=
  ∀ kind ∈ nextKind rest, kind = .comma ∨ kind.isClosing = true

/-- The layout writes a text for some lexemes, and then a newline unless a comma
follows. -/
def Writes (style : Style) (level : Nat) (items : List Lexeme) (text : Text) : Prop :=
  ∀ rest, Separates rest →
    renderLexemes style level (items ++ rest) =
      text ++ (newlineIf (nextKind rest != some .comma) ++ renderLexemes style level rest)

/-- What can stand behind an item without being a part of it. -/
def Detached (rest : List Lexeme) : Prop :=
  ∀ kind ∈ nextKind rest, kind ≠ .multiplier ∧ kind ≠ .colon

theorem Separates.detached {rest : List Lexeme} (separates : Separates rest) : Detached rest := by
  intro kind next
  rcases separates kind next with rfl | closing
  · exact ⟨by simp, by simp⟩
  · constructor <;> rintro rfl <;> cases closing

theorem Detached.any_isAttached {rest : List Lexeme} (detached : Detached rest) :
    (nextKind rest).any isAttached = (nextKind rest == some .comma) := by
  cases next : nextKind rest with
  | none => rfl
  | some kind =>
      obtain ⟨multiplier, colon⟩ := detached kind next
      cases kind with
      | multiplier => exact absurd rfl multiplier
      | colon => exact absurd rfl colon
      | _ => rfl

/-- Behind a name or a bracket a multiplier is written at once, and then the newline
unless a comma follows. -/
theorem newlineIf_repeats (style : Style) (level : Nat) (multiplier : Option Text)
    {rest : List Lexeme} (detached : Detached rest) :
    newlineIf (!(nextKind (repeats multiplier ++ rest)).any isAttached) ++
        renderLexemes style level (repeats multiplier ++ rest) =
      multiplier.getD [] ++ (newlineIf (nextKind rest != some .comma) ++
        renderLexemes style level rest) := by
  cases multiplier with
  | none =>
      simp only [repeats, Option.toList_none, List.map_nil, List.nil_append, Option.getD_none,
        detached.any_isAttached]
      rfl
  | some text =>
      simp [repeats, nextKind, renderLexemes_cons, piece, Lexeme.multiplier, isAttached, newlineIf,
        advance]

/-- Behind an element and a comma the next element starts a line. -/
theorem Writes.cons {style : Style} {level : Nat} {items others : List Lexeme} {child : Text}
    {children : List Text} (nonempty : children ≠ []) (first : Writes style level items child)
    (rest : Writes style level others (commaList children)) :
    Writes style level (items ++ .comma :: others) (commaList (child :: children)) := by
  intro after separates
  have comma : Separates (.comma :: (others ++ after)) := by
    rintro kind ⟨rfl⟩
    exact .inl rfl
  have sameLevel : advance level Lexeme.comma.kind = level := rfl
  rw [List.append_assoc, List.cons_append, first _ comma, commaList_cons nonempty,
    renderLexemes_cons, sameLevel, rest after separates]
  simp [nextKind, newlineIf, piece, Lexeme.comma]

/-- A group is written around its content. No matter what follows, its closing bracket
stands on a line of its own. -/
theorem renderLexemes_enclose {style : Style} {shape : Bracket}
    (breaks : breaksAfter style shape = true) {level : Nat} {items : List Lexeme}
    {children : List Text} (content : Writes style (level + 1) items (commaList children))
    (rest : List Lexeme) :
    renderLexemes style level (.opening shape :: (items ++ [.closing shape]) ++ rest) =
      enclose style level shape children ++ (newlineIf (!(nextKind rest).any isAttached) ++
        renderLexemes style level rest) := by
  have closing : Separates (.closing shape :: rest) := by
    rintro kind ⟨rfl⟩
    exact .inr rfl
  rw [List.cons_append, List.append_assoc, List.singleton_append, renderLexemes_cons,
    Lexeme.kind_opening, advance, content _ closing, renderLexemes_cons, enclose]
  simp [nextKind, newlineIf, piece, Lexeme.opening, Lexeme.closing, breaks, indentation_eq, advance]

theorem Pair.writes (style : Style) (level : Nat) (pair : Pair) :
    Writes style level pair.lexemes (pair.print style level) := by
  intro rest _
  simp [Pair.lexemes, Pair.print, renderLexemes_cons, piece, advance, Lexeme.name, Lexeme.colon,
    Lexeme.weight, isAttached, newlineIf, nextKind, indentation_eq]

theorem Choice.writes (style : Style) (level : Nat) (choice : Choice) :
    Writes style level choice.lexemes (commaList (choice.prints style level)) := by
  induction choice with
  | single pair =>
      rw [Choice.prints, commaList_singleton]
      exact pair.writes style level
  | cons first others ih =>
      exact .cons (others.prints_ne_nil style level) (first.writes style level) ih

mutual

theorem Element.writes {style : Style} (breaks : ∀ shape, breaksAfter style shape = true)
    (element : Element) (level : Nat) :
    Writes style level element.lexemes (element.print style level) := by
  intro rest separates
  have written (multiplier : Option Text) :=
    newlineIf_repeats style level multiplier separates.detached
  cases element with
  | name text multiplier =>
      rw [Element.lexemes, List.cons_append, renderLexemes_cons, Element.print, List.append_assoc,
        ← written multiplier]
      simp [piece, Lexeme.name, advance, indentation_eq, nextKind]
  | group group multiplier =>
      rw [Element.lexemes, List.append_assoc, group.renderLexemes_eq breaks, written multiplier,
        Element.print, List.append_assoc]

theorem Group.renderLexemes_eq {style : Style} (breaks : ∀ shape, breaksAfter style shape = true)
    (group : Group) (level : Nat) (rest : List Lexeme) :
    renderLexemes style level (group.lexemes ++ rest) =
      group.print style level ++ (newlineIf (!(nextKind rest).any isAttached) ++
        renderLexemes style level rest) := by
  cases group with
  | sequence body =>
      exact renderLexemes_enclose (breaks .square) (body.writes breaks (level + 1)) rest
  | priority body =>
      exact renderLexemes_enclose (breaks .angle) (body.writes breaks (level + 1)) rest
  | choice choice =>
      exact renderLexemes_enclose (breaks .curly) (choice.writes style (level + 1)) rest

theorem Grammar.writes {style : Style} (breaks : ∀ shape, breaksAfter style shape = true)
    (grammar : Grammar) (level : Nat) :
    Writes style level grammar.lexemes (commaList (grammar.prints style level)) := by
  cases grammar with
  | single element =>
      rw [Grammar.prints, commaList_singleton]
      exact element.writes breaks level
  | cons first others =>
      exact .cons (others.prints_ne_nil style level) (first.writes breaks level)
        (others.writes breaks level)

end

/-- The layout writes the text of a tree and a newline. -/
theorem Grammar.render_eq {style : Style} (breaks : ∀ shape, breaksAfter style shape = true)
    (grammar : Grammar) {tokens : List Token} (flat : tokens.map (·.toLexeme) = grammar.lexemes) :
    render style tokens = grammar.print style ++ ['\n'] := by
  have separates : Separates [] := by simp [Separates, nextKind]
  have written := grammar.writes breaks 0 [] separates
  rw [List.append_nil] at written
  rw [render, renderFrom_eq_renderLexemes, flat, written]
  rfl

/-! ### Printed texts are tidy -/

theorem newline_not_mem_indentation (style : Style) (level : Nat) :
    '\n' ∉ indentation style level := by
  intro member
  obtain ⟨unit, copy, inside⟩ := List.mem_flatten.mp member
  rw [List.eq_of_mem_replicate copy, Style.indentUnit] at inside
  split at inside
  · simp at inside
  · exact absurd (List.eq_of_mem_replicate inside) (by decide)

theorem RunOf.lineEnd {p : Char → Bool} {text : Text} (run : RunOf p text)
    (nonblank : ∀ c, p c = true → isBlank c = false) : LineEnd text :=
  .of_forall run.1 fun c member => nonblank c (run.2 c member)

theorem tidy_commaList {children : List Text} (nonempty : children ≠ [])
    (tidy : ∀ child ∈ children, Tidy child) : Tidy (commaList children) := by
  induction children with
  | nil => exact absurd rfl nonempty
  | cons child others ih =>
      have first := tidy child List.mem_cons_self
      cases others with
      | nil => rwa [commaList_singleton]
      | cons second others =>
          have comma : LineEnd [','] := .of_forall (by simp) (List.forall_mem_singleton.mpr rfl)
          have rest := ih (by simp) fun other member => tidy other (List.mem_cons_of_mem _ member)
          have stacked := (first.append comma).stack rest
          rw [commaList_cons (by simp)]
          rwa [List.append_assoc] at stacked

theorem lineEnd_openingText (shape : Bracket) : LineEnd shape.openingText := by
  cases shape <;> exact .of_forall (List.cons_ne_nil _ _) (List.forall_mem_singleton.mpr rfl)

theorem lineEnd_closingText (shape : Bracket) : LineEnd shape.closingText := by
  cases shape <;> exact .of_forall (List.cons_ne_nil _ _) (List.forall_mem_singleton.mpr rfl)

theorem tidy_enclose (style : Style) (level : Nat) (shape : Bracket) {children : List Text}
    (nonempty : children ≠ []) (tidy : ∀ child ∈ children, Tidy child) :
    Tidy (enclose style level shape children) := by
  have indented := newline_not_mem_indentation style level
  have opening := Tidy.line ((lineEnd_openingText shape).append indented)
  have closing := Tidy.line ((lineEnd_closingText shape).append indented)
  simpa [enclose] using opening.stack ((tidy_commaList nonempty tidy).stack closing)

theorem tidy_multiplier {text : Text} (tidy : Tidy text) {multiplier : Option Text}
    (spelled : SpelledMultiplier multiplier) : Tidy (text ++ multiplier.getD []) := by
  cases multiplier with
  | none => simpa using tidy
  | some count =>
      exact tidy.append ((spelled count rfl).lineEnd fun _ => isBlank_eq_false_of_isMultiplierChar)

theorem Pair.tidy (style : Style) (level : Nat) {pair : Pair} (spelled : pair.Spelled) :
    Tidy (pair.print style level) := by
  have name := spelled.1.lineEnd fun _ => isBlank_eq_false_of_isNameChar
  have weight := spelled.2.lineEnd fun c digit =>
    isBlank_eq_false_of_isMultiplierChar (by simp [isMultiplierChar, digit])
  refine .line (weight.append ?_)
  simp [newline_not_mem_indentation, name.noNewline]

theorem Choice.tidy (style : Style) (level : Nat) {choice : Choice} (spelled : choice.Spelled) :
    ∀ child ∈ choice.prints style level, Tidy child := by
  induction choice with
  | single pair => exact List.forall_mem_singleton.mpr (Pair.tidy style level spelled)
  | cons first others ih =>
      exact List.forall_mem_cons.mpr ⟨Pair.tidy style level spelled.1, ih spelled.2⟩

mutual

theorem Element.tidy (style : Style) (level : Nat) (element : Element) (spelled : element.Spelled) :
    Tidy (element.print style level) := by
  cases element with
  | name text multiplier =>
      have name := spelled.1.lineEnd fun _ => isBlank_eq_false_of_isNameChar
      have line := name.append (newline_not_mem_indentation style level)
      exact tidy_multiplier (.line line) spelled.2
  | group group multiplier => exact tidy_multiplier (group.tidy style level spelled.1) spelled.2

theorem Group.tidy (style : Style) (level : Nat) (group : Group) (spelled : group.Spelled) :
    Tidy (group.print style level) := by
  cases group with
  | sequence body =>
      exact tidy_enclose style level .square (body.prints_ne_nil _ _) (body.tidy style _ spelled)
  | priority body =>
      exact tidy_enclose style level .angle (body.prints_ne_nil _ _) (body.tidy style _ spelled)
  | choice choice =>
      exact tidy_enclose style level .curly (choice.prints_ne_nil _ _)
        (Choice.tidy style _ spelled)

theorem Grammar.tidy (style : Style) (level : Nat) (grammar : Grammar) (spelled : grammar.Spelled) :
    ∀ child ∈ grammar.prints style level, Tidy child := by
  cases grammar with
  | single element => exact List.forall_mem_singleton.mpr (element.tidy style level spelled)
  | cons first others =>
      exact List.forall_mem_cons.mpr
        ⟨first.tidy style level spelled.1, others.tidy style level spelled.2⟩

end

/-- Laying out the tokens of a tree and cleaning up gives the text that is printed for the
tree, if a line starts after every opening bracket and the cleanup trims. -/
theorem cleanup_render_eq_print {style : Style}
    (afterBrackets : style.insertNewlineAfterBrackets = true)
    (beforeBrackets : style.insertNewlineBeforeBrackets = true)
    (trims : style.trimTrailingWhitespace = true) (tree : Grammar) (spelled : tree.Spelled)
    (tokens : List Token) (flat : tokens.map (·.toLexeme) = tree.lexemes) :
    cleanup style (render style tokens) = tree.print style ∧
      (style.indentFault? = none → tryRender style tokens = .ok (render style tokens)) := by
  have breaks (shape : Bracket) : breaksAfter style shape = true := by
    cases shape <;> assumption
  constructor
  · rw [tree.render_eq breaks flat]
    exact (tidy_commaList (tree.prints_ne_nil style 0) (tree.tidy style 0 spelled)).cleanup_eq trims
  · intro valid
    rw [tryRender, Style.checkIndent, valid]
    rfl

/-- A choice in a priority selection in a sequence, with tabs. -/
theorem cleanup_render_nested_groups :
    let style : Style := { useTabs := true, insertFinalNewline := false }
    let choice : Choice := .cons ⟨['b', '1'], ['5']⟩ (.single ⟨['c'], ['0']⟩)
    let priority : Group := .priority (.single (.group (.choice choice) (some ['*'])))
    let tree : Grammar := .cons (.group (.sequence (.cons (.name ['a'] (some ['3']))
      (.single (.group priority none)))) (some ['+', '2'])) (.single (.name ['d'] none))
    let tokens := Token.scan "[a3,<\x7bb1:5,c:0\x7d*>]+2,d".toList
    tree.Spelled ∧ tokens.map (·.toLexeme) = tree.lexemes ∧
      cleanup style (render style tokens) =
        "[\n\ta3,\n\t<\n\t\t\x7b\n\t\t\tb1: 5,\n\t\t\tc: 0\n\t\t\x7d*\n\t>\n]+2,\nd".toList := by
  intro style choice priority tree tokens
  have spelled : tree.Spelled := by
    simp +decide [tree, priority, choice, Grammar.Spelled, Group.Spelled, Element.Spelled,
      Choice.Spelled, Pair.Spelled, SpelledMultiplier]
  have flat : tokens.map (·.toLexeme) = tree.lexemes := by decide +kernel
  refine ⟨spelled, flat, ?_⟩
  rw [(cleanup_render_eq_print rfl rfl rfl tree spelled tokens flat).1]
  decide +kernel

end ModuleGrammar.Tree
