/-
# The layout of a derivation

What the layout writes for a derivation is put together from what it writes for the parts. It
writes whole lines, and the indentation of the level stands in front of each line and nowhere
else. So the text of a derivation at one level is its text at the level above with one more unit
of indentation in front of every line. For this a line has to start after every opening bracket:
otherwise the indentation of the content stands in the line of the bracket.
-/
import ModuleGrammar.Proofs.Printing

namespace ModuleGrammar

/-- A text with a unit of indentation in front of every line. -/
def Text.indentLines (text unit : Text) : Text :=
  Text.join ['\n'] ((text.cut '\n').map (unit ++ ·))

namespace Layout

open ModuleGrammar.Tree (nextKind Detached indentation_eq newline_not_mem_indentation
  lineEnd_openingText lineEnd_closingText)

theorem indentLines_line {line : Text} (noNewline : '\n' ∉ line) (unit : Text) :
    line.indentLines unit = unit ++ line := by
  rw [Text.indentLines, Text.cut_of_not_mem noNewline]
  exact List.intercalate_singleton

theorem indentLines_cons {line : Text} (noNewline : '\n' ∉ line) (others unit : Text) :
    Text.indentLines (line ++ '\n' :: others) unit =
      unit ++ line ++ '\n' :: others.indentLines unit := by
  have rest : (others.cut '\n').map (unit ++ ·) ≠ [] := by simp [Text.cut_ne_nil]
  rw [Text.indentLines, Text.cut_append_cons noNewline, List.map_cons, Text.join,
    List.intercalate_cons_of_ne_nil rest, List.append_assoc, List.singleton_append]
  rfl

namespace Tidy

variable {text : Text}

theorem indentLines_append (tidy : Tidy text) {ending : Text} (noNewline : '\n' ∉ ending)
    (unit : Text) : Text.indentLines (text ++ ending) unit = text.indentLines unit ++ ending := by
  induction tidy with
  | line first =>
      have whole := List.not_mem_append first.noNewline noNewline
      rw [indentLines_line whole, indentLines_line first.noNewline, List.append_assoc]
  | cons first _ ih =>
      rw [List.append_assoc, List.cons_append, indentLines_cons first.noNewline, ih,
        indentLines_cons first.noNewline, List.append_assoc (unit ++ _), List.cons_append]

theorem indentLines_stack (tidy : Tidy text) (others unit : Text) :
    Text.indentLines (text ++ '\n' :: others) unit =
      text.indentLines unit ++ '\n' :: others.indentLines unit := by
  induction tidy with
  | line first => rw [indentLines_cons first.noNewline, indentLines_line first.noNewline]
  | cons first _ ih =>
      rw [List.append_assoc, List.cons_append, indentLines_cons first.noNewline, ih,
        indentLines_cons first.noNewline, List.append_assoc (unit ++ _), List.cons_append]

/-- The first line of a tidy text may start with anything but a newline. -/
theorem prepend {start : Text} (noNewline : '\n' ∉ start) (tidy : Tidy text) :
    Tidy (start ++ text) := by
  cases tidy with
  | line first => exact .line (first.append noNewline)
  | cons first others =>
      rw [← List.append_assoc]
      exact .cons (first.append noNewline) others

end Tidy

theorem newline_not_mem_indent (style : Style) (level : Nat) : '\n' ∉ style.indent level :=
  indentation_eq style level ▸ newline_not_mem_indentation style level

/-- Lexemes that start with a token that is not attached to the one before it. -/
def StartsItem (items : List Lexeme) : Prop :=
  ∃ kind ∈ nextKind items, isAttached kind = false

theorem StartsItem.append {items : List Lexeme} (starts : StartsItem items) (rest : List Lexeme) :
    StartsItem (items ++ rest) := by
  cases items with
  | nil =>
      obtain ⟨kind, first, -⟩ := starts
      cases first
  | cons item items => exact starts

theorem StartsItem.any_isAttached {items : List Lexeme} (starts : StartsItem items) :
    (nextKind items).any isAttached = false := by
  obtain ⟨kind, first, free⟩ := starts
  rw [Option.mem_def.mp first]
  exact free

theorem StartsItem.detached {items : List Lexeme} (starts : StartsItem items) :
    Detached items := by
  obtain ⟨kind, first, free⟩ := starts
  intro other same
  obtain rfl := Option.mem_unique first same
  constructor <;> rintro rfl <;> cases free

/-- In front of everything that is allowed to follow, the layout writes a text at every level for
some lexemes. Behind the text comes a newline, unless the next token is attached to it. -/
structure Lays (style : Style) (allows : List Lexeme → Prop) (items : List Lexeme)
    (text : Nat → Text) : Prop where
  written (level : Nat) (rest : List Lexeme) : allows rest →
    renderLexemes style level (items ++ rest) =
      text level ++ (newlineIf (!(nextKind rest).any isAttached) ++ renderLexemes style level rest)
  tidy (level : Nat) : Tidy (text level)
  deeper (level : Nat) : (∀ shape, breaksAfter style shape = true) →
    text (level + 1) = (text level).indentLines style.indentUnit

/-- Between brackets a text stands one level deeper. -/
def enclosed (style : Style) (shape : Bracket) (text : Nat → Text) (level : Nat) : Text :=
  style.indent level ++ shape.openingText ++ newlineIf (breaksAfter style shape) ++
    text (level + 1) ++ '\n' :: (style.indent level ++ shape.closingText)

namespace Lays

variable {style : Style} {items others : List Lexeme} {text following : Nat → Text}

theorem line {body : Text} (line : LineEnd body)
    (written : ∀ level rest, Detached rest → renderLexemes style level (items ++ rest) =
      style.indent level ++ body ++ (newlineIf (!(nextKind rest).any isAttached) ++
        renderLexemes style level rest)) :
    Lays style Detached items fun level => style.indent level ++ body where
  written := written
  tidy level := .line (line.append (newline_not_mem_indent style level))
  deeper level _ := by
    have whole := (line.append (newline_not_mem_indent style level)).noNewline
    rw [indentLines_line whole, Style.indent, List.append_assoc]

theorem name {word : Text} (line : LineEnd word) :
    Lays style Detached [.name word] fun level => style.indent level ++ word := by
  refine .line line fun level rest _ => ?_
  simp [renderLexemes_cons, piece, Lexeme.name, advance, nextKind]

theorem repeatedName {word count : Text} (line : LineEnd word) (countLine : LineEnd count) :
    Lays style Detached [.name word, .multiplier count]
      fun level => style.indent level ++ (word ++ count) := by
  refine .line (countLine.append line.noNewline) fun level rest detached => ?_
  rw [detached.any_isAttached]
  simp [renderLexemes_cons, piece, Lexeme.name, Lexeme.multiplier, advance, nextKind, isAttached,
    newlineIf]

theorem weightedName {word weight : Text} (line : LineEnd word) (weightLine : LineEnd weight) :
    Lays style Detached [.name word, .colon, .weight weight]
      fun level => style.indent level ++ (word ++ ':' :: ' ' :: weight) := by
  have whole : LineEnd (word ++ ':' :: ' ' :: weight) := by
    have before : '\n' ∉ word ++ [':', ' '] := by simp [line.noNewline]
    simpa using weightLine.append before
  refine .line whole fun level rest detached => ?_
  rw [detached.any_isAttached]
  simp [renderLexemes_cons, piece, Lexeme.name, Lexeme.colon, Lexeme.weight, advance, nextKind,
    isAttached, newlineIf]

/-- A group may stand without a multiplier. -/
theorem alone (group : Lays style (fun _ => True) items text) : Lays style Detached items text :=
  ⟨fun level rest _ => group.written level rest trivial, group.tidy, group.deeper⟩

theorem repeats {count : Text} (group : Lays style (fun _ => True) items text)
    (line : LineEnd count) :
    Lays style Detached (items ++ [.multiplier count]) fun level => text level ++ count where
  written level rest detached := by
    rw [List.append_assoc, group.written level _ trivial, detached.any_isAttached]
    simp [renderLexemes_cons, piece, Lexeme.multiplier, advance, nextKind, isAttached, newlineIf]
  tidy level := (group.tidy level).append line
  deeper level breaks := by
    rw [group.deeper level breaks, (group.tidy level).indentLines_append line.noNewline]

theorem enclose (shape : Bracket) (content : Lays style Detached items text) :
    Lays style (fun _ => True) (.opening shape :: (items ++ [.closing shape]))
      (enclosed style shape text) where
  written level rest _ := by
    have closing : Detached (.closing shape :: rest) := by
      rintro kind ⟨rfl⟩
      exact ⟨by simp, by simp⟩
    rw [List.cons_append, List.append_assoc, List.singleton_append, renderLexemes_cons,
      Lexeme.kind_opening, advance, content.written _ _ closing, renderLexemes_cons, enclosed]
    simp [nextKind, newlineIf, piece, Lexeme.opening, Lexeme.closing, advance, isAttached]
  tidy level := by
    have opening := (lineEnd_openingText shape).append (newline_not_mem_indent style level)
    have closing := (lineEnd_closingText shape).append (newline_not_mem_indent style level)
    have body := (content.tidy (level + 1)).stack (.line closing)
    rw [enclosed, List.append_assoc]
    cases breaksAfter style shape with
    | true => simpa [newlineIf] using Tidy.cons opening body
    | false => simpa [newlineIf] using body.prepend opening.noNewline
  deeper level breaks := by
    have opening := (lineEnd_openingText shape).append (newline_not_mem_indent style level)
    have closing := (lineEnd_closingText shape).append (newline_not_mem_indent style level)
    have body := (content.tidy (level + 1)).indentLines_stack
      (style.indent level ++ shape.closingText)
    have broken (level : Nat) : enclosed style shape text level =
        style.indent level ++ shape.openingText ++
          '\n' :: (text (level + 1) ++ '\n' :: (style.indent level ++ shape.closingText)) := by
      simp [enclosed, newlineIf, breaks]
    rw [broken, broken, indentLines_cons opening.noNewline, body,
      indentLines_line closing.noNewline, content.deeper _ breaks, Style.indent]
    simp

/-- An item that starts behind another one stands on the next line. -/
theorem below (first : Lays style Detached items text)
    (second : Lays style Detached others following) (starts : StartsItem others) :
    Lays style Detached (items ++ others) fun level => text level ++ '\n' :: following level where
  written level rest detached := by
    have starts := starts.append rest
    rw [List.append_assoc, first.written level _ starts.detached, second.written level _ detached,
      starts.any_isAttached]
    simp [newlineIf]
  tidy level := (first.tidy level).stack (second.tidy level)
  deeper level breaks := by
    rw [(first.tidy level).indentLines_stack, first.deeper level breaks, second.deeper level breaks]

/-- A comma stays on the line before it. -/
theorem comma (first : Lays style Detached items text)
    (second : Lays style Detached others following) :
    Lays style Detached (items ++ .comma :: others)
      fun level => text level ++ ',' :: '\n' :: following level where
  written level rest detached := by
    have apart : Detached (.comma :: (others ++ rest)) := by
      rintro kind ⟨rfl⟩
      exact ⟨by simp, by simp⟩
    have sameLevel : advance level Lexeme.comma.kind = level := rfl
    rw [List.append_assoc, List.cons_append, first.written level _ apart, renderLexemes_cons,
      sameLevel, second.written level _ detached]
    simp [piece, Lexeme.comma, nextKind, isAttached, newlineIf]
  tidy level := by
    have line : LineEnd [','] := .of_forall (by simp) (List.forall_mem_singleton.mpr rfl)
    simpa using ((first.tidy level).append line).stack (second.tidy level)
  deeper level breaks := by
    have line : LineEnd [','] := .of_forall (by simp) (List.forall_mem_singleton.mpr rfl)
    have whole := ((first.tidy level).append line).indentLines_stack (following level)
      style.indentUnit
    rw [(first.tidy level).indentLines_append line.noNewline] at whole
    rw [first.deeper level breaks, second.deeper level breaks]
    simpa using whole.symm

end Lays

/-- What may follow a phrase: only a group can take a multiplier. -/
def allowedBehind : Phrase → List Lexeme → Prop
  | .group => fun _ => True
  | .item | .chunk | .sequence => Detached

end Layout

open Layout

/-- A derivation starts with a name or with an opening bracket. -/
theorem Derives.starts {inside : Bool} {phrase : Phrase} {items : List Lexeme}
    (derives : Derives inside phrase items) :
    StartsItem items := by
  induction derives with
  | name | repeatedName | weightedName | square | curly | angle => exact ⟨_, rfl, rfl⟩
  | group _ ih | item _ ih | chunk _ ih => exact ih
  | repeatedGroup _ _ ih | items _ _ ih | chunks _ _ ih => exact ih.append _

/-- The layout writes every derivation. -/
theorem Derives.lays {inside : Bool} {phrase : Phrase} {items : List Lexeme}
    (derives : Derives inside phrase items) (style : Style)
    (lines : ∀ item ∈ items, LineEnd item.text) :
    ∃ text, Lays style (allowedBehind phrase) items text := by
  induction derives with
  | name word =>
      have line := lines (.name word) (by simp)
      exact ⟨_, .name line⟩
  | @repeatedName _ word count =>
      have line := lines (.name word) (by simp)
      have countLine := lines (.multiplier count) (by simp)
      exact ⟨_, .repeatedName line countLine⟩
  | weightedName word weight =>
      have line := lines (.name word) (by simp)
      have weightLine := lines (.weight weight) (by simp)
      exact ⟨_, .weightedName line weightLine⟩
  | group _ ih =>
      obtain ⟨text, group⟩ := ih lines
      exact ⟨text, group.alone⟩
  | @repeatedGroup _ items count _ _ ih =>
      have ⟨inner, last⟩ := List.forall_mem_append.mp lines
      obtain ⟨text, group⟩ := ih inner
      exact ⟨_, group.repeats (last (.multiplier count) (by simp))⟩
  | item _ ih | chunk _ ih => exact ih lines
  | items _ chunk ih following =>
      have ⟨inner, others⟩ := List.forall_mem_append.mp lines
      obtain ⟨text, first⟩ := ih inner
      obtain ⟨next, second⟩ := following others
      exact ⟨_, first.below second chunk.starts⟩
  | chunks _ _ ih following =>
      have ⟨inner, others⟩ := List.forall_mem_append.mp lines
      obtain ⟨text, first⟩ := ih inner
      obtain ⟨next, second⟩ := following (List.forall_mem_cons.mp others).2
      exact ⟨_, first.comma second⟩
  | square _ ih | curly _ ih =>
      have ⟨inner, _⟩ := List.forall_mem_append.mp (List.forall_mem_cons.mp lines).2
      obtain ⟨text, content⟩ := ih inner
      exact ⟨_, content.enclose _⟩
  | angle _ _ ih following =>
      have ⟨inner, _⟩ := List.forall_mem_append.mp (List.forall_mem_cons.mp lines).2
      have ⟨left, right⟩ := List.forall_mem_append.mp inner
      obtain ⟨text, first⟩ := ih left
      obtain ⟨next, second⟩ := following (List.forall_mem_cons.mp right).2
      exact ⟨_, (first.comma second).enclose .angle⟩

end ModuleGrammar
