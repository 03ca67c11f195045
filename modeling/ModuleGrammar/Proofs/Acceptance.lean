/-
# The documented grammar has no diagnostics

The check comes through the lexemes of a tree without a finding, whatever follows them:
`Passes` says from which state it starts and in which state it leaves them. An element
leaves the state as it was. A grammar leaves its commas in the innermost open bracket,
where a priority selection is going to look for them. Pairs stand in a choice and all
else outside of one, as a choice of the documented grammar has no groups in it.
-/
import ModuleGrammar.Proofs.Review

namespace ModuleGrammar.Tree

open Check

/-- The check comes through lexemes without a finding. It starts from a state behind a
token, and ends in the state `after` behind a token of kind `last`. -/
def Passes (state : State) (previous : Option Token.Kind) (items : List Lexeme) (after : State)
    (last : Token.Kind) : Prop :=
  ∀ rest, Clean after (some last) rest → Clean state previous (items ++ rest)

theorem Passes.append {state middle after : State} {previous : Option Token.Kind}
    {first second : List Lexeme} {kind last : Token.Kind}
    (passes : Passes state previous first middle kind)
    (others : Passes middle (some kind) second after last) :
    Passes state previous (first ++ second) after last := by
  intro rest clean
  rw [List.append_assoc]
  exact passes _ (others rest clean)

/-- The kinds of tokens that an element can end with. -/
def EndsElement (kind : Token.Kind) : Prop :=
  kind ≠ .comma ∧ kind.isOpening = false

/-- Lexemes that start with something else than a closing bracket. -/
def Starts (items : List Lexeme) : Prop :=
  ∃ item ∈ items.head?, item.kind.isClosing = false

theorem Starts.append {items : List Lexeme} (starts : Starts items) (rest : List Lexeme) :
    Starts (items ++ rest) := by
  obtain ⟨item, first, open_⟩ := starts
  cases items with
  | nil => cases first
  | cons other items => exact ⟨item, first, open_⟩

theorem Starts.next {items : List Lexeme} (starts : Starts items) :
    ∃ kind ∈ items.head?.map (·.kind), kind.isClosing = false := by
  obtain ⟨item, first, open_⟩ := starts
  exact ⟨item.kind, Option.mem_map_of_mem _ first, open_⟩

theorem passes_name (frames : List Frame) (previous : Option Token.Kind) (text : Text) :
    Passes ⟨frames, false⟩ previous [.name text] ⟨frames, false⟩ .name := by
  intro rest clean
  refine (clean_cons _ _ _ _).mpr ⟨review_name_eq_nil_iff.mpr ?_, clean⟩
  simp

/-- A multiplier may follow a name or a closing bracket. -/
theorem passes_repeats {frames : List Frame} {kind : Token.Kind}
    (host : kind = .name ∨ kind.isClosing = true) {multiplier : Option Text}
    (valid : ∀ text ∈ multiplier, ValidMultiplier text) :
    ∃ last, EndsElement last ∧
      Passes ⟨frames, false⟩ (some kind) (repeats multiplier) ⟨frames, false⟩ last := by
  cases multiplier with
  | none =>
      refine ⟨kind, ?_, fun rest clean => clean⟩
      rcases host with name | closing
      · subst name
        exact ⟨by simp, rfl⟩
      · cases kind with
        | closing shape => exact ⟨by simp, rfl⟩
        | _ => cases closing
  | some text =>
      refine ⟨.multiplier, ⟨by simp, rfl⟩, fun rest clean => (clean_cons _ _ _ _).mpr ⟨?_, clean⟩⟩
      exact review_multiplier_eq_nil_iff.mpr ⟨⟨kind, rfl, host⟩, valid text rfl⟩

/-- A comma may stand between what ends an element and what starts one. -/
theorem passes_comma {state after : State} {kind last : Token.Kind} {items : List Lexeme}
    (ends : EndsElement kind) (starts : Starts items)
    (passes : Passes ⟨addCommas 1 state.frames, state.inChoice⟩ (some .comma) items after last) :
    Passes state (some kind) (.comma :: items) after last := by
  intro rest clean
  refine (clean_cons _ _ _ _).mpr ⟨review_comma_eq_nil_iff.mpr ⟨⟨kind, rfl, ends⟩, ?_⟩, ?_⟩
  · exact (starts.append rest).next
  · rw [advance_comma]
    exact passes rest clean

/-- A group passes if its content does. The content starts behind the opening bracket, and
ends with the commas that a priority selection needs. -/
theorem passes_group {frames : List Frame} {previous : Option Token.Kind} {shape : Bracket}
    {items : List Lexeme} {commas : Nat} {kind : Token.Kind} (starts : Starts items)
    (priority : shape = .angle → commas ≠ 0)
    (passes : Passes ⟨⟨shape, shape.openingText, 0, 0⟩ :: frames, shape == .curly⟩
      (some (.opening shape)) items
      ⟨⟨shape, shape.openingText, 0, commas⟩ :: frames, shape == .curly⟩ kind) :
    Passes ⟨frames, false⟩ previous (.opening shape :: (items ++ [.closing shape]))
      ⟨frames, false⟩ (.closing shape) := by
  intro rest clean
  rw [List.cons_append, List.append_assoc, List.singleton_append]
  refine (clean_cons _ _ _ _).mpr ⟨review_opening_eq_nil_iff.mpr ?_, passes _ ?_⟩
  · obtain ⟨kind, first, open_⟩ := (starts.append (.closing shape :: rest)).next
    intro other same
    rwa [Option.mem_unique same first]
  · refine (clean_cons _ _ _ _).mpr ⟨review_closing_eq_nil_iff.mpr ⟨_, _, rfl, rfl, priority⟩, ?_⟩
    -- Only the brackets of a choice set the flag, and the closing one takes it back.
    rw [advance_closing]
    cases shape <;> exact clean

theorem Pair.passes (pair : Pair) (frames : List Frame) (previous : Option Token.Kind) :
    Passes ⟨frames, true⟩ previous pair.lexemes ⟨frames, true⟩ .weight := by
  intro rest clean
  refine (clean_cons _ _ _ _).mpr ⟨review_name_eq_nil_iff.mpr fun _ => ⟨.colon, rfl, rfl⟩, ?_⟩
  refine (clean_cons _ _ _ _).mpr ⟨review_colon_eq_nil_iff.mpr ⟨rfl, rfl, rfl⟩, ?_⟩
  exact (clean_cons _ _ _ _).mpr ⟨review_weight_eq_nil_iff.mpr fun _ => rfl, clean⟩

theorem Choice.starts (choice : Choice) : Starts choice.lexemes := by
  cases choice <;> exact ⟨_, rfl, rfl⟩

theorem Choice.passes (choice : Choice) (frames : List Frame) (previous : Option Token.Kind) :
    ∃ commas, Passes ⟨frames, true⟩ previous choice.lexemes ⟨addCommas commas frames, true⟩
      .weight := by
  induction choice generalizing frames previous with
  | single pair =>
      refine ⟨0, ?_⟩
      rw [addCommas_zero]
      exact pair.passes frames previous
  | cons first others ih =>
      obtain ⟨commas, passes⟩ := ih (addCommas 1 frames) (some .comma)
      refine ⟨1 + commas, ?_⟩
      rw [addCommas_addCommas] at passes
      exact (first.passes frames previous).append
        (passes_comma ⟨by simp, rfl⟩ others.starts passes)

theorem Group.starts (group : Group) : Starts group.lexemes := by
  cases group <;> exact ⟨_, rfl, rfl⟩

theorem Element.starts (element : Element) : Starts element.lexemes := by
  cases element with
  | name text multiplier => exact ⟨_, rfl, rfl⟩
  | group group multiplier => exact group.starts.append _

theorem Grammar.starts (grammar : Grammar) : Starts grammar.lexemes := by
  cases grammar with
  | single element => exact element.starts
  | cons first others => exact first.starts.append _

mutual

/-- An element leaves the state as it was. -/
theorem Element.passes (element : Element) (valid : element.Valid) (frames : List Frame)
    (previous : Option Token.Kind) :
    ∃ last, EndsElement last ∧
      Passes ⟨frames, false⟩ previous element.lexemes ⟨frames, false⟩ last := by
  cases element with
  | name text multiplier =>
      obtain ⟨last, ends, repeated⟩ := passes_repeats (.inl rfl) valid
      exact ⟨last, ends, (passes_name frames previous text).append repeated⟩
  | group group multiplier =>
      obtain ⟨shape, passes⟩ := group.passes valid.1 frames previous
      have host : (Token.Kind.closing shape).isClosing = true := rfl
      obtain ⟨last, ends, repeated⟩ := passes_repeats (.inr host) valid.2
      exact ⟨last, ends, passes.append repeated⟩

theorem Group.passes (group : Group) (valid : group.Valid) (frames : List Frame)
    (previous : Option Token.Kind) :
    ∃ shape, Passes ⟨frames, false⟩ previous group.lexemes ⟨frames, false⟩ (.closing shape) := by
  cases group with
  | sequence body =>
      obtain ⟨commas, last, -, -, passes⟩ := body.passes valid (_ :: frames) _
      exact ⟨.square, passes_group body.starts (by simp) passes⟩
  | priority body =>
      obtain ⟨commas, last, size, -, passes⟩ := body.passes valid.1 (_ :: frames) _
      have two := valid.2
      exact ⟨.angle, passes_group body.starts (by omega) passes⟩
  | choice choice =>
      obtain ⟨commas, passes⟩ := choice.passes (_ :: frames) _
      exact ⟨.curly, passes_group choice.starts (by simp) passes⟩

/-- A grammar leaves one comma less than it has elements. -/
theorem Grammar.passes (grammar : Grammar) (valid : grammar.Valid) (frames : List Frame)
    (previous : Option Token.Kind) :
    ∃ commas last, commas + 1 = grammar.size ∧ EndsElement last ∧
      Passes ⟨frames, false⟩ previous grammar.lexemes ⟨addCommas commas frames, false⟩ last := by
  cases grammar with
  | single element =>
      obtain ⟨last, ends, passes⟩ := element.passes valid frames previous
      refine ⟨0, last, rfl, ends, ?_⟩
      rw [addCommas_zero]
      exact passes
  | cons first others =>
      obtain ⟨kind, ends, passes⟩ := first.passes valid.1 frames previous
      obtain ⟨commas, last, size, closes, following⟩ :=
        others.passes valid.2 (addCommas 1 frames) (some .comma)
      rw [addCommas_addCommas] at following
      refine ⟨1 + commas, last, ?_, closes,
        passes.append (passes_comma ends others.starts following)⟩
      rw [Grammar.size, ← size, Nat.add_comm 1]

end

/-- Tokens with the lexemes of a valid tree have no diagnostics, wherever they stand. -/
theorem no_diagnostics_of_valid (tree : Grammar) (valid : tree.Valid) (tokens : List Token)
    (flat : tokens.map (·.toLexeme) = tree.lexemes) : Diagnostic.ofTokens tokens = [] := by
  rw [ofTokens_eq_nil_iff_clean, flat, ← List.append_nil tree.lexemes]
  obtain ⟨commas, last, -, -, passes⟩ := tree.passes valid [] none
  exact passes [] ((clean_nil _ _).mpr rfl)

/-- A sequence with a choice and a priority selection in it, repeated seven times. -/
theorem no_diagnostics_of_nested_groups :
    let choice : Group := .choice (.cons ⟨['b'], ['1']⟩ (.single ⟨['c'], ['2']⟩))
    let priority : Group := .priority (.cons (.name ['d'] none) (.single (.name ['e'] (some ['+']))))
    let tree : Grammar := .single (.group (.sequence (.cons (.name ['a'] none)
      (.cons (.group choice (some ['*'])) (.single (.group priority none))))) (some ['0', '0', '7']))
    let tokens := Token.scan "[a, \x7bb:1, c:2\x7d*, <d, e+>]007".toList
    tree.Valid ∧ tokens.map (·.toLexeme) = tree.lexemes ∧ Diagnostic.ofTokens tokens = [] := by
  intro choice priority tree tokens
  have valid : tree.Valid := by
    simp +decide [tree, choice, priority, Grammar.Valid, Group.Valid, Element.Valid]
  have flat : tokens.map (·.toLexeme) = tree.lexemes := by decide +kernel
  exact ⟨valid, flat, no_diagnostics_of_valid tree valid tokens flat⟩

end ModuleGrammar.Tree
