/-
# Using a checker or a typesetter again

A checker and a typesetter keep all that they have from one list of tokens to the next: the
open brackets, the flag for being in a choice, the nesting level, and what was found or written
so far. If the brackets of a list are well nested then everything but the output is back at its
start behind the list, and another use adds the same output once more.

The stack and the level come back because each bracket that is opened is closed. The flag is no
part of the stack, and a closing bracket does not bring back the flag from before its opening
one. It is off in the end because the last curly bracket of a well-nested word is a closing one.
-/
import Mathlib.Logic.Function.Iterate
import ModuleGrammar.Proofs.Balance
import ModuleGrammar.Proofs.Choice

namespace ModuleGrammar

open Token

theorem Token.Kind.isBracket_of_isCurly {kind : Kind} (curly : kind.isCurly = true) :
    kind.isBracket = true := by
  cases kind with
  | opening shape => rfl
  | closing shape => rfl
  | _ => cases curly

theorem Token.filter_isCurly_brackets (tokens : List Token) :
    (brackets tokens).filter Kind.isCurly = (tokens.map (·.kind)).filter Kind.isCurly := by
  rw [brackets, List.filter_filter]
  refine List.filter_congr fun kind _ => ?_
  cases curly : kind.isCurly with
  | false => rfl
  | true => exact Kind.isBracket_of_isCurly curly

/-- The last curly bracket of a well-nested word does not open a choice. -/
theorem WellNested.getLast?_isCurly_ne {word : List Kind} (nested : WellNested word) :
    (word.filter Kind.isCurly).getLast? ≠ some (.opening .curly) := by
  induction nested with
  | nil => simp
  | enclose shape inner ih =>
      cases shape with
      | curly => simp [Kind.isCurly]
      | square | angle => simpa [Kind.isCurly] using ih
  | append left right ihLeft ihRight =>
      -- It is that of the second word, or that of the first if the second has none.
      rw [List.filter_append, List.getLast?_append, ne_eq, Option.or_eq_some_iff]
      rintro (last | ⟨-, last⟩)
      · exact ihRight last
      · exact ihLeft last

/-- If each use of a thing adds the same output to what it holds, and changes nothing else, then
it holds one copy of the output for each use. -/
theorem iterate_eq_replicate_flatten {α Thing : Type} (use : Thing → Thing)
    (holding : List α → Thing) {output : List α}
    (adds : ∀ before, use (holding before) = holding (before ++ output)) (uses : Nat) :
    use^[uses] (holding []) = holding (List.replicate uses output).flatten := by
  induction uses with
  | zero => rfl
  | succ uses ih =>
      rw [Function.iterate_succ_apply', ih, adds, List.replicate_succ', List.flatten_concat]

section WellNested

variable {tokens : List Token} (nested : WellNested (Token.brackets tokens))

include nested

theorem Token.not_inChoice_of_wellNested : ¬ InChoice tokens tokens.length := by
  rw [InChoice, lastCurly, List.take_length, ← filter_isCurly_brackets]
  exact nested.getLast?_isCurly_ne

namespace Check.State

theorem frames_advanceAll_of_wellNested : (State.initial.advanceAll tokens).frames = [] := by
  have closes : closesAll [] (tokens.map (·.kind)) = true :=
    (closesAll_iff_wellNested _).mpr nested
  exact ((fits_iff_closesAll .initial none tokens).mpr closes).2

theorem inChoice_advanceAll_of_wellNested :
    (State.initial.advanceAll tokens).inChoice = false := by
  rw [← stateBefore_length, ← Bool.not_eq_true, inChoice_stateBefore_iff]
  exact Token.not_inChoice_of_wellNested nested

/-- Behind well-nested brackets the check remembers nothing. -/
theorem advanceAll_of_wellNested : State.initial.advanceAll tokens = .initial := by
  calc State.initial.advanceAll tokens
      = ⟨(State.initial.advanceAll tokens).frames, (State.initial.advanceAll tokens).inChoice⟩ :=
        rfl
    _ = .initial := by
        rw [frames_advanceAll_of_wellNested nested, inChoice_advanceAll_of_wellNested nested]
        rfl

end Check.State

/-- Behind well-nested brackets the layout is back at the outermost level. -/
theorem Layout.advanceAll_of_wellNested : Layout.advanceAll 0 tokens = 0 := by
  have level := Check.State.length_frames_advanceAll .initial tokens
  rw [Check.State.advanceAll_of_wellNested nested] at level
  exact level.symm

/-- One use of a checker that remembers nothing. -/
theorem Checker.check_of_wellNested (found : List Diagnostic) :
    (Checker.mk .initial found).check tokens =
      ⟨.initial, found ++ Diagnostic.ofTokens tokens⟩ := by
  simp only [Checker.check, Diagnostic.ofTokens, Checker.fresh,
    Check.State.advanceAll_of_wellNested nested, List.nil_append, List.append_assoc]

theorem Checker.iterate_check_of_wellNested (uses : Nat) :
    (Checker.check · tokens)^[uses] Checker.fresh =
      ⟨.initial, (List.replicate uses (Diagnostic.ofTokens tokens)).flatten⟩ :=
  iterate_eq_replicate_flatten _ (Checker.mk .initial) (check_of_wellNested nested) uses

/-- One use of a typesetter at the outermost level. -/
theorem Typesetter.write_of_wellNested (style : Style) (written : Text) :
    (Typesetter.mk 0 written).write style tokens =
      ⟨0, written ++ Layout.render style tokens⟩ := by
  rw [Typesetter.write, Layout.advanceAll_of_wellNested nested, Layout.render]

theorem Typesetter.iterate_write_of_wellNested (style : Style) (uses : Nat) :
    (Typesetter.write · style tokens)^[uses] Typesetter.fresh =
      ⟨0, (List.replicate uses (Layout.render style tokens)).flatten⟩ :=
  iterate_eq_replicate_flatten _ (Typesetter.mk 0) (write_of_wellNested nested style) uses

end WellNested

/-- A checker and a typesetter that are used again and again on tokens with well-nested brackets
repeat their result: after any number of uses there are as many copies of the diagnostics of the
tokens, and as many copies of their text. A style whose indentation cannot be made stops the
typesetter before its first use, with the fault that also stops the layout. -/
theorem reuse_repeats_result {tokens : List Token} (nested : WellNested (Token.brackets tokens))
    (style : Style) (uses : Nat) :
    ((Checker.check · tokens)^[uses] Checker.fresh).diagnostics =
        (List.replicate uses (Diagnostic.ofTokens tokens)).flatten ∧
      (Typesetter.start style).map
          (fun typesetter => ((Typesetter.write · style tokens)^[uses] typesetter).text) =
        (Layout.tryRender style tokens).map fun text => (List.replicate uses text).flatten := by
  constructor
  · rw [Checker.iterate_check_of_wellNested nested]
  · rw [Typesetter.start, Layout.tryRender]
    cases style.checkIndent with
    | error fault => rfl
    | ok _ =>
        exact congrArg (fun typesetter => Except.ok typesetter.text)
          (Typesetter.iterate_write_of_wellNested nested style uses)

/-- A choice inside of a choice, which turns the flag off too early, and an empty group. -/
theorem reuse_repeats_result_nested_choice :
    let tokens := Token.scan "\x7ba:1,\x7bb:2\x7d,c:3\x7d[]".toList
    let style : Style := { useTabs := true }
    WellNested (Token.brackets tokens) ∧
      ((Checker.check · tokens)^[2] Checker.fresh).diagnostics =
        [⟨.colonOutsideChoice, 12, 1⟩, ⟨.emptyGroup, 15, 1⟩,
          ⟨.colonOutsideChoice, 12, 1⟩, ⟨.emptyGroup, 15, 1⟩] ∧
      (Typesetter.start style).map
          (fun typesetter => ((Typesetter.write · style tokens)^[2] typesetter).text) =
        .ok ("\x7b\n\ta: 1,\n\t\x7b\n\t\tb: 2\n\t\x7d,\n\tc: 3\n\x7d\n[\n]\n".toList ++
          "\x7b\n\ta: 1,\n\t\x7b\n\t\tb: 2\n\t\x7d,\n\tc: 3\n\x7d\n[\n]\n".toList) := by
  intro tokens style
  have nested : WellNested (Token.brackets tokens) :=
    (closesAll_iff_wellNested _).mp (by decide +kernel)
  have found : Diagnostic.ofTokens tokens =
      [⟨.colonOutsideChoice, 12, 1⟩, ⟨.emptyGroup, 15, 1⟩] := by decide +kernel
  have text : Layout.tryRender style tokens =
      .ok "\x7b\n\ta: 1,\n\t\x7b\n\t\tb: 2\n\t\x7d,\n\tc: 3\n\x7d\n[\n]\n".toList := by
    decide +kernel
  obtain ⟨checked, written⟩ := reuse_repeats_result nested style 2
  rw [found] at checked
  rw [text] at written
  exact ⟨nested, checked, written⟩

/-- As many closing brackets of each shape as opening ones are not enough. Here the square bracket
takes the curly one off the stack, the flag stays on, and the name breaks a rule the second time. -/
example : let tokens := Token.scan "a[\x7d\x7b]".toList
    ((Checker.check · tokens)^[2] Checker.fresh).diagnostics =
      Diagnostic.ofTokens tokens ++
        ⟨.nameWithoutSuccessor, 0, 1⟩ :: Diagnostic.ofTokens tokens := by
  decide +kernel

end ModuleGrammar
