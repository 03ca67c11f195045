/-
# Formatting a selection

A selection is laid out on its own, whatever stands around it. Its words are kept, but
a word can reach over an edge of the selection: the layout drops the blanks at the end
of the selection, and then the text behind may join its last word. The lexemes of the
document are kept exactly if the words at both edges take the same characters along as
before.
-/
import ModuleGrammar.Editor.Session
import ModuleGrammar.Proofs.Formatting
import ModuleGrammar.Proofs.Seam

namespace ModuleGrammar.Protocol

/-- The offset that a point of a client has in a source. -/
def Point.offsetIn (unit : CodeUnit) (source : Text) (point : Point) : Nat :=
  (point.settle unit source.lines).offset unit source.lines

namespace Range

variable (unit : CodeUnit) (source : Text) (range : Range)

/-- The text in front of a range. -/
def before : Text :=
  source.take (range.start.offsetIn unit source)

/-- The text that a range selects. -/
def selected : Text :=
  Editor.slice source (range.start.offsetIn unit source) (range.stop.offsetIn unit source)

/-- The text behind a range. -/
def after : Text :=
  source.drop (range.stop.offsetIn unit source)

end Range

/-- Replace the range of an edit by its text. -/
def Edit.apply (unit : CodeUnit) (source : Text) (edit : Edit) : Text :=
  edit.range.before unit source ++ edit.text ++ edit.range.after unit source

/-- Apply edits one after the other. -/
def applyEdits (unit : CodeUnit) (source : Text) (edits : List Edit) : Text :=
  edits.foldl (Edit.apply unit) source

/-- A settled point lies in its line. -/
theorem Point.settle_settle (unit : CodeUnit) (lines : List Text) (point : Point) :
    (point.settle unit lines).settle unit lines = point.settle unit lines := by
  cases found : lines[point.line]? with
  | none => simp [settle, found]
  | some text =>
      by_cases outside : unit.count text.contractBreaks < point.character
      · have inside : ¬ unit.count text.contractBreaks < unit.count text.contractBreaks - 1 := by
          omega
        simp [settle, found, outside, inside]
      · simp [settle, found, outside]

theorem Point.offsetIn_settle (unit : CodeUnit) (source : Text) (point : Point) :
    (point.settle unit source.lines).offsetIn unit source = point.offsetIn unit source := by
  rw [offsetIn, settle_settle, offsetIn]

theorem Range.before_selected_after {unit : CodeUnit} {source : Text} {range : Range}
    (ordered : range.start.offsetIn unit source ≤ range.stop.offsetIn unit source) :
    range.before unit source ++ range.selected unit source ++ range.after unit source =
      source := by
  have start : range.before unit source =
      (source.take (range.stop.offsetIn unit source)).take (range.start.offsetIn unit source) := by
    rw [List.take_take, Nat.min_eq_left ordered, before]
  rw [start, selected, Editor.slice, List.take_append_drop, after, List.take_append_drop]

end ModuleGrammar.Protocol

namespace ModuleGrammar.Editor

open Protocol

/-- The edit that formats a range puts the layout of the selected text in its place. -/
theorem applyEdits_rangeEdits (style : Style) {unit : CodeUnit} {source : Text} {range : Range}
    (ordered : range.start.offsetIn unit source ≤ range.stop.offsetIn unit source) :
    applyEdits unit source (rangeEdits unit style source range) =
      range.before unit source ++ layOut style (range.selected unit source) ++
        range.after unit source := by
  have edits : rangeEdits unit style source range =
      if layOut style (range.selected unit source) = range.selected unit source then []
      else [⟨⟨range.start.settle unit source.lines, range.stop.settle unit source.lines⟩,
        layOut style (range.selected unit source)⟩] := rfl
  by_cases unchanged : layOut style (range.selected unit source) = range.selected unit source
  · rw [edits, if_pos unchanged, unchanged, Range.before_selected_after ordered]
    rfl
  · rw [edits, if_neg unchanged]
    simp only [applyEdits, List.foldl_cons, List.foldl_nil, Edit.apply, Range.before, Range.after,
      Point.offsetIn_settle]

/-- The indentation that a client can ask for can be made. -/
theorem indentFault?_onto {tabSize : Int} {insertSpaces : Bool} {trim final : Option Bool}
    {options : ClientOptions}
    (sent : ClientOptions.ofClient tabSize insertSpaces trim final = .ok options)
    (style : Style) : (options.onto style).indentFault? = none := by
  have bound : (options.tabSize : Int) ≤ 2147483647 := by
    by_cases inRange : 0 ≤ tabSize ∧ tabSize ≤ maxInteger
    · rw [ClientOptions.ofClient, checkRange, if_pos inRange] at sent
      cases sent
      have upper := inRange.2
      rw [maxInteger] at upper
      dsimp only
      omega
    · rw [ClientOptions.ofClient, checkRange, if_neg inRange] at sent
      cases sent
  have size : (options.onto style).indentSize = options.tabSize := rfl
  rw [Style.indentFault?, Style.indexBound, size]
  split
  · rfl
  · rw [if_neg (by omega)]

/-- The edits of a document that can be read are made, if the style allows it. -/
theorem Session.edits_eq_ok {session : Session} {uri source : Text}
    (found : session.source uri = .ok source) {style : Style}
    (valid : style.indentFault? = none) (make : Text → List Edit) :
    session.edits uri style make = .ok (if style.enabled then make source else []) := by
  rw [Session.source] at found
  cases origin : session.find uri with
  | error failure =>
      rw [origin] at found
      cases found
  | ok origin' =>
      rw [origin] at found
      have read : session.read origin' = .ok source := found
      have check : checkStyle style = .ok () := by
        rw [checkStyle, checkIndent_eq_ok valid]
        rfl
      cases enabled : style.enabled <;>
        simp [edits, origin, read, check, enabled, bind, Except.bind, pure, Except.pure]

/-- A selection of a document that can be read is formatted, if the style allows it. -/
theorem Session.formatRange_eq_ok {session : Session} {uri source : Text}
    (found : session.source uri = .ok source) {options : ClientOptions}
    (valid : (options.onto session.style).indentFault? = none) (range : Range) :
    session.formatRange uri range (some options) =
      .ok (if (options.onto session.style).enabled then
        rangeEdits session.unit (options.onto session.style) source range else []) :=
  edits_eq_ok found valid _

/-- A selection is always formatted. No character other than blanks is lost, added or
moved, and the lexemes of the document are kept exactly if the words that reach over
the edges of the selection take the same characters along as before. They do if the
edges lie between blanks or at the ends of the document. A repetition sign that is alone
behind a bracket is a word of its own, so it does not matter whether a blank stands
between the two. -/
theorem formatRange_keeps_lexemes_iff {session : Session} {uri source : Text} (range : Range)
    {tabSize : Int} {insertSpaces : Bool} {trim final : Option Bool} {options : ClientOptions}
    (found : session.source uri = .ok source)
    (sent : ClientOptions.ofClient tabSize insertSpaces trim final = .ok options)
    (ordered : range.start.offsetIn session.unit source ≤
      range.stop.offsetIn session.unit source) :
    ∃ edits, session.formatRange uri range (some options) = .ok edits ∧
      (applyEdits session.unit source edits).filter (!isBlank ·) = source.filter (!isBlank ·) ∧
      (Token.lexemes (applyEdits session.unit source edits) = Token.lexemes source ↔
        ((options.onto session.style).enabled = true →
          Word.SameSeams (range.before session.unit source)
            (layOut (options.onto session.style) (range.selected session.unit source))
            (range.selected session.unit source) (range.after session.unit source))) ∧
      ((∀ c ∈ (range.before session.unit source).getLast?, isBlank c = true) →
        (∀ c ∈ (range.after session.unit source).head?, isBlank c = true) →
        Token.lexemes (applyEdits session.unit source edits) = Token.lexemes source) := by
  have answer := Session.formatRange_eq_ok found (indentFault?_onto sent session.style) range
  refine ⟨_, answer, ?_⟩
  cases enabled : (options.onto session.style).enabled with
  | false => simp [applyEdits]
  | true =>
      have parts := Range.before_selected_after ordered
      have words := ofText_layOut (options.onto session.style) (range.selected session.unit source)
      have applied := applyEdits_rangeEdits (options.onto session.style) ordered
      have splice : Token.lexemes (applyEdits session.unit source
          (rangeEdits session.unit (options.onto session.style) source range)) =
            Token.lexemes source ↔
          Word.SameSeams (range.before session.unit source)
            (layOut (options.onto session.style) (range.selected session.unit source))
            (range.selected session.unit source) (range.after session.unit source) := by
        rw [applied, Token.lexemes_eq_iff]
        conv => lhs; rhs; rw [← parts]
        exact Word.ofText_splice_iff words
      rw [if_pos rfl]
      refine ⟨?_, by simpa using splice, ?_⟩
      · conv => rhs; rw [← parts]
        simp only [applied, List.filter_append, Word.filter_eq_of_ofText_eq words]
      · intro front back
        exact splice.mpr (Word.sameSeams_of_isBlank front back _ _)

/-- The selection starts inside of the name `ab`, and the lexemes are kept. -/
theorem formatRange_inside_name :
    ((Session.start .utf16 {}).hold "a.pcg".toList "ab[c,d] e".toList).source "a.pcg".toList =
        .ok "ab[c,d] e".toList ∧
      ClientOptions.ofClient 4 true none none = .ok ⟨4, true, none, none⟩ ∧
      Point.offsetIn .utf16 "ab[c,d] e".toList ⟨0, 1⟩ = 1 ∧
      Point.offsetIn .utf16 "ab[c,d] e".toList ⟨0, 7⟩ = 7 ∧
      ∃ edits, ((Session.start .utf16 {}).hold "a.pcg".toList "ab[c,d] e".toList).formatRange
          "a.pcg".toList ⟨⟨0, 1⟩, ⟨0, 7⟩⟩ (some ⟨4, true, none, none⟩) = .ok edits ∧
        Token.lexemes (applyEdits .utf16 "ab[c,d] e".toList edits) =
          Token.lexemes "ab[c,d] e".toList := by
  have found : ((Session.start .utf16 {}).hold "a.pcg".toList "ab[c,d] e".toList).source
      "a.pcg".toList = .ok "ab[c,d] e".toList := by decide +kernel
  have sent : ClientOptions.ofClient 4 true none none = .ok ⟨4, true, none, none⟩ := rfl
  have start : Point.offsetIn .utf16 "ab[c,d] e".toList ⟨0, 1⟩ = 1 := by decide +kernel
  have stop : Point.offsetIn .utf16 "ab[c,d] e".toList ⟨0, 7⟩ = 7 := by decide +kernel
  have ordered : Point.offsetIn .utf16 "ab[c,d] e".toList ⟨0, 1⟩ ≤
      Point.offsetIn .utf16 "ab[c,d] e".toList ⟨0, 7⟩ := by omega
  obtain ⟨edits, answer, -, kept, -⟩ :=
    formatRange_keeps_lexemes_iff ⟨⟨0, 1⟩, ⟨0, 7⟩⟩ found sent ordered
  exact ⟨found, sent, start, stop, edits, answer, kept.mpr fun _ => by decide +kernel⟩

/-- The blank behind `a` is selected and dropped, so the two names become one. -/
theorem formatRange_joins_names :
    ((Session.start .utf16 {}).hold "a.pcg".toList "a b".toList).source "a.pcg".toList =
        .ok "a b".toList ∧
      ClientOptions.ofClient 2 true none none = .ok ⟨2, true, none, none⟩ ∧
      Point.offsetIn .utf16 "a b".toList ⟨0, 0⟩ = 0 ∧
      Point.offsetIn .utf16 "a b".toList ⟨0, 2⟩ = 2 ∧
      ∃ edits, ((Session.start .utf16 {}).hold "a.pcg".toList "a b".toList).formatRange
          "a.pcg".toList ⟨⟨0, 0⟩, ⟨0, 2⟩⟩ (some ⟨2, true, none, none⟩) = .ok edits ∧
        applyEdits .utf16 "a b".toList edits = "ab".toList ∧
        Token.lexemes (applyEdits .utf16 "a b".toList edits) ≠ Token.lexemes "a b".toList := by
  refine ⟨by decide +kernel, rfl, by decide +kernel, by decide +kernel, ?_⟩
  refine ⟨[⟨⟨⟨0, 0⟩, ⟨0, 2⟩⟩, ['a']⟩], by decide +kernel, by decide +kernel, ?_⟩
  decide +kernel

end ModuleGrammar.Editor
