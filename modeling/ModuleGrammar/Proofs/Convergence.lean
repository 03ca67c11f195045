/-
# Formatting a document converges

The edit of a whole document goes from its first line to the line behind the last one. The
server counts lines at all line breaks, and a client only at newlines and carriage returns.
So the client counts at most as many lines, the edit reaches the end of the document for it
as well, and nothing of the old text is left over. The new text is the layout of the old
one, which the next request leaves as it is.
-/
import ModuleGrammar.Proofs.Line
import ModuleGrammar.Proofs.Selection

namespace ModuleGrammar.Protocol

/-- The text behind the first line end of a client: a newline, a carriage return, or a
carriage return with its newline. -/
def nextLine? : Text → Option Text
  | [] => none
  | '\r' :: '\n' :: rest => some rest
  | c :: rest => if c = '\n' ∨ c = '\r' then some rest else nextLine? rest

/-- The text from a line of a client on. Nothing is left behind the last line. -/
def fromLine : Nat → Text → Text
  | 0, text => text
  | line + 1, text =>
    match nextLine? text with
    | none => []
    | some rest => fromLine line rest

/-- The text from a point on, as a client counts. A point behind the end of its line counts
as the end of the line, and a point behind the last line as the end of the document. -/
def Point.onward (unit : CodeUnit) (source : Text) (point : Point) : Text :=
  let rest := fromLine point.line source
  rest.drop (unit.reach point.character (rest.takeWhile fun c => c != '\n' && c != '\r'))

/-- Replace the range of an edit by its text, as a client does. -/
def Edit.applyAtClient (unit : CodeUnit) (source : Text) (edit : Edit) : Text :=
  let start := source.length - (edit.range.start.onward unit source).length
  source.take start ++ edit.text ++ edit.range.stop.onward unit source

/-- Apply the edits of a document as a client does. -/
def applyAtClient (unit : CodeUnit) (source : Text) (edits : List Edit) : Text :=
  edits.foldl (Edit.applyAtClient unit) source

theorem nextLine?_cons {c : Char} (newline : c ≠ '\n') (return_ : c ≠ '\r') (rest : Text) :
    nextLine? (c :: rest) = nextLine? rest := by
  rw [nextLine?, if_neg (by simp [newline, return_])]
  rintro after rfl rfl
  exact return_ rfl

theorem nextLine?_of_single {c : Char} {rest : Text} (ends : c = '\n' ∨ c = '\r')
    (single : c = '\r' → rest.head? ≠ some '\n') : nextLine? (c :: rest) = some rest := by
  rw [nextLine?, if_pos ends]
  rintro after rfl rfl
  exact single rfl rfl

/-- A client counts at most as many lines as there are. -/
theorem fromLine_eq_nil (source : Text) :
    ∀ line, source.lines.length ≤ line → fromLine line source = [] := by
  induction source using Text.lines_induction with
  | nil =>
      intro line _
      cases line <;> rfl
  | pair rest ih =>
      intro line behind
      rw [Text.lines_return_newline, List.length_cons] at behind
      obtain ⟨line, rfl⟩ : ∃ previous, line = previous + 1 := ⟨line - 1, by omega⟩
      exact ih line (by omega)
  | single c rest isbreak unpaired ih =>
      intro line behind
      rw [Text.lines_cons_of_isLineBreak isbreak unpaired, List.length_cons] at behind
      obtain ⟨line, rfl⟩ : ∃ previous, line = previous + 1 := ⟨line - 1, by omega⟩
      by_cases ends : c = '\n' ∨ c = '\r'
      · rw [fromLine, nextLine?_of_single ends unpaired]
        exact ih line (by omega)
      · -- The client takes no line end here, and has one line less to go.
        rw [not_or] at ends
        rw [fromLine, nextLine?_cons ends.1 ends.2, ← fromLine]
        exact ih (line + 1) (by omega)
  | inside c rest nobreak ih =>
      intro line behind
      rw [Text.lines_cons nobreak, Text.length_consHead] at behind
      obtain ⟨line, rfl⟩ : ∃ previous, line = previous + 1 := ⟨line - 1, by omega⟩
      have newline : c ≠ '\n' := by
        rintro rfl
        exact absurd nobreak (by decide)
      have return_ : c ≠ '\r' := by
        rintro rfl
        exact absurd nobreak (by decide)
      rw [fromLine, nextLine?_cons newline return_, ← fromLine]
      exact ih (line + 1) (by omega)

theorem Point.onward_origin (unit : CodeUnit) (source : Text) :
    origin.onward unit source = source := by
  rw [onward, origin, fromLine, CodeUnit.reach, List.drop_zero]

/-- For a client too, the point behind all lines is the end of the document. -/
theorem Point.onward_behind_lines (unit : CodeUnit) (source : Text) :
    Point.onward unit source ⟨source.lines.length, 0⟩ = [] := by
  rw [onward, fromLine_eq_nil source _ (Nat.le_refl _), List.drop_nil]

end ModuleGrammar.Protocol

namespace ModuleGrammar.Editor

open Protocol

/-- The edit of a document replaces all of it. -/
theorem applyAtClient_documentEdits (unit : CodeUnit) (style : Style) (source : Text) :
    applyAtClient unit source (documentEdits style source) = layOut style source := by
  by_cases unchanged : layOut style source = source
  · rw [documentEdits, if_pos unchanged, unchanged]
    rfl
  · rw [documentEdits, if_neg unchanged]
    simp only [applyAtClient, List.foldl_cons, List.foldl_nil, Edit.applyAtClient,
      Point.onward_origin, Point.onward_behind_lines, Nat.sub_self, List.take_zero,
      List.nil_append, List.append_nil]

/-- A document that was formatted needs no edit. -/
theorem documentEdits_layOut (style : Style) (source : Text) :
    documentEdits style (layOut style source) = [] := by
  rw [documentEdits, if_pos (layOut_layOut style style source)]

/-- A document that can be read is formatted, if the style allows it. -/
theorem Session.format_eq_ok {session : Session} {uri source : Text}
    (found : session.source uri = .ok source) {options : ClientOptions}
    (valid : (options.onto session.style).indentFault? = none)
    (allowed : session.style.enabled = true) :
    session.format uri (some options) =
      .ok (documentEdits (options.onto session.style) source) := by
  have enabled : (options.onto session.style).enabled = true := allowed
  rw [format, styleFor, edits_eq_ok found valid, if_pos enabled]

/-- A client that formats a document gets the layout of the source and nothing else, whatever
breaks its lines. If it asks again with the same options for the text that it has now, then
there is nothing to edit. The style of the server allows formatting unless it says otherwise. -/
theorem format_document_converges {session : Session} {uri source : Text} {tabSize : Int}
    {insertSpaces : Bool} {trim final : Option Bool} {options : ClientOptions}
    (found : session.source uri = .ok source)
    (sent : ClientOptions.ofClient tabSize insertSpaces trim final = .ok options)
    (allowed : session.style.enabled = true) :
    ∃ edits, session.format uri (some options) = .ok edits ∧
      applyAtClient session.unit source edits =
        (ModuleGrammar.format (options.onto session.style) source).text ∧
      ∀ later : Session, later.style = session.style →
        later.source uri = .ok (applyAtClient session.unit source edits) →
        later.format uri (some options) = .ok [] := by
  have answer := Session.format_eq_ok found (indentFault?_onto sent session.style) allowed
  have applied := applyAtClient_documentEdits session.unit (options.onto session.style) source
  refine ⟨_, answer, applied, fun later same again => ?_⟩
  rw [applied] at again
  rw [← same] at allowed
  rw [Session.format_eq_ok again (indentFault?_onto sent later.style) allowed, same,
    documentEdits_layOut]

/-- The server counts three lines here, and the client two: a form feed ends none of its
lines, and a carriage return does. -/
theorem format_document_converges_behind_formFeed :
    let session := (Session.start .utf16 {}).hold "a.pcg".toList "[a\x0c,\rb]".toList
    let options : ClientOptions := ⟨4, true, none, none⟩
    let result := "[\n    a,\n    b\n]".toList
    session.source "a.pcg".toList = .ok "[a\x0c,\rb]".toList ∧
      ClientOptions.ofClient 4 true none none = .ok options ∧ session.style.enabled = true ∧
      (∃ edits, session.format "a.pcg".toList (some options) = .ok edits ∧
        applyAtClient .utf16 "[a\x0c,\rb]".toList edits = result) ∧
      (session.hold "a.pcg".toList result).format "a.pcg".toList (some options) = .ok [] := by
  intro session options result
  have found : session.source "a.pcg".toList = .ok "[a\x0c,\rb]".toList := by decide +kernel
  have sent : ClientOptions.ofClient 4 true none none = .ok options := rfl
  have text : (ModuleGrammar.format (options.onto session.style) "[a\x0c,\rb]".toList).text =
      result := by decide +kernel
  obtain ⟨edits, answer, applied, converged⟩ := format_document_converges found sent rfl
  rw [applied, text] at converged
  have again : (session.hold "a.pcg".toList result).source "a.pcg".toList = .ok result := by
    decide +kernel
  exact ⟨found, sent, rfl, ⟨edits, answer, applied.trans text⟩, converged _ rfl again⟩

end ModuleGrammar.Editor
