/-
# Editor sessions

A session answers the requests of an editor about the documents of its workspace.
It publishes the diagnostics of a document whenever its text changes, and answers
requests for formatting and for completion.
-/
import ModuleGrammar.Grammar
import ModuleGrammar.Identifier
import ModuleGrammar.Position
import ModuleGrammar.Protocol.Message
import ModuleGrammar.Protocol.Workspace

namespace ModuleGrammar

open Protocol

/-- The style of a client over the style of the server. -/
def Protocol.ClientOptions.onto (options : ClientOptions) (style : Style) : Style :=
  { style with
    indentSize := options.tabSize
    useTabs := !options.insertSpaces
    trimTrailingWhitespace := options.trimTrailingWhitespace.getD style.trimTrailingWhitespace
    insertFinalNewline := options.insertFinalNewline.getD style.insertFinalNewline }

namespace Editor

/-- Why a request of an editor fails. -/
inductive Failure
  /-- An integer is out of range. -/
  | outOfRange (fault : RangeFault)
  /-- A document cannot be used. -/
  | document (fault : DocumentFault)
  /-- The indentation cannot be made. -/
  | indentation (fault : IndentFault)
  deriving DecidableEq, Repr

/-- The words for a failure. -/
def Failure.message : Failure → Text
  | .outOfRange fault => fault.message
  | .document fault => fault.message
  | .indentation fault => fault.message

/-- The part of a source that `length` characters from an offset on cover. An
offset outside of the source gives the origin, an end outside of it the start
again. -/
def spanRange (unit : CodeUnit) (source : Text) (offset length : Int) : Range :=
  let lines := source.lines
  let point := fun (position : Position) =>
    Point.ofColumn unit lines (position.line - 1) (position.column - 1)
  match Position.resolve? source offset with
  | none => ⟨.origin, .origin⟩
  | some start =>
    ⟨point start, point ((Position.resolve? source (offset + length)).getD start)⟩

/-- Findings about the meaning of a grammar are warnings, all others errors. -/
def severityOf : Category → Severity
  | .semantic => .warning
  | _ => .error

/-- The notice of a diagnostic. -/
def noticeOf (unit : CodeUnit) (source : Text) (diagnostic : Diagnostic) : Notice where
  range := spanRange unit source diagnostic.offset diagnostic.length
  message := diagnostic.message
  severity := severityOf diagnostic.category

/-- The edit that formats a whole source, if its text changes. -/
def documentEdits (style : Style) (source : Text) : List Edit :=
  let text := layOut style source
  if text = source then [] else [⟨⟨.origin, ⟨source.lines.length, 0⟩⟩, text⟩]

/-- The characters of a source from one offset up to another. -/
def slice (source : Text) (start stop : Nat) : Text :=
  (source.take stop).drop start

/-- The edit that formats a part of a source on its own, if its text changes. -/
def rangeEdits (unit : CodeUnit) (style : Style) (source : Text) (range : Range) :
    List Edit :=
  let lines := source.lines
  let start := range.start.settle unit lines
  let stop := range.stop.settle unit lines
  let selected := slice source (start.offset unit lines) (stop.offset unit lines)
  let text := layOut style selected
  if text = selected then [] else [⟨⟨start, stop⟩, text⟩]

/-- The workspace of an editor, the unit that it counts in and the style of the
server. -/
structure Session where
  unit : CodeUnit
  style : Style
  workspace : Workspace
  deriving DecidableEq, Repr

namespace Session

/-- A session without open documents and without files. -/
def start (unit : CodeUnit) (style : Style) : Session :=
  ⟨unit, style, .empty⟩

/-- Close a document. -/
def close (session : Session) (uri : Text) : Session :=
  { session with workspace := session.workspace.close uri }

/-- Hold a text for a document. -/
def hold (session : Session) (uri text : Text) : Session :=
  { session with workspace := session.workspace.hold uri text }

/-- Open a document with a text. -/
def openDocument (session : Session) (uri text : Text) : Except Failure Session :=
  match session.workspace.openDocument uri text with
  | .error fault => .error (.document fault)
  | .ok workspace => .ok { session with workspace }

/-- Replace the text of an open document by one text after the other. -/
def change (session : Session) (uri : Text) (texts : List Text) : Except Failure Session :=
  match session.workspace.change uri texts with
  | .error fault => .error (.document fault)
  | .ok workspace => .ok { session with workspace }

/-- Find a document. -/
def find (session : Session) (uri : Text) : Except Failure Workspace.Origin :=
  (session.workspace.find uri).mapError .document

/-- The text of a document that was found. -/
def read (session : Session) (origin : Workspace.Origin) : Except Failure Text :=
  (session.workspace.read origin).mapError .document

/-- The text of a document. -/
def source (session : Session) (uri : Text) : Except Failure Text :=
  (session.find uri).bind session.read

/-- Refuse a style whose indentation cannot be made. -/
def checkStyle (style : Style) : Except Failure Unit :=
  style.checkIndent.mapError .indentation

/-- The notices of a document. -/
def notices (session : Session) (uri : Text) : Except Failure (List Notice) := do
  let source ← session.source uri
  checkStyle session.style
  return (diagnose source).map (noticeOf session.unit source)

/-- The style for a client, which need not send options. -/
def styleFor (session : Session) (options : Option ClientOptions) : Style :=
  match options with
  | none => session.style
  | some options => options.onto session.style

/-- The edits that a style asks for. A document is read only if the style lets an
editor format at all. -/
def edits (session : Session) (uri : Text) (style : Style) (make : Text → List Edit) :
    Except Failure (List Edit) := do
  let origin ← session.find uri
  if style.enabled then
    let source ← session.read origin
    checkStyle style
    return make source
  else return []

/-- The edits that format a document. -/
def format (session : Session) (uri : Text) (options : Option ClientOptions) :
    Except Failure (List Edit) :=
  let style := session.styleFor options
  session.edits uri style (documentEdits style)

/-- The edits that format a part of a document. -/
def formatRange (session : Session) (uri : Text) (range : Range)
    (options : Option ClientOptions) : Except Failure (List Edit) :=
  let style := session.styleFor options
  session.edits uri style fun source => rangeEdits session.unit style source range

/-- The names that a document already uses. -/
def completions (session : Session) (uri : Text) : Except Failure (List Text) :=
  (session.source uri).map Identifier.sorted

/-- The part of a document that `length` characters from an offset on cover. -/
def span (session : Session) (uri : Text) (offset length : Int) : Except Failure Range :=
  (session.source uri).map fun source => spanRange session.unit source offset length

end Session

end Editor

end ModuleGrammar
