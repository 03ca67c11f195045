/-
# Workspaces

A workspace holds the open documents of an editor, as the library that speaks the
protocol keeps them. Two URIs name one document if they agree when their percent
escapes are decoded. A document that is not open is read from its file.
-/
import ModuleGrammar.Text.Line
import ModuleGrammar.File.Store
import ModuleGrammar.Protocol.Uri

namespace ModuleGrammar.Protocol

/-- Why a document cannot be found, read or changed. -/
inductive DocumentFault
  /-- A document that is to be changed is not open. -/
  | notOpen (name : Text)
  /-- The URI of a document that is not open is refused. -/
  | refusedUri (fault : HostFault)
  /-- The path of a document that is not open holds a null character. -/
  | embeddedNull
  /-- The file of a document that is not open cannot be read. -/
  | file (fault : FileFault) (path : Path)
  /-- The file of a document that is not open is not text. -/
  | undecodable (error : Utf8.DecodeError)
  deriving DecidableEq, Repr

/-- The words for a fault. -/
def DocumentFault.message : DocumentFault → Text
  | .notOpen name => name.quote
  | .refusedUri fault => fault.message
  | .embeddedNull => Path.nullMessage
  | .file fault path => fault.message path
  | .undecodable error => error.message

/-- The name under which a document is held: its URI with percent escapes
decoded. -/
def documentName (uri : Text) : Text :=
  Percent.decode uri

/-- The path of the file that a URI leads to. -/
def filePath (uri : Text) : Except DocumentFault Path :=
  match Uri.ofText uri with
  | .error fault => .error (.refusedUri fault)
  | .ok uri => .ok uri.filePath

/-- The text of a file. All line breaks of the common kinds become newlines. -/
def fileText (store : Store) (path : Path) : Except DocumentFault Text :=
  if path.hasNull then .error .embeddedNull
  else
    match store.readFile path with
    | .error fault => .error (.file fault path)
    | .ok content =>
      match Utf8.decode content with
      | .error error => .error (.undecodable error)
      | .ok text => .ok text.unifyBreaks

/-- The open documents of an editor by their names, and the files beside them. -/
structure Workspace where
  store : Store
  documents : List (Text × Text)
  deriving DecidableEq, Repr

namespace Workspace

/-- A workspace without open documents and without files. -/
def empty : Workspace :=
  ⟨.empty, []⟩

/-- The text of an open document. -/
def document? (workspace : Workspace) (uri : Text) : Option Text :=
  workspace.documents.lookup (documentName uri)

/-- Close a document. -/
def close (workspace : Workspace) (uri : Text) : Workspace :=
  { workspace with documents := workspace.documents.filter (·.1 != documentName uri) }

/-- Hold a text for a document. -/
def hold (workspace : Workspace) (uri text : Text) : Workspace :=
  { workspace with
    documents := (documentName uri, text) :: (workspace.close uri).documents }

/-- Open a document with a text. Its URI has to be one that leads to a file. -/
def openDocument (workspace : Workspace) (uri text : Text) : Except DocumentFault Workspace :=
  (filePath uri).map fun _ => workspace.hold uri text

/-- Replace the text of an open document by one text after the other. -/
def change (workspace : Workspace) (uri : Text) (texts : List Text) :
    Except DocumentFault Workspace :=
  match texts.getLast?, workspace.document? uri with
  | none, _ => .ok workspace
  | some _, none => .error (.notOpen (documentName uri))
  | some text, some _ => .ok (workspace.hold uri text)

/-- Where the text of a document comes from. -/
inductive Origin
  | held (text : Text)
  | file (path : Path)
  deriving DecidableEq, Repr

/-- Find a document: an open one, or the file that its URI leads to. -/
def find (workspace : Workspace) (uri : Text) : Except DocumentFault Origin :=
  match workspace.document? uri with
  | some text => .ok (.held text)
  | none => (filePath uri).map .file

/-- The text of a document that was found. -/
def read (workspace : Workspace) : Origin → Except DocumentFault Text
  | .held text => .ok text
  | .file path => fileText workspace.store path

end Workspace

end ModuleGrammar.Protocol
