/-
# Running the command

A run reads its input, formats it, prints the diagnostics and either checks or
writes the text. It ends with code 0 if nothing was found, with code 1 if there
are diagnostics or a check fails, and with code 2 if the arguments, the
configuration or a file cannot be used. Some runs are stopped before they have a
code, but they too have printed something and leave files behind.

What a run does with a source is a plan, which says what to print and what to
write. Over a store a plan has a course; the command itself carries it out.
-/
import ModuleGrammar.Grammar
import ModuleGrammar.Text.Line
import ModuleGrammar.Token.Listing
import ModuleGrammar.Diagnostic.Excerpt
import ModuleGrammar.Command.Request

namespace ModuleGrammar.Command

/-- What was printed to the two outputs. -/
structure Printed where
  out : Text
  err : Text
  deriving DecidableEq, Repr

namespace Printed

/-- Nothing was printed. -/
def nothing : Printed :=
  ⟨[], []⟩

/-- First one thing was printed and then another. -/
def append (first second : Printed) : Printed :=
  ⟨first.out ++ second.out, first.err ++ second.err⟩

/-- A line on the error output. -/
def errLine (line : Text) : Printed :=
  ⟨[], line ++ ['\n']⟩

end Printed

/-- The standard streams: what comes of reading the one, and how many characters
the other takes. The error output takes everything. -/
structure Streams where
  input : Except SystemError Bytes
  limit : Option Limit
  deriving Repr

/-- An input that can be read, and an output that takes everything. -/
def Streams.ofInput (content : Bytes) : Streams :=
  ⟨.ok content, none⟩

/-- Why a source cannot be read or a text cannot be written. -/
inductive Failure
  | embeddedNull
  | file (fault : FileFault) (path : Path)
  | stream (error : SystemError)
  | undecodable (error : Utf8.DecodeError)
  deriving DecidableEq, Repr

/-- The line that is printed for a failure. A null character stops the run. -/
def Failure.line : Failure → Except Crash Text
  | .embeddedNull => .error .embeddedNull
  | .file fault path => .ok ("error: ".toList ++ fault.message path)
  | .stream error => .ok ("error: ".toList ++ error.message)
  | .undecodable error => .ok ("error: ".toList ++ error.message)

/-- How a run ends: the code or what stops it, and what is printed last. -/
structure Ending where
  result : Except Crash Nat
  printed : Printed
  deriving Repr

/-- The end of a run with a failure, which is printed and gives a code. -/
def Failure.ending (failure : Failure) (code : Nat) : Ending :=
  match failure.line with
  | .error crash => ⟨.error crash, .nothing⟩
  | .ok line => ⟨.ok code, .errLine line⟩

/-- What to do with a source. -/
inductive Plan
  /-- Nothing is written. -/
  | stop (ending : Ending)
  /-- A report is printed and a text is written. The run ends as planned if the text
  can be written, and with a code for the failure if it cannot. -/
  | write (report : Printed) (text : Text) (done : Ending) (failureCode : Nat)
  deriving Repr

/-- The end of a plan, once its text has been written or not. -/
def Plan.conclude (done : Ending) (failureCode : Nat) : Option Failure → Ending
  | none => done
  | some failure => failure.ending failureCode

/-- Decode a source. All line breaks of the common kinds become newlines. -/
def decodeSource (content : Bytes) : Except Failure Text :=
  match Utf8.decode content with
  | .error error => .error (.undecodable error)
  | .ok text => .ok text.unifyBreaks

namespace Request

/-- The tokens of a source, if they were asked for. A source is never so long that
their listing breaks off. -/
def listing (request : Request) (source : Text) : Text :=
  if request.debug then (Token.listing (Token.scan source)).text else []

/-- What is printed about a source: its tokens if they were asked for, and its
diagnostics. -/
def report (request : Request) (source : Text) (diagnostics : List Diagnostic) : Printed :=
  let excerpts := diagnostics.flatMap fun diagnostic =>
    diagnostic.excerpt source request.displayName ++ ['\n']
  ⟨[], request.listing source ++ excerpts⟩

/-- The code for a source in which diagnostics were found or not. -/
def cleanCode (formatted : Formatted) : Nat :=
  if formatted.isClean then 0 else 1

/-- Compare the formatted text with the source. -/
def compare (request : Request) (source : Text) (formatted : Formatted) : Nat × Printed :=
  if formatted.text = source then (cleanCode formatted, .nothing)
  else (1, .errLine ("would reformat ".toList ++ request.displayName))

/-- Format a source. -/
def formatSource (request : Request) (source : Text) : Except Crash Formatted :=
  match tryFormat request.style source with
  | .error fault => .error (.indentation fault)
  | .ok formatted => .ok formatted

/-- Check or write a formatted source. -/
def finish (request : Request) (source : Text) (formatted : Formatted) : Plan :=
  let report := request.report source formatted.diagnostics
  if request.check then
    let (code, printed) := request.compare source formatted
    .stop ⟨.ok code, report.append printed⟩
  else .write report formatted.text ⟨.ok (cleanCode formatted), .nothing⟩ 2

/-- Format a source that was read, and go on with what comes of it. -/
def proceed (request : Request) (failureCode : Nat) (next : Text → Formatted → Plan) :
    Except Failure Text → Plan
  | .error failure => .stop (failure.ending failureCode)
  | .ok source =>
    match request.formatSource source with
    | .error crash => .stop ⟨.error crash, ⟨[], request.listing source⟩⟩
    | .ok formatted => next source formatted

/-- What a run does that reads its source once. -/
def plan (request : Request) (source : Except Failure Text) : Plan :=
  request.proceed 2 request.finish source

end Request

/-- The course of a run: the code that it ends with or what stops it, what it has
printed by then, and the files that it leaves. -/
structure Course where
  result : Except Crash Nat
  printed : Printed
  store : Store
  deriving Repr

/-- What comes of writing a text: the failure, if there is one, what was printed,
and the files then. -/
structure Delivery where
  failure? : Option Failure
  printed : Printed
  store : Store
  deriving DecidableEq, Repr

namespace Request

/-- Read the source of a request. -/
def readSource (request : Request) (store : Store) (streams : Streams) :
    Except Failure Text :=
  match request.input with
  | none =>
    match streams.input with
    | .error error => .error (.stream error)
    | .ok content => decodeSource content
  | some path =>
    if path.hasNull then .error .embeddedNull
    else
      match store.readFile path with
      | .error fault => .error (.file fault path)
      | .ok content => decodeSource content

/-- Write a text to the output of a request. -/
def deliver (request : Request) (store : Store) (streams : Streams) (text : Text) : Delivery :=
  match request.output with
  | none =>
    let (part, error?) := Limit.pass streams.limit text
    ⟨error?.map .stream, ⟨part, []⟩, store⟩
  | some path =>
    if path.hasNull then ⟨some .embeddedNull, .nothing, store⟩
    else
      let written := store.writeFile path (Utf8.encode text)
      ⟨written.fault?.map (.file · path), .nothing, written.store⟩

/-- The course of a plan over a store. -/
def carryOut (request : Request) (store : Store) (streams : Streams) : Plan → Course
  | .stop ending => ⟨ending.result, ending.printed, store⟩
  | .write report text done failureCode =>
    let delivery := request.deliver store streams text
    let ending := Plan.conclude done failureCode delivery.failure?
    ⟨ending.result, (report.append delivery.printed).append ending.printed, delivery.store⟩

/-- Read, format and check or write once. -/
def runOnce (request : Request) (store : Store) (streams : Streams) : Course :=
  request.carryOut store streams (request.plan (request.readSource store streams))

end Request

end ModuleGrammar.Command
