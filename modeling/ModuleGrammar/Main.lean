/-
# The command

The outer layer of the command: it reads arguments and files, prints, writes and
waits. What it reads is handed to the library, and it does what the library
plans.
-/
import ModuleGrammar.Command.Watch

namespace ModuleGrammar.Main

open ModuleGrammar.Command

/-- The number of an error. Some calls give it with a sign. -/
def errorNumber (code : UInt32) : Nat :=
  code.toInt32.toInt.natAbs

/-- An error as the operating system tells it. -/
def systemError (namesPath : Bool) : IO.Error → SystemError
  | .alreadyExists _ code words | .otherError code words | .resourceBusy code words
  | .resourceVanished code words | .unsupportedOperation code words
  | .hardwareFault code words | .unsatisfiedConstraints code words
  | .illegalOperation code words | .protocolError code words | .timeExpired code words
  | .interrupted _ code words | .noFileOrDirectory _ code words
  | .invalidArgument _ code words | .permissionDenied _ code words
  | .resourceExhausted _ code words | .inappropriateType _ code words
  | .noSuchThing _ code words => ⟨errorNumber code, words.toList, namesPath⟩
  | .unexpectedEof => ⟨0, "unexpected end of file".toList, namesPath⟩
  | .userError words => ⟨0, words.toList, namesPath⟩

/-- The fault behind an error. -/
def faultOf (error : SystemError) : FileFault :=
  let known := [FileFault.missing, .notDirectory, .isDirectory, .nameTooLong]
  (known.find? fun fault => fault.error.number = error.number).getD (.system error)

/-- Try to do something, and tell the error if there is one. -/
def attempt {α : Type} (namesPath : Bool) (action : IO α) : IO (Except SystemError α) := do
  try return .ok (← action)
  catch error => return .error (systemError namesPath error)

/-- The name of a file for the operating system. -/
def fileName (path : Path) : String :=
  String.ofList path.text

/-- Do something that is about a path. -/
def access {α : Type} (path : Path) (action : IO α) : IO (Except Failure α) := do
  if path.hasNull then return .error .embeddedNull
  return (← attempt true action).mapError fun error => .file (faultOf error) path

/-- The content of a file. -/
def contentOf (path : Path) : IO Bytes :=
  return (← IO.FS.readBinFile (fileName path)).toList

/-- What the operating system knows about a file. -/
def metadataOf (path : Path) : IO IO.FS.Metadata :=
  (System.mkFilePath [fileName path]).metadata

/-- The time at which a file was modified, in nanoseconds. -/
def stampOf (path : Path) : IO (Except Failure Stamp) :=
  access path do
    let time := (← metadataOf path).modified
    return .time (time.sec * 1000000000 + time.nsec.toNat)

/-- Write a file, and tell why it failed. -/
def writeFile (path : Path) (content : Bytes) : IO (Option Failure) := do
  match ← access path (IO.FS.Handle.mk (fileName path) .write) with
  | .error failure => return some failure
  | .ok handle =>
    match ← attempt false do handle.write ⟨content.toArray⟩; handle.flush with
    | .error error => return some (.file (faultOf error) path)
    | .ok () => return none

/-- Print a text to the one output and a text to the other. -/
def print (printed : Printed) : IO Unit := do
  let out ← IO.getStdout
  out.putStr (String.ofList printed.out)
  out.flush
  IO.eprint (String.ofList printed.err)

/-- Read the standard input to its end. -/
partial def readInput (input : IO.FS.Stream) (content : ByteArray) : IO ByteArray := do
  let chunk ← input.read 65536
  if chunk.isEmpty then return content else readInput input (content ++ chunk)

/-- Read the source of a request. -/
def readSource (request : Request) : IO (Except Failure Text) := do
  let content ←
    match request.input with
    | none =>
      pure ((← attempt false do readInput (← IO.getStdin) .empty).mapError .stream
        |>.map ByteArray.toList)
    | some path => access path (contentOf path)
  return content.bind decodeSource

/-- Write a text to the output of a request, and tell why it failed. -/
def deliver (request : Request) (text : Text) : IO (Option Failure) := do
  match request.output with
  | none =>
    match ← attempt false (print ⟨text, []⟩) with
    | .error error => return some (.stream error)
    | .ok () => return none
  | some path => writeFile path (Utf8.encode text)

/-- Print what is printed at the end of a run. -/
def finish (ending : Ending) : IO (Except Crash Nat) := do
  print ending.printed
  return ending.result

/-- Carry out a plan. -/
def carryOut (request : Request) : Plan → IO (Except Crash Nat)
  | .stop ending => finish ending
  | .write report text done failureCode => do
    print report
    finish (Plan.conclude done failureCode (← deliver request text))

/-- Look at the input twice a second, until the command is interrupted. -/
partial def watchFrom (request : Request) (path : Path) (watch : Watch) :
    IO (Except Crash Nat) := do
  match watch.notice (← stampOf path) with
  | .error reason => return .error reason
  | .ok none => IO.sleep 500; watchFrom request path watch
  | .ok (some next) =>
    match ← carryOut request (Watch.plan request path (← readSource request)) with
    | .error reason => return .error reason
    | .ok _ => IO.sleep 500; watchFrom request path next

/-- Do what a request says. -/
def perform (request : Request) : IO (Except Crash Nat) := do
  if request.watch then
    match request.input with
    | none => finish Request.unwatchable
    | some path =>
      print (Watch.greeting path)
      watchFrom request path .initial
  else carryOut request (request.plan (← readSource request))

/-- The content of the configuration file of an invocation, if there is one. -/
def configContent (invocation : Invocation) : IO (Except ConfigError (Option Bytes)) := do
  let path := invocation.configPath
  if path.hasNull then return .ok none
  let isFile ← attempt true do return (← metadataOf path).type == .file
  let content ← attempt true (contentOf path)
  return Invocation.configFound path (isFile.mapError faultOf) (content.mapError faultOf)

/-- Run the command with some arguments. -/
def run (arguments : List String) : IO (Except Crash Nat) := do
  match Invocation.ofArguments (arguments.map String.toList) with
  | .error halt => finish halt.ending
  | .ok invocation =>
    match (← configContent invocation).bind invocation.resolveWith with
    | .error error => finish error.ending
    | .ok request => perform request

end ModuleGrammar.Main

/-- The command. -/
def main (arguments : List String) : IO UInt32 := do
  match ← ModuleGrammar.Main.run arguments with
  | .ok code => return code.toUInt32
  | .error reason =>
    ModuleGrammar.Main.print (.errLine reason.message)
    return 1
