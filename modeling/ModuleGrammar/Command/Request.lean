/-
# Requests

A request says what to do for an invocation: which file to read, where to write,
and in which style. The style is the default style with two layers over it, the
table `format` of the configuration file and the options of the command.
-/
import ModuleGrammar.Style.Layer
import ModuleGrammar.Toml.Document
import ModuleGrammar.File.Store
import ModuleGrammar.Command.Crash
import ModuleGrammar.Command.Invocation

namespace ModuleGrammar.Command

/-- What to do for an invocation. Without an input the standard input is read, and
without an output the standard output is written. -/
structure Request where
  input : Option Path
  output : Option Path
  style : Style
  check : Bool
  watch : Bool
  debug : Bool
  deriving DecidableEq, Repr

namespace Request

/-- The name of the input in messages. -/
def displayName (request : Request) : Text :=
  match request.input with
  | some path => path.text
  | none => "<stdin>".toList

end Request

/-- Why a configuration cannot be used. -/
inductive ConfigError
  /-- The file cannot be looked up or read. -/
  | unreachable (fault : FileFault) (path : Path)
  /-- The file is not text. -/
  | undecodable (error : Utf8.DecodeError)
  /-- The file holds an integer with too many digits. -/
  | numeral (fault : NumeralFault)
  /-- The file breaks a rule of its format. -/
  | malformed
  /-- A setting cannot take its value. -/
  | setting (error : SettingError)
  deriving Repr

/-- The name of a configuration file. -/
def configName : Text := "pcgfmt.toml".toList

/-- What stands for the details of a file that breaks a rule of its format. -/
def malformedDetail : Text := "<toml>".toList

namespace ConfigError

/-- The key that an error is about. -/
def key : ConfigError → Text
  | .setting error => error.key
  | _ => "config".toList

/-- What an error stops the run with, if it is not one that is printed. -/
def crash? : ConfigError → Option Crash
  | .unreachable fault path => some (.unreachableConfig fault path)
  | .undecodable error => some (.undecodableConfig error)
  | .numeral fault => some (.numeral fault)
  | .malformed => none
  | .setting error => error.numeralFault?.map .numeral

/-- The words for an error. -/
def message : ConfigError → Text
  | .unreachable fault path => fault.message path
  | .undecodable error => error.message
  | .numeral fault => fault.message
  | .malformed => invalidOption "config".toList malformedDetail
  | .setting error => error.message

/-- The line that is printed for an error. -/
def line (error : ConfigError) : Except Crash Text :=
  match error.crash? with
  | some crash => .error crash
  | none => .ok ("error: ".toList ++ error.message)

end ConfigError

namespace Invocation

/-- A single hyphen stands for the standard input. -/
def inputPath (invocation : Invocation) : Option Path :=
  if invocation.input = ['-'] then none else some (Path.ofText invocation.input)

/-- A path that was given and is not empty. -/
def givenPath (text : Option Text) : Option Path :=
  (text.filter (!·.isEmpty)).map Path.ofText

/-- The configuration file: the one that was given, or the one beside the
input. -/
def configPath (invocation : Invocation) : Path :=
  match givenPath invocation.options.config with
  | some path => path
  | none =>
    let directory := (invocation.inputPath.map Path.parent).getD ⟨.workingDirectory, []⟩
    directory.child configName

/-- What follows from looking whether the configuration file is a file, and from
trying to read it. It need not be there. -/
def configFound (path : Path) (isFile : Except FileFault Bool)
    (content : Except FileFault Bytes) : Except ConfigError (Option Bytes) :=
  match isFile, content with
  | .error fault, _ =>
    if fault.meansAbsence then .ok none else .error (.unreachable fault path)
  | .ok false, _ => .ok none
  | .ok true, .error fault => .error (.unreachable fault path)
  | .ok true, .ok content => .ok (some content)

/-- The content of the configuration file, if there is one. -/
def configContent (invocation : Invocation) (store : Store) :
    Except ConfigError (Option Bytes) :=
  let path := invocation.configPath
  if path.hasNull then .ok none
  else configFound path (store.isFile path) (store.readFile path)

/-- The settings in a configuration file. A file that is not there has none. -/
def readConfig : Option Bytes → Except ConfigError Table
  | none => .ok []
  | some content =>
    match Utf8.decode content with
    | .error error => .error (.undecodable error)
    | .ok text =>
      match Toml.read text with
      | .error .malformed => .error .malformed
      | .error (.numeral fault) => .error (.numeral fault)
      | .ok table => .ok table

/-- The layer of the configuration file. -/
def configLayer (config : Table) : Table :=
  match config.lookup "format".toList with
  | some (.table entries) => entries
  | _ => []

/-- An entry, if a condition holds. -/
def entryIf (condition : Bool) (key : String) (truth : Bool) : Table :=
  if condition then [(key.toList, .boolean truth)] else []

/-- The layer of the options. -/
def optionLayer (options : Options) : Table :=
  (options.indentSize.map fun size => ("indent_size".toList, size)).toList ++
    entryIf options.useTabs "use_tabs" true ++
    entryIf options.noNewlineAfterBrackets "insert_newline_after_brackets" false ++
    entryIf options.noNewlineBeforeBrackets "insert_newline_before_brackets" false ++
    entryIf options.noFinalNewline "insert_final_newline" false ++
    entryIf options.noTrimTrailingWhitespace "trim_trailing_whitespace" false

/-- The style for some options over a configuration. -/
def resolveStyle (config : Table) (options : Options) : Except SettingError Style :=
  match Style.layer {} (configLayer config) with
  | .error error => .error error
  | .ok style => style.layer (optionLayer options)

/-- The request of an invocation, from the content of its configuration file. -/
def resolveWith (invocation : Invocation) (content : Option Bytes) :
    Except ConfigError Request :=
  match readConfig content with
  | .error error => .error error
  | .ok config =>
    match resolveStyle config invocation.options with
    | .error error => .error (.setting error)
    | .ok style =>
      .ok {
        input := invocation.inputPath
        output := givenPath invocation.options.output
        style
        check := invocation.options.check
        watch := invocation.options.watch
        debug := invocation.options.debug }

/-- The request of an invocation. -/
def resolve (invocation : Invocation) (store : Store) : Except ConfigError Request :=
  match invocation.configContent store with
  | .error error => .error error
  | .ok content => invocation.resolveWith content

end Invocation

end ModuleGrammar.Command
