/-
# Options of the command

The command takes twelve options. An option has a long spelling, some have a
short one as well, and three of them take a value.
-/
import ModuleGrammar.Text.Basic

namespace ModuleGrammar.Command

/-- The options of the command. -/
inductive Switch
  | help
  | output
  | config
  | indentSize
  | useTabs
  | noNewlineAfterBrackets
  | noNewlineBeforeBrackets
  | noFinalNewline
  | noTrimTrailingWhitespace
  | check
  | watch
  | debug
  deriving DecidableEq, Repr

namespace Switch

/-- The options, in the order of their definition. -/
def all : List Switch :=
  [.help, .output, .config, .indentSize, .useTabs, .noNewlineAfterBrackets,
    .noNewlineBeforeBrackets, .noFinalNewline, .noTrimTrailingWhitespace, .check, .watch,
    .debug]

/-- The spellings of an option, the short one first. -/
def spellings : Switch → List Text
  | .help => ["-h".toList, "--help".toList]
  | .output => ["-o".toList, "--output".toList]
  | .config => ["--config".toList]
  | .indentSize => ["--indent-size".toList]
  | .useTabs => ["--use-tabs".toList]
  | .noNewlineAfterBrackets => ["--no-newline-after-brackets".toList]
  | .noNewlineBeforeBrackets => ["--no-newline-before-brackets".toList]
  | .noFinalNewline => ["--no-final-newline".toList]
  | .noTrimTrailingWhitespace => ["--no-trim-trailing-whitespace".toList]
  | .check => ["--check".toList]
  | .watch => ["--watch".toList]
  | .debug => ["--debug".toList]

/-- Whether an option takes a value. -/
def takesValue : Switch → Bool
  | .output | .config | .indentSize => true
  | _ => false

/-- All spellings with their options. -/
def dictionary : List (Text × Switch) :=
  all.flatMap fun switch => switch.spellings.map fun spelling => (spelling, switch)

/-- The option with a spelling. -/
def ofSpelling? (spelling : Text) : Option Switch :=
  dictionary.lookup spelling

/-- The name of an option in a message: all its spellings. -/
def title (switch : Switch) : Text :=
  Text.join ['/'] switch.spellings

end Switch

end ModuleGrammar.Command
