/-
# Usage

The texts that describe the command, and the messages for arguments that it does
not understand.
-/
import ModuleGrammar.Text.Quoted
import ModuleGrammar.Command.Option

namespace ModuleGrammar.Command

/-- The usage of the command, in lines of at most eighty characters. -/
def usage : Text :=
  ("usage: pcgfmt [-h] [-o OUTPUT] [--config FILE] [--indent-size N] [--use-tabs]\n" ++
    "              [--no-newline-after-brackets] [--no-newline-before-brackets]\n" ++
    "              [--no-final-newline] [--no-trim-trailing-whitespace] [--check]\n" ++
    "              [--watch] [--debug]\n" ++
    "              input\n").toList

/-- The description of the command and of its arguments. -/
def help : Text :=
  usage ++
  ("\n" ++
    "Format and validate PCG module grammars\n" ++
    "\n" ++
    "positional arguments:\n" ++
    "  input                 Input grammar file ('-' for stdin)\n" ++
    "\n" ++
    "options:\n" ++
    "  -h, --help            show this help message and exit\n" ++
    "  -o OUTPUT, --output OUTPUT\n" ++
    "                        Output file (default: stdout)\n" ++
    "  --config FILE         Config file (default: auto-discover pcgfmt.toml)\n" ++
    "  --indent-size N       Spaces per indent level (default: 2)\n" ++
    "  --use-tabs            Indent with one tab per level\n" ++
    "  --no-newline-after-brackets\n" ++
    "                        Keep content on the same line after '[' and '<'\n" ++
    "  --no-newline-before-brackets\n" ++
    "                        Keep content on the same line after '\x7b'\n" ++
    "  --no-final-newline    Do not end the output with a newline\n" ++
    "  --no-trim-trailing-whitespace\n" ++
    "                        Keep trailing whitespace\n" ++
    "  --check               Exit with status 1 if the input is not already\n" ++
    "                        formatted; write nothing\n" ++
    "  --watch               Watch for changes and reformat\n" ++
    "  --debug               Dump tokens to stderr\n").toList

/-- What can be wrong with the arguments. -/
inductive UsageError
  /-- A shortened option could be several ones. -/
  | ambiguous (typed : Text) (spellings : List Text)
  /-- An option is not followed by its value. -/
  | missingValue (switch : Switch)
  /-- A value was given to an option that takes none. -/
  | ignoredValue (switch : Switch) (value : Text)
  /-- The value of an option is not an integer. -/
  | invalidInteger (switch : Switch) (value : Text)
  /-- There is no input. -/
  | missingInput
  /-- Some arguments belong to nothing. -/
  | unrecognized (arguments : List Text)
  deriving DecidableEq, Repr

namespace UsageError

/-- The words for what is wrong with an option. -/
def aboutOption (switch : Switch) (detail : Text) : Text :=
  "argument ".toList ++ switch.title ++ ": ".toList ++ detail

/-- The words for what is wrong with the arguments. -/
def message : UsageError → Text
  | .ambiguous typed spellings =>
    "ambiguous option: ".toList ++ typed ++ " could match ".toList ++
      Text.join ", ".toList spellings
  | .missingValue switch => aboutOption switch "expected one argument".toList
  | .ignoredValue switch value =>
    aboutOption switch ("ignored explicit argument ".toList ++ value.quote)
  | .invalidInteger switch value =>
    aboutOption switch ("invalid int value: ".toList ++ value.quote)
  | .missingInput => "the following arguments are required: input".toList
  | .unrecognized arguments =>
    "unrecognized arguments: ".toList ++ Text.join [' '] arguments

/-- What is printed for arguments that are wrong. -/
def report (error : UsageError) : Text :=
  usage ++ "pcgfmt: error: ".toList ++ error.message ++ ['\n']

end UsageError

end ModuleGrammar.Command
