/-
# What stops a run

Most failures of a run are printed, and the run ends with a code. A few stop it
without an outcome: a path with a null character, a configuration file that
cannot be read, is not text or holds an integer of too many digits, and an
indentation that cannot be made.
-/
import ModuleGrammar.Style
import ModuleGrammar.Text.Numeral
import ModuleGrammar.File.Store

namespace ModuleGrammar.Command

/-- What stops a run without an outcome. -/
inductive Crash
  /-- A path with a null character was to be used. -/
  | embeddedNull
  /-- The configuration file is not text. -/
  | undecodableConfig (error : Utf8.DecodeError)
  /-- The configuration file cannot be looked up or read. -/
  | unreachableConfig (fault : FileFault) (path : Path)
  /-- An integer of the configuration cannot be read or shown. -/
  | numeral (fault : NumeralFault)
  /-- The indentation cannot be made. -/
  | indentation (fault : IndentFault)
  deriving DecidableEq, Repr

/-- The words for what stops a run. -/
def Crash.message : Crash → Text
  | .embeddedNull => Path.nullMessage
  | .undecodableConfig error => error.message
  | .unreachableConfig fault path => fault.message path
  | .numeral fault => fault.message
  | .indentation fault => fault.message

end ModuleGrammar.Command
