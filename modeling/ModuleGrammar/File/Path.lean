/-
# Paths

A path is a sequence of names, read from the working directory or from a root.
Names that are empty or a single dot do not count, so repeated slashes and a
slash at the end vanish. A double dot stays, because the directory that it leads
to depends on the files.
-/
import ModuleGrammar.Text.Basic

namespace ModuleGrammar

/-- Where a path starts. Exactly two leading slashes are a root of their own. -/
inductive Anchor
  | workingDirectory
  | root
  | doubleRoot
  deriving DecidableEq, Repr

/-- A path in normal form. -/
structure Path where
  anchor : Anchor
  names : List Text
  deriving DecidableEq, Repr

namespace Path

/-- The name of the directory above. -/
def up : Text := ['.', '.']

/-- The anchor that a number of leading slashes stands for. -/
def anchorOf : Nat → Anchor
  | 0 => .workingDirectory
  | 2 => .doubleRoot
  | _ => .root

/-- Read a path. -/
def ofText (text : Text) : Path where
  anchor := anchorOf (text.takeWhile (· == '/')).length
  names := (text.cut '/').filter fun name => name != [] && name != ['.']

/-- The text in front of the names of a path. -/
def Anchor.text : Anchor → Text
  | .workingDirectory => []
  | .root => ['/']
  | .doubleRoot => ['/', '/']

/-- The text of a path. The working directory itself is a dot. -/
def text (path : Path) : Text :=
  match path.anchor, path.names with
  | .workingDirectory, [] => ['.']
  | anchor, names => Anchor.text anchor ++ Text.join ['/'] names

/-- The directory that holds what a path leads to, by the names alone. -/
def parent (path : Path) : Path :=
  { path with names := path.names.dropLast }

/-- The path of a name in a directory. -/
def child (path : Path) (name : Text) : Path :=
  { path with names := path.names ++ [name] }

/-- Whether a path holds a null character, which no file has in its name. -/
def hasNull (path : Path) : Bool :=
  path.names.any (·.contains '\x00')

/-- The words for a path with a null character. -/
def nullMessage : Text := "embedded null byte".toList

end Path

end ModuleGrammar
