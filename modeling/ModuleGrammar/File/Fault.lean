/-
# What a system refuses

A file or a stream may refuse to be used. A few reasons follow from the files
alone; any other is an error of the operating system, which comes with a number
and its words. What is written may also break off: a part of it gets through, and
then there is an error.
-/
import ModuleGrammar.Text.Quoted
import ModuleGrammar.File.Path

namespace ModuleGrammar

/-- An error of the operating system. Where it is about a path, its message may
name the path. -/
structure SystemError where
  number : Nat
  words : Text
  namesPath : Bool
  deriving DecidableEq, Repr

namespace SystemError

/-- The words for an error that is not about a path. -/
def message (error : SystemError) : Text :=
  "[Errno ".toList ++ Text.ofNat error.number ++ "] ".toList ++ error.words

/-- The words for an error that is about a path. -/
def messageAt (error : SystemError) (path : Path) : Text :=
  error.message ++ if error.namesPath then ": ".toList ++ path.text.quote else []

end SystemError

/-- Why a path cannot be used. -/
inductive FileFault
  | missing
  | notDirectory
  | isDirectory
  | nameTooLong
  /-- The system refuses for a reason of its own, such as a permission. -/
  | system (error : SystemError)
  deriving DecidableEq, Repr

namespace FileFault

/-- The error behind a fault. -/
def error : FileFault → SystemError
  | .missing => ⟨2, "No such file or directory".toList, true⟩
  | .notDirectory => ⟨20, "Not a directory".toList, true⟩
  | .isDirectory => ⟨21, "Is a directory".toList, true⟩
  | .nameTooLong => ⟨36, "File name too long".toList, true⟩
  | .system error => error

/-- The words for a path that cannot be used. -/
def message (fault : FileFault) (path : Path) : Text :=
  fault.error.messageAt path

/-- Whether a fault only says that nothing can be there: no entry of the name, no
directory on the way, no open descriptor or a circle of links. -/
def meansAbsence (fault : FileFault) : Bool :=
  [2, 20, 9, 40].contains fault.error.number

end FileFault

/-- How much can be written before it breaks off, and the error then. -/
structure Limit where
  room : Nat
  error : SystemError
  deriving DecidableEq, Repr

/-- What gets through of some items that are written, and the error that breaks
them off. Without a limit everything gets through. -/
def Limit.pass {α : Type} (limit : Option Limit) (items : List α) :
    List α × Option SystemError :=
  match limit with
  | none => (items, none)
  | some limit =>
    if items.length ≤ limit.room then (items, none)
    else (items.take limit.room, some limit.error)

end ModuleGrammar
