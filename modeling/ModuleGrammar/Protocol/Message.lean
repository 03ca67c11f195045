/-
# Messages

What client and server send each other. A client sends positions and formatting
options as integers of any size, and the library that speaks the protocol refuses
them if they are negative or do not fit into 31 bits.
-/
import ModuleGrammar.Protocol.Point

namespace ModuleGrammar.Protocol

/-- The fields that hold an integer. -/
inductive Field
  | tabSize
  | line
  | character
  deriving DecidableEq, Repr

/-- The name of a field in a message. -/
def Field.label : Field → Text
  | .tabSize => "FormattingOptions.tab_size".toList
  | .line => "Position.line".toList
  | .character => "Position.character".toList

/-- An integer that is out of the range of its field. -/
structure RangeFault where
  field : Field
  number : Int
  deriving DecidableEq, Repr

/-- The words for an integer that is out of range. -/
def RangeFault.message (fault : RangeFault) : Text :=
  fault.field.label ++ " should be in range [0:2147483647], but was ".toList ++
    Text.ofInt fault.number ++ ['.']

/-- The greatest integer that a field may hold. -/
def maxInteger : Int := 2147483647

/-- Check the integer of a field. -/
def checkRange (field : Field) (number : Int) : Except RangeFault Nat :=
  if 0 ≤ number ∧ number ≤ maxInteger then .ok number.toNat
  else .error ⟨field, number⟩

/-- Check a position: first its line and then its character. -/
def Point.ofClient (line character : Int) : Except RangeFault Point :=
  match checkRange .line line with
  | .error fault => .error fault
  | .ok line =>
    match checkRange .character character with
    | .error fault => .error fault
    | .ok character => .ok ⟨line, character⟩

/-- The formatting options of a client. -/
structure ClientOptions where
  tabSize : Nat
  insertSpaces : Bool
  trimTrailingWhitespace : Option Bool
  insertFinalNewline : Option Bool
  deriving DecidableEq, Repr

/-- Check the formatting options of a client. -/
def ClientOptions.ofClient (tabSize : Int) (insertSpaces : Bool)
    (trimTrailingWhitespace insertFinalNewline : Option Bool) :
    Except RangeFault ClientOptions :=
  match checkRange .tabSize tabSize with
  | .error fault => .error fault
  | .ok tabSize =>
    .ok ⟨tabSize, insertSpaces, trimTrailingWhitespace, insertFinalNewline⟩

/-- The weight of a notice. -/
inductive Severity
  | error
  | warning
  deriving DecidableEq, Repr

/-- A diagnostic as it is shown in an editor. -/
structure Notice where
  range : Range
  message : Text
  severity : Severity
  deriving DecidableEq, Repr

/-- A replacement of a part of a document. -/
structure Edit where
  range : Range
  text : Text
  deriving DecidableEq, Repr

end ModuleGrammar.Protocol
