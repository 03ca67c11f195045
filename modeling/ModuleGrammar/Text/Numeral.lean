/-
# Integers read from a text

An integer is read generously: blanks around it, a sign, leading zeros, single
underscores between digits, and the decimal digits of every script. Neither a
numeral that is read nor one that is shown may have too many digits.
-/
import ModuleGrammar.Text.Blank

namespace ModuleGrammar

/-- The code points of the digits zero of the Unicode standard, version 14. The
nine code points after each are the digits one to nine. -/
def zeroDigits : List Nat :=
  [0x30, 0x660, 0x6F0, 0x7C0, 0x966, 0x9E6, 0xA66, 0xAE6,
   0xB66, 0xBE6, 0xC66, 0xCE6, 0xD66, 0xDE6, 0xE50, 0xED0,
   0xF20, 0x1040, 0x1090, 0x17E0, 0x1810, 0x1946, 0x19D0, 0x1A80,
   0x1A90, 0x1B50, 0x1BB0, 0x1C40, 0x1C50, 0xA620, 0xA8D0, 0xA900,
   0xA9D0, 0xA9F0, 0xAA50, 0xABF0, 0xFF10, 0x104A0, 0x10D30, 0x11066,
   0x110F0, 0x11136, 0x111D0, 0x112F0, 0x11450, 0x114D0, 0x11650, 0x116C0,
   0x11730, 0x118E0, 0x11950, 0x11C50, 0x11D50, 0x11DA0, 0x16A60, 0x16AC0,
   0x16B50, 0x1D7CE, 0x1D7D8, 0x1D7E2, 0x1D7EC, 0x1D7F6, 0x1E140, 0x1E2F0,
   0x1E950, 0x1FBF0]

/-- The value of a decimal digit of any script. -/
def decimalDigit? (c : Char) : Option Nat :=
  (zeroDigits.find? fun first => first ≤ c.toNat && c.toNat < first + 10).map
    fun first => c.toNat - first

/-- The blanks that may stand around an integer: all blanks but the information
separators. -/
def isNumeralBlank (c : Char) : Bool :=
  isBlank c && !(0x1C ≤ c.toNat && c.toNat ≤ 0x1F)

namespace Text

/-- The most digits that an integer may be written with. -/
def maxNumeralDigits : Nat := 4300

/-- Whether the numeral of an integer has few enough digits to be shown. -/
def isShowable (number : Int) : Bool :=
  number.natAbs < Nat.pow 10 maxNumeralDigits

/-- The values of the digits of a numeral. A single underscore may stand between
two digits. -/
def digitValues? : Text → Option (List Nat)
  | [] => none
  | [c] => (decimalDigit? c).map ([·])
  | c :: '_' :: rest => do
    let value ← decimalDigit? c
    let values ← digitValues? rest
    return value :: values
  | c :: rest => do
    let value ← decimalDigit? c
    let values ← digitValues? rest
    return value :: values

/-- The number that a list of decimal digits denotes. -/
def digitsToNat (values : List Nat) : Nat :=
  values.foldl (fun total value => 10 * total + value) 0

/-- Read a numeral without a sign. -/
def readNat? (text : Text) : Option Nat := do
  let values ← digitValues? text
  if values.length ≤ maxNumeralDigits then some (digitsToNat values) else none

/-- Read an integer. -/
def readInt? (text : Text) : Option Int :=
  match trim isNumeralBlank text with
  | '-' :: digits => (readNat? digits).map fun n => -(n : Int)
  | '+' :: digits => (readNat? digits).map Int.ofNat
  | digits => (readNat? digits).map Int.ofNat

end Text

/-- Why an integer cannot be read or shown in decimal digits. -/
inductive NumeralFault
  /-- It was written with too many digits. -/
  | written (digits : Nat)
  /-- It would be shown with too many digits. -/
  | shown
  deriving DecidableEq, Repr

/-- The words for a fault. -/
def NumeralFault.message (fault : NumeralFault) : Text :=
  let count :=
    match fault with
    | .written digits => ": value has ".toList ++ Text.ofNat digits ++ " digits".toList
    | .shown => []
  "Exceeds the limit (".toList ++ Text.ofNat Text.maxNumeralDigits ++
    " digits) for integer string conversion".toList ++ count ++
    "; use sys.set_int_max_str_digits() to increase the limit".toList

end ModuleGrammar
