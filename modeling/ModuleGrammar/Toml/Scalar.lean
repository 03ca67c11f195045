/-
# Numbers, dates and times of configuration files

A number may have underscores between its digits. An integer is decimal without
leading zeros, or hexadecimal, octal or binary; a real number has a fraction or
an exponent. A date or time that does not exist in the calendar is refused, and
so is a decimal integer with too many digits.
-/
import ModuleGrammar.Decimal.Shortest
import ModuleGrammar.Setting.Value
import ModuleGrammar.Toml.Quotation

namespace ModuleGrammar.Toml

/-- Decimal digits. -/
def isDecimal (c : Char) : Bool :=
  '0' ≤ c && c ≤ '9'

/-- The further digits of a number, each possibly behind an underscore, and the
text after them. -/
def moreDigits (p : Char → Bool) : Text → Text × Text
  | [] => ([], [])
  | '_' :: c :: rest =>
    if p c then
      let (digits, after) := moreDigits p rest
      (c :: digits, after)
    else ([], '_' :: c :: rest)
  | c :: rest =>
    if p c then
      let (digits, after) := moreDigits p rest
      (c :: digits, after)
    else ([], c :: rest)

/-- Read a digit and all further digits. -/
def digitRun (p : Char → Bool) : Reader Text
  | [] => none
  | c :: rest =>
    if p c then
      let (digits, after) := moreDigits p rest
      some (c :: digits, after)
    else none

/-- The number that digits denote in a base. -/
def digitsValue (base : Nat) (digits : Text) : Nat :=
  digits.foldl (fun total c => base * total + (hexDigit? c).getD 0) 0

/-- The digits of a base up to sixteen. -/
def isDigitOf (base : Nat) (c : Char) : Bool :=
  (hexDigit? c).any (· < base)

/-- Read an integer that starts with the mark of its base. -/
def markedInteger : Reader Value
  | '0' :: mark :: rest => do
    let base ←
      match mark with
      | 'x' => some 16
      | 'o' => some 8
      | 'b' => some 2
      | _ => none
    let (digits, after) ← digitRun (isDigitOf base) rest
    return (.integer (digitsValue base digits), after)
  | _ => none

/-- Read the digits before the point: a zero, or digits that start with another
one. -/
def wholePart : Reader Text
  | '0' :: rest => some (['0'], rest)
  | text => digitRun isDecimal text

/-- Read a point and the digits after it. -/
def fractionPart : Reader Text
  | '.' :: rest => digitRun isDecimal rest
  | _ => none

/-- Read the mark of an exponent, its sign and its digits. -/
def exponentPart : Reader Int
  | mark :: rest =>
    if mark = 'e' || mark = 'E' then
      match rest with
      | '-' :: rest => (digitRun isDecimal rest).map fun (digits, after) =>
        (-(digitsValue 10 digits : Int), after)
      | '+' :: rest => (digitRun isDecimal rest).map fun (digits, after) =>
        ((digitsValue 10 digits : Int), after)
      | rest => (digitRun isDecimal rest).map fun (digits, after) =>
        ((digitsValue 10 digits : Int), after)
    else none
  | [] => none

/-- The integer with a sign and decimal digits, if they are not too many. -/
def decimalInteger (negative : Bool) (digits : Text) : Except NumeralFault Value :=
  if Text.maxNumeralDigits < digits.length then .error (.written digits.length)
  else
    let number : Int := digitsValue 10 digits
    .ok (.integer (if negative then -number else number))

/-- Read a decimal number without its sign. -/
def unsignedNumber (negative : Bool) (text : Text) :
    Option (Except NumeralFault Value × Text) := do
  let (whole, rest) ← wholePart text
  let (fraction, rest) := (fractionPart rest).getD ([], rest)
  let exponent := exponentPart rest
  let rest := (exponent.map (·.2)).getD rest
  if fraction.isEmpty && exponent.isNone then
    return (decimalInteger negative whole, rest)
  else
    let shift := (exponent.map (·.1)).getD 0 - fraction.length
    let digits := digitsValue 10 (whole ++ fraction)
    return (.ok (.real (Decimal.canonical negative digits shift)), rest)

/-- Read infinity or what is not a number, without its sign. -/
def specialNumber (negative : Bool) : Reader Value
  | 'i' :: 'n' :: 'f' :: rest =>
    some (.real (if negative then "-inf".toList else "inf".toList), rest)
  | 'n' :: 'a' :: 'n' :: rest => some (.real "nan".toList, rest)
  | _ => none

/-- Read a number after its sign. -/
def numberAfterSign (negative : Bool) (text : Text) :
    Option (Except NumeralFault Value × Text) :=
  unsignedNumber negative text <|>
    (specialNumber negative text).map fun (value, rest) => (.ok value, rest)

/-- Read a number. Of integers only decimal ones may have too many digits. -/
def number : Reader (Except NumeralFault Value)
  | '-' :: rest => numberAfterSign true rest
  | '+' :: rest => numberAfterSign false rest
  | text =>
    (markedInteger text).map (fun (value, rest) => (.ok value, rest)) <|>
      numberAfterSign false text

/-- Read a fixed number of decimal digits that denote a number in a range. -/
def fixedDigits (count lowest highest : Nat) (text : Text) : Option (Nat × Text) :=
  let digits := text.take count
  let value := digitsValue 10 digits
  if digits.length = count && digits.all isDecimal && lowest ≤ value && value ≤ highest then
    some (value, text.drop count)
  else none

/-- Read a given character. -/
def expect (c : Char) : Text → Option Text
  | d :: rest => if c = d then some rest else none
  | [] => none

/-- Read the parts of a second behind the point, of which six digits count. -/
def microseconds : Text → Nat × Text
  | '.' :: rest =>
    let digits := rest.takeWhile isDecimal
    if digits.isEmpty then (0, '.' :: rest)
    else
      let counted := digits.take 6
      (digitsValue 10 (counted ++ List.replicate (6 - counted.length) '0'),
        rest.dropWhile isDecimal)
  | text => (0, text)

/-- Read a time of the day. -/
def timeOfDay (text : Text) : Option (TimeOfDay × Text) := do
  let (hour, rest) ← fixedDigits 2 0 23 text
  let (minute, rest) ← fixedDigits 2 0 59 (← expect ':' rest)
  let (second, rest) ← fixedDigits 2 0 59 (← expect ':' rest)
  let (microsecond, rest) := microseconds rest
  return (⟨hour, minute, second, microsecond⟩, rest)

/-- Read an offset from universal time behind its sign, in minutes. -/
def zoneMinutes (text : Text) : Option (Nat × Text) := do
  let (hours, rest) ← fixedDigits 2 0 23 text
  let (minutes, rest) ← fixedDigits 2 0 59 (← expect ':' rest)
  return (60 * hours + minutes, rest)

/-- Read an offset from universal time, in minutes. -/
def zone : Reader Int
  | 'Z' :: rest | 'z' :: rest => some (0, rest)
  | '+' :: rest => (zoneMinutes rest).map fun (minutes, after) => ((minutes : Int), after)
  | '-' :: rest => (zoneMinutes rest).map fun (minutes, after) => (-(minutes : Int), after)
  | _ => none

/-- Read what looks like a date. -/
def date (text : Text) : Option (Date × Text) := do
  let (year, rest) ← fixedDigits 4 0 9999 text
  let (month, rest) ← fixedDigits 2 1 12 (← expect '-' rest)
  let (day, rest) ← fixedDigits 2 1 31 (← expect '-' rest)
  return (⟨year, month, day⟩, rest)

/-- Read the time behind a date. -/
def timeBehindDate : Reader TimeOfDay
  | 'T' :: rest | 't' :: rest | ' ' :: rest => timeOfDay rest
  | _ => none

/-- Read what may follow on a date that exists. -/
def dateOrMoment (day : Date) (text : Text) : Value × Text :=
  match timeBehindDate text with
  | none => (.date day, text)
  | some (time, rest) =>
    match zone rest with
    | none => (.moment ⟨day, time, none⟩, rest)
    | some (minutes, rest) => (.moment ⟨day, time, some minutes⟩, rest)

/-- Read a date, a time or a number. What looks like a date is nothing else. -/
def dateOrNumber (text : Text) : Except Fault (Value × Text) :=
  match date text with
  | some (day, rest) => if day.isValid then .ok (dateOrMoment day rest) else .error .malformed
  | none =>
    match timeOfDay text with
    | some (time, rest) => .ok (.time time, rest)
    | none =>
      match number text with
      | some (.ok value, rest) => .ok (value, rest)
      | some (.error fault, _) => .error (.numeral fault)
      | none => .error .malformed

/-- Read a string as a value. -/
def stringValue (text : Text) : Except Fault (Value × Text) :=
  demand ((string text).map fun (text, after) => (.string text, after))

/-- Read a value that holds no other values. -/
def scalar : Text → Except Fault (Value × Text)
  | 't' :: 'r' :: 'u' :: 'e' :: rest => .ok (.boolean true, rest)
  | 'f' :: 'a' :: 'l' :: 's' :: 'e' :: rest => .ok (.boolean false, rest)
  | '"' :: rest => stringValue ('"' :: rest)
  | '\'' :: rest => stringValue ('\'' :: rest)
  | text => dateOrNumber text

end ModuleGrammar.Toml
