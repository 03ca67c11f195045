/-
# UTF-8

Texts are stored as bytes in the encoding UTF-8. Reading is strict: the first
byte that does not fit is an error, and the error says which bytes it covers.
A byte order mark is an ordinary character.
-/
import ModuleGrammar.Text.Hexadecimal

namespace ModuleGrammar

/-- The content of a file. -/
abbrev Bytes := List UInt8

namespace Utf8

/-- What is wrong with a sequence of bytes. -/
inductive Fault
  /-- No character starts with this byte. -/
  | invalidStart
  /-- The bytes covered are a beginning, but the next one does not fit. -/
  | invalidContinuation
  /-- The input ends inside a character. -/
  | unexpectedEnd
  deriving DecidableEq, Repr

/-- A decoding error covers `length` bytes from `position` on, of which `byte`
is the first. -/
structure DecodeError where
  fault : Fault
  position : Nat
  length : Nat
  byte : UInt8
  deriving DecidableEq, Repr

/-- The encoding of one character. -/
def encodeChar (c : Char) : Bytes :=
  let n := c.toNat
  if n < 0x80 then [n.toUInt8]
  else if n < 0x800 then
    [(0xC0 + n / 0x40).toUInt8, (0x80 + n % 0x40).toUInt8]
  else if n < 0x10000 then
    [(0xE0 + n / 0x1000).toUInt8, (0x80 + n / 0x40 % 0x40).toUInt8,
      (0x80 + n % 0x40).toUInt8]
  else
    [(0xF0 + n / 0x40000).toUInt8, (0x80 + n / 0x1000 % 0x40).toUInt8,
      (0x80 + n / 0x40 % 0x40).toUInt8, (0x80 + n % 0x40).toUInt8]

/-- The encoding of a text. -/
def encode (text : Text) : Bytes :=
  text.flatMap encodeChar

/-- What the first byte of a character says of the others: how many follow, the
range of the one that follows first, and the bits that it contributes itself.
The narrower ranges exclude long forms, surrogates and numbers beyond the last
code point. -/
structure Lead where
  followers : Nat
  lowest : Nat
  highest : Nat
  bits : Nat

/-- Classify a byte as the first byte of a character. -/
def lead? (byte : UInt8) : Option Lead :=
  let n := byte.toNat
  if n < 0x80 then some ⟨0, 0x80, 0xBF, n⟩
  else if n < 0xC2 then none
  else if n < 0xE0 then some ⟨1, 0x80, 0xBF, n - 0xC0⟩
  else if n < 0xF0 then
    some ⟨2, if n = 0xE0 then 0xA0 else 0x80, if n = 0xED then 0x9F else 0xBF, n - 0xE0⟩
  else if n < 0xF5 then
    some ⟨3, if n = 0xF0 then 0x90 else 0x80, if n = 0xF4 then 0x8F else 0xBF, n - 0xF0⟩
  else none

/-- Read `count` following bytes, the first of them between `lowest` and
`highest`, on top of the number read so far. A failure says how many of them did
fit. -/
def follow : (count lowest highest number : Nat) → Bytes → Except (Fault × Nat) (Nat × Bytes)
  | 0, _, _, number, bytes => .ok (number, bytes)
  | _ + 1, _, _, _, [] => .error (.unexpectedEnd, 0)
  | count + 1, lowest, highest, number, byte :: bytes =>
    if lowest ≤ byte.toNat && byte.toNat ≤ highest then
      match follow count 0x80 0xBF (number * 0x40 + (byte.toNat - 0x80)) bytes with
      | .ok result => .ok result
      | .error (fault, fitting) => .error (fault, fitting + 1)
    else .error (.invalidContinuation, 0)

/-- Read one character from the front. A failure says what is wrong and how many
bytes it covers. -/
def decodeChar (byte : UInt8) (bytes : Bytes) : Except (Fault × Nat) (Char × Bytes) :=
  match lead? byte with
  | none => .error (.invalidStart, 1)
  | some lead =>
    match follow lead.followers lead.lowest lead.highest lead.bits bytes with
    | .ok (number, rest) => .ok (Char.ofNat number, rest)
    | .error (fault, fitting) => .error (fault, fitting + 1)

theorem follow_length {count lowest highest number : Nat} {bytes : Bytes}
    {result : Nat × Bytes} (h : follow count lowest highest number bytes = .ok result) :
    result.2.length ≤ bytes.length := by
  induction count generalizing lowest highest number bytes result with
  | zero =>
    simp only [follow, Except.ok.injEq] at h
    simp [← h]
  | succ count ih =>
    cases bytes with
    | nil => simp [follow] at h
    | cons byte bytes =>
      simp only [follow] at h
      split at h
      case isTrue =>
        split at h
        case h_1 inner eq =>
          have shorter := ih eq
          simp only [Except.ok.injEq] at h
          subst h
          simp only [List.length_cons]
          omega
        case h_2 => simp at h
      case isFalse => simp at h

theorem decodeChar_length {byte : UInt8} {bytes : Bytes} {result : Char × Bytes}
    (h : decodeChar byte bytes = .ok result) : result.2.length ≤ bytes.length := by
  unfold decodeChar at h
  split at h
  case h_1 => simp at h
  case h_2 lead found =>
    split at h
    case h_1 number rest eq =>
      simp only [Except.ok.injEq] at h
      subst h
      exact follow_length eq
    case h_2 => simp at h

/-- Decode the bytes that stand at a position of the input. -/
def decodeFrom (position : Nat) : Bytes → Except DecodeError Text
  | [] => .ok []
  | byte :: bytes =>
    match h : decodeChar byte bytes with
    | .ok (c, rest) =>
      have : rest.length ≤ bytes.length := decodeChar_length h
      match decodeFrom (position + (encodeChar c).length) rest with
      | .ok text => .ok (c :: text)
      | .error error => .error error
    | .error (fault, length) => .error ⟨fault, position, length, byte⟩
termination_by bytes => bytes.length

/-- Decode a whole input. -/
def decode (bytes : Bytes) : Except DecodeError Text :=
  decodeFrom 0 bytes

/-- Decode an input, with the replacement character for whatever an error
covers. -/
def decodeLossy : Bytes → Text
  | [] => []
  | byte :: bytes =>
    match h : decodeChar byte bytes with
    | .ok (c, rest) =>
      have : rest.length ≤ bytes.length := decodeChar_length h
      c :: decodeLossy rest
    | .error (_, length) => '�' :: decodeLossy (bytes.drop (length - 1))
termination_by bytes => bytes.length
decreasing_by
  · simp_all only [List.length_cons]; omega
  · simp only [List.length_drop, List.length_cons]; omega

/-- The words for what is wrong. -/
def Fault.message : Fault → Text
  | .invalidStart => "invalid start byte".toList
  | .invalidContinuation => "invalid continuation byte".toList
  | .unexpectedEnd => "unexpected end of data".toList

/-- The message of a decoding error names the byte if it covers only one, and
the first and the last position otherwise. -/
def DecodeError.message (error : DecodeError) : Text :=
  let covered :=
    if error.length = 1 then
      "byte 0x".toList ++ Text.hex 2 error.byte.toNat ++
        " in position ".toList ++ Text.ofNat error.position
    else
      "bytes in position ".toList ++ Text.ofNat error.position ++
        '-' :: Text.ofNat (error.position + error.length - 1)
  "'utf-8' codec can't decode ".toList ++ covered ++ ": ".toList ++ error.fault.message

end Utf8

end ModuleGrammar
