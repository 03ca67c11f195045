/-
# Percent escapes

A text may hold bytes as escapes, each written as a percent sign and two
hexadecimal digits. Decoding a text replaces the escapes by the characters whose
bytes they are; a percent sign without two digits stands for itself.
-/
import ModuleGrammar.Text.Hexadecimal
import ModuleGrammar.Text.Utf8

namespace ModuleGrammar.Percent

/-- The bytes of a text in which a percent sign and two hexadecimal digits stand
for a byte. -/
def bytes : Text → Bytes
  | [] => []
  | '%' :: high :: low :: rest =>
    match hexDigit? high, hexDigit? low with
    | some h, some l => (16 * h + l).toUInt8 :: bytes rest
    | _, _ => Utf8.encodeChar '%' ++ bytes (high :: low :: rest)
  | c :: rest => Utf8.encodeChar c ++ bytes rest

/-- Decode the percent escapes of a text. Bytes that are no character become
replacement characters. -/
def decode (text : Text) : Text :=
  Utf8.decodeLossy (bytes text)

end ModuleGrammar.Percent
