/-
# Lines

Two notions of line live side by side. The newline character alone divides a
source into the lines that positions count. The larger set of line breaks
divides it into the lines that an editor holds and that an excerpt shows; there
a carriage return followed by a newline is one break.
-/
import ModuleGrammar.Text.Basic

namespace ModuleGrammar

/-- The characters that end a line by themselves. -/
def isLineBreak (c : Char) : Bool :=
  let n := c.toNat
  (0x0A ≤ n && n ≤ 0x0D) || (0x1C ≤ n && n ≤ 0x1E) || n == 0x85 ||
    n == 0x2028 || n == 0x2029

namespace Text

/-- The lines of a text, each with the break that ends it. There is no empty
line after a final break. -/
def lines : Text → List Text
  | [] => []
  | '\r' :: '\n' :: rest => ['\r', '\n'] :: lines rest
  | c :: rest =>
    if isLineBreak c then [c] :: lines rest else consHead c (lines rest)

/-- Write the break `\r\n` as a newline, and keep all other characters. -/
def contractBreaks : Text → Text
  | [] => []
  | '\r' :: '\n' :: rest => '\n' :: contractBreaks rest
  | c :: rest => c :: contractBreaks rest

/-- Write the breaks `\r\n` and `\r` as newlines. -/
def unifyBreaks (text : Text) : Text :=
  (contractBreaks text).map fun c => if c = '\r' then '\n' else c

end Text

end ModuleGrammar
