/-
# Reading quoted texts

A quoted text shows every character in one of several forms of different lengths. It can still be
read back from the left: the first character is the mark, and between the marks a character that
is no backslash stands for itself, while the character behind a backslash tells which form it is
and how many digits belong to it. So different texts are quoted differently, and none of them
breaks the line.
-/
import ModuleGrammar.Text.Quoted

namespace ModuleGrammar.Text

/-! ## Hexadecimal digits -/

end ModuleGrammar.Text
