/-
# Identifiers

The identifiers of a source are its maximal runs of name characters that are not
numerals. They are found on the raw text, whatever the tokens around them.
-/
import ModuleGrammar.Token

namespace ModuleGrammar.Identifier

/-- The maximal runs of name characters, in order. -/
def runs : Text → List Text
  | [] => []
  | c :: rest =>
    if isNameChar c then
      (c :: rest.takeWhile isNameChar) :: runs (rest.dropWhile isNameChar)
    else runs rest
termination_by text => text.length
decreasing_by
  · exact Nat.lt_succ_of_le (Text.length_dropWhile_le isNameChar rest)
  · simp

/-- Put a value under a key. A key that is there keeps its place, and a new one comes
last. -/
def enter (key value : Text) : List (Text × Text) → List (Text × Text)
  | [] => [(key, value)]
  | entry :: rest =>
    if entry.1 = key then (key, value) :: rest else entry :: enter key value rest

/-- The identifiers of a source, each of them mapped to itself, in the order of their
first appearance. -/
def registry (source : Text) : List (Text × Text) :=
  ((runs source).filter (!·.isNumeral)).foldl (fun found word => enter word word found) []

/-- The identifiers of a source, in the order of their first appearance. -/
def all (source : Text) : List Text :=
  (registry source).map (·.1)

/-- The identifiers of a source, in the order of their code points. -/
def sorted (source : Text) : List Text :=
  (all source).mergeSort Text.le

end ModuleGrammar.Identifier
