/-
# Texts

A text is the list of its characters, so every function on texts is a function
on lists and every law about texts is a law about lists. Strings occur only as
literals and at the outer boundary of the library. All offsets, lengths and
columns of the library count characters.
-/

namespace ModuleGrammar

/-- A text is the list of its characters. -/
abbrev Text := List Char

namespace Text

/-- Drop the longest run of characters at the end that satisfy `p`. -/
def trimEnd (p : Char → Bool) (text : Text) : Text :=
  (text.reverse.dropWhile p).reverse

theorem length_dropWhile_le (p : Char → Bool) (text : Text) :
    (text.dropWhile p).length ≤ text.length :=
  (List.dropWhile_sublist p).length_le

/-- Drop the longest runs of characters at both ends that satisfy `p`. -/
def trim (p : Char → Bool) (text : Text) : Text :=
  trimEnd p (text.dropWhile p)

/-- Put a character in front of the first part, which is there if `parts` is
empty. -/
def consHead (c : Char) : List Text → List Text
  | [] => [[c]]
  | part :: parts => (c :: part) :: parts

/-- Cut a text at every occurrence of a separator. A text with `n` separators
has `n + 1` parts, some of them possibly empty. -/
def cut (separator : Char) : Text → List Text
  | [] => [[]]
  | c :: rest =>
    if c = separator then [] :: cut separator rest
    else consHead c (cut separator rest)

/-- Join parts with a separator between them. -/
def join (separator : Text) (parts : List Text) : Text :=
  separator.intercalate parts

/-- Divide a text at the first occurrence of a separator, if there is one. -/
def divide? (separator : Char) (text : Text) : Option (Text × Text) :=
  match text.dropWhile (· != separator) with
  | [] => none
  | _ :: after => some (text.takeWhile (· != separator), after)

/-- The decimal numeral of a natural number. -/
def ofNat (n : Nat) : Text :=
  Nat.toDigits 10 n

/-- The decimal numeral of an integer, with a minus sign in front if it is
negative. -/
def ofInt : Int → Text
  | .ofNat n => ofNat n
  | .negSucc n => '-' :: ofNat (n + 1)

/-- Fill a text on the left up to a width; a longer text stays as it is. -/
def padLeft (fill : Char) (width : Nat) (text : Text) : Text :=
  List.replicate (width - text.length) fill ++ text

/-- The order of texts by code points, the shorter of two comparable texts
first. -/
def le : Text → Text → Bool
  | [], _ => true
  | _ :: _, [] => false
  | a :: as, b :: bs => a.toNat < b.toNat || (a == b && le as bs)

end Text

end ModuleGrammar
