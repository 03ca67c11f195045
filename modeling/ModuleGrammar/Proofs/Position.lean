/-
# Offsets and places

A place is a line of a source and a column of this line, where the column just behind the
line counts as well. Every offset of a source has one place and every place one offset. The
position of an offset is found by counting newlines in front of it and by looking back for the
last of them; a place is found from the front, by counting the characters of whole lines. The two
meet because whole lines in front of a text are cut off as whole lines.
-/
import ModuleGrammar.Proofs.Line

namespace ModuleGrammar

namespace Text

/-- The number of characters in front of the line with an index: those of the earlier lines and a
newline behind each. -/
def lineStart (lines : List Text) (index : Nat) : Nat :=
  ((lines.take index).flatMap (· ++ ['\n'])).length

theorem lineStart_succ {lines : List Text} {index : Nat} {line : Text}
    (found : lines[index]? = some line) :
    lineStart lines (index + 1) = lineStart lines index + (line.length + 1) := by
  simp [lineStart, List.take_add_one, found]

theorem lineStart_append (earlier lines : List Text) :
    lineStart (earlier ++ lines) earlier.length = (earlier.flatMap (· ++ ['\n'])).length := by
  rw [lineStart, List.take_left]

theorem lineStart_mono (lines : List Text) {first second : Nat} (ordered : first ≤ second) :
    lineStart lines first ≤ lineStart lines second := by
  induction second, ordered using Nat.le_induction with
  | base => exact Nat.le_refl _
  | succ second ordered ih =>
      cases found : lines[second]? with
      | none =>
          have behind := List.getElem?_eq_none_iff.mp found
          have same : lineStart lines (second + 1) = lineStart lines second := by
            rw [lineStart, lineStart, List.take_of_length_le behind,
              List.take_of_length_le (Nat.le_succ_of_le behind)]
          rwa [same]
      | some line =>
          rw [lineStart_succ found]
          omega

/-- A line ends in front of every later one. -/
theorem lineStart_add_length_lt {lines : List Text} {first second : Nat} {line : Text}
    (found : lines[first]? = some line) (ordered : first < second) :
    lineStart lines first + line.length < lineStart lines second := by
  have next := lineStart_mono lines ordered
  rw [Nat.succ_eq_add_one, lineStart_succ found] at next
  omega

theorem length_cut (separator : Char) (text : Text) :
    (cut separator text).length = text.count separator + 1 := by
  induction text with
  | nil => rfl
  | cons c rest ih =>
      rw [cut]
      split
      case isTrue first => rw [List.length_cons, ih, first, List.count_cons_self]
      case isFalse other =>
        rw [length_consHead, ih, List.count_cons_of_ne other]
        omega

/-- The parts of a text with a separator behind each are the text with a separator behind it. -/
theorem flatMap_cut (separator : Char) (text : Text) :
    (cut separator text).flatMap (· ++ [separator]) = text ++ [separator] := by
  induction text with
  | nil => rfl
  | cons c rest ih =>
      rw [cut]
      split
      case isTrue first =>
        rw [List.flatMap_cons, ih, first, List.nil_append, List.singleton_append, List.cons_append]
      case isFalse =>
        cases parts : cut separator rest with
        | nil => exact absurd parts (cut_ne_nil separator rest)
        | cons part others =>
            rw [parts, List.flatMap_cons] at ih
            rw [consHead, List.flatMap_cons, List.cons_append, List.cons_append, ih,
              List.cons_append]

/-- Whole lines in front of a text are lines of their own. -/
theorem exists_cut_append {before : Text} (starts : StartsLine before) :
    ∃ earlier, (∀ rest, cut '\n' (before ++ rest) = earlier ++ cut '\n' rest) ∧
      earlier.length = before.count '\n' ∧
      earlier.flatMap (· ++ ['\n']) = before := by
  cases last : before.getLast? with
  | none =>
      rw [List.getLast?_eq_none_iff.mp last]
      exact ⟨[], fun rest => rfl, rfl, rfl⟩
  | some c =>
      obtain ⟨others, rfl⟩ := List.getLast?_eq_some_iff.mp last
      obtain rfl := starts c last
      refine ⟨cut '\n' others, fun rest => ?_, ?_, ?_⟩
      · rw [List.append_assoc, List.singleton_append, cut_append_separator]
      · rw [length_cut, List.count_append, List.count_singleton_self]
      · exact flatMap_cut '\n' others

/-- A text without a separator in it lengthens the first part behind it. -/
theorem cut_append_of_not_mem {separator : Char} {text : Text} (absent : separator ∉ text)
    (rest : Text) :
    ∃ part others, cut separator (text ++ rest) = (text ++ part) :: others := by
  induction text with
  | nil => exact List.exists_cons_of_ne_nil (cut_ne_nil separator rest)
  | cons c text ih =>
      rw [List.mem_cons, not_or] at absent
      obtain ⟨part, others, parts⟩ := ih absent.2
      refine ⟨part, others, ?_⟩
      rw [List.cons_append, cut, if_neg (Ne.symm absent.1), parts]
      rfl

end Text

namespace Position

open Text

/-- A line with a column of it or the column just behind it, both counted from one. -/
structure Place (lines : List Text) (line column : Nat) : Prop where
  line_pos : 1 ≤ line
  column_pos : 1 ≤ column
  column_le : ∃ text, lines[line - 1]? = some text ∧ column ≤ text.length + 1

/-- The characters in front of a place. -/
def placeOffset (lines : List Text) (line column : Nat) : Int :=
  lineStart lines (line - 1) + column - 1

variable {source : Text}

theorem resolve?_eq_none_iff {offset : Int} :
    resolve? source offset = none ↔ offset < 0 ∨ (source.length : Int) < offset := by
  rw [resolve?]
  split
  case isTrue inside => exact iff_of_false (Option.some_ne_none _) (by omega)
  case isFalse outside => exact iff_of_true rfl (by omega)

/-- The position of an offset is a place, and the one with this offset. -/
theorem place_of_resolve? {offset : Int} {position : Position}
    (resolved : resolve? source offset = some position) :
    position.offset = offset ∧ Place (source.cut '\n') position.line position.column ∧
      offset = placeOffset (source.cut '\n') position.line position.column := by
  have inside : 0 ≤ offset ∧ offset ≤ source.length := by
    have found := mt resolve?_eq_none_iff.mpr (resolved ▸ Option.some_ne_none position)
    omega
  obtain ⟨before, margin, front, starts, newline⟩ := exists_margin (source.take offset.toNat)
  obtain ⟨earlier, whole, count, rebuilt⟩ := exists_cut_append starts
  obtain ⟨part, others, parts⟩ := cut_append_of_not_mem newline (source.drop offset.toNat)
  have lines : source.cut '\n' = earlier ++ (margin ++ part) :: others := by
    rw [← parts, ← whole, ← List.append_assoc, ← front, List.take_append_drop]
  have length : before.length + margin.length = offset.toNat := by
    rw [← List.length_append, ← front, List.length_take]
    omega
  rw [resolve?, if_pos inside, front, behind_append starts newline] at resolved
  cases resolved
  dsimp only
  refine ⟨by omega, ⟨by simp, by simp, margin ++ part, ?_, by simp⟩, ?_⟩
  · rw [lines, Nat.add_sub_cancel, ← count, List.getElem?_append_right (Nat.le_refl _),
      Nat.sub_self]
    rfl
  · rw [placeOffset, lines, Nat.add_sub_cancel, ← count, lineStart_append, rebuilt]
    omega

/-- Places are ordered as their offsets are: by lines, and by columns in a line. -/
theorem Place.placeOffset_lt_iff {lines : List Text} {line column line' column' : Nat}
    (first : Place lines line column) (second : Place lines line' column') :
    placeOffset lines line column < placeOffset lines line' column' ↔
      line < line' ∨ line = line' ∧ column < column' := by
  obtain ⟨linePos, columnPos, text, found, column_le⟩ := first
  obtain ⟨linePos', columnPos', text', found', column_le'⟩ := second
  rw [placeOffset, placeOffset]
  rcases Nat.lt_trichotomy line line' with below | rfl | above
  · have ends := lineStart_add_length_lt found (show line - 1 < line' - 1 by omega)
    omega
  · omega
  · have ends := lineStart_add_length_lt found' (show line' - 1 < line - 1 by omega)
    omega

theorem Place.placeOffset_le {line column : Nat} (place : Place (source.cut '\n') line column) :
    0 ≤ placeOffset (source.cut '\n') line column ∧
      placeOffset (source.cut '\n') line column ≤ source.length := by
  obtain ⟨linePos, columnPos, text, found, column_le⟩ := place
  have inside := (List.getElem?_eq_some_iff.mp found).1
  have ends := lineStart_add_length_lt found inside
  have total : lineStart (source.cut '\n') (source.cut '\n').length = source.length + 1 := by
    rw [lineStart, List.take_length, flatMap_cut, List.length_append, List.length_singleton]
  rw [placeOffset]
  omega

/-- Every place is the position of its offset. -/
theorem Place.resolve?_placeOffset {line column : Nat}
    (place : Place (source.cut '\n') line column) :
    ∃ position, resolve? source (placeOffset (source.cut '\n') line column) = some position ∧
      position.line = line ∧ position.column = column := by
  have bounds := place.placeOffset_le
  cases resolved : resolve? source (placeOffset (source.cut '\n') line column) with
  | none =>
      have outside := resolve?_eq_none_iff.mp resolved
      omega
  | some position =>
      obtain ⟨-, found, same⟩ := place_of_resolve? resolved
      have forward := place.placeOffset_lt_iff found
      have backward := found.placeOffset_lt_iff place
      exact ⟨position, rfl, by omega, by omega⟩

/-- The position of an offset is a place of the source with this offset, and there is none exactly
for the offsets outside of the source. Every place is the position of one offset only, and a smaller
offset has a place in an earlier line or an earlier column of the same line. -/
theorem resolve?_is_bijective (source : Text) :
    (∀ offset : Int,
      resolve? source offset = none ↔ offset < 0 ∨ (source.length : Int) < offset) ∧
    (∀ (offset : Int) (position : Position), resolve? source offset = some position →
      position.offset = offset ∧ Place (source.cut '\n') position.line position.column ∧
      offset = lineStart (source.cut '\n') (position.line - 1) + position.column - 1) ∧
    (∀ line column, Place (source.cut '\n') line column →
      ∃! offset : Int, ∃ position, resolve? source offset = some position ∧
        position.line = line ∧ position.column = column) ∧
    (∀ (first second : Int) (position later : Position), first < second →
      resolve? source first = some position → resolve? source second = some later →
      position.line < later.line ∨
        position.line = later.line ∧ position.column < later.column) := by
  refine ⟨fun offset => resolve?_eq_none_iff, fun offset position => place_of_resolve?, ?_, ?_⟩
  · intro line column place
    refine ⟨placeOffset (source.cut '\n') line column, place.resolve?_placeOffset, ?_⟩
    rintro offset ⟨position, resolved, rfl, rfl⟩
    exact (place_of_resolve? resolved).2.2
  · intro first second position later ordered resolved resolved'
    obtain ⟨-, place, rfl⟩ := place_of_resolve? resolved
    obtain ⟨-, place', rfl⟩ := place_of_resolve? resolved'
    exact (place.placeOffset_lt_iff place').mp ordered

end Position

end ModuleGrammar
