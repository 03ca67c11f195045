/-
# Derivations from a scan

A scan from left to right that keeps nothing but the open brackets and the kind of the
last lexeme can still tell whether there is a derivation. `Accepts` lists the steps that
such a scan may take. What remains to be read is described by `Completes`: it finishes
the item that the scan stands in, then the sequence around it, and then the group of
every open bracket, the innermost first. Reading backwards from the end, every step
turns what completes the scan behind a lexeme into what completes it before.
-/
import ModuleGrammar.Proofs.Review

namespace ModuleGrammar

/-- What may follow an item of a sequence: more items, and then maybe a comma and another
sequence. `separated` says whether there is a comma. -/
inductive Follows (inside : Bool) : (separated : Bool) → List Lexeme → Prop
  | nil : Follows inside false []
  | comma {others : List Lexeme} (sequence : Derives inside .sequence others) :
      Follows inside true (.comma :: others)
  | item {separated : Bool} {first others : List Lexeme} (item : Derives inside .item first)
      (rest : Follows inside separated others) : Follows inside separated (first ++ others)

/-- An item with what follows is one chunk, or a chunk before a comma. -/
theorem Follows.chunk_or_chunks {inside separated : Bool} {rest : List Lexeme}
    (follows : Follows inside separated rest) {first : List Lexeme}
    (item : Derives inside .item first) :
    (separated = false ∧ Derives inside .chunk (first ++ rest)) ∨
      ∃ chunk others, first ++ rest = chunk ++ .comma :: others ∧
        Derives inside .chunk chunk ∧ Derives inside .sequence others := by
  induction follows generalizing first with
  | nil => exact .inl ⟨rfl, by simpa using Derives.item item⟩
  | comma sequence => exact .inr ⟨first, _, rfl, .item item, sequence⟩
  | item second rest ih =>
      rcases ih second with ⟨single, chunk⟩ | ⟨chunk, others, split, derived, sequence⟩
      · exact .inl ⟨single, .items item chunk⟩
      · refine .inr ⟨first ++ chunk, others, ?_, .items item derived, sequence⟩
        rw [split, List.append_assoc]

theorem Follows.sequence {inside separated : Bool} {first rest : List Lexeme}
    (follows : Follows inside separated rest) (item : Derives inside .item first) :
    Derives inside .sequence (first ++ rest) := by
  rcases follows.chunk_or_chunks item with ⟨-, chunk⟩ | ⟨chunk, others, split, derived, sequence⟩
  · exact .chunk chunk
  · rw [split]
    exact .chunks derived sequence

namespace Check

/-- Whether an open bracket is that of a choice. -/
def inside (frames : List Frame) : Bool :=
  frames.any (·.shape == .curly)

/-- An item with what follows can be put in brackets. Angle brackets ask for a comma. -/
theorem derives_group {frame : Frame} {frames : List Frame} {separated : Bool}
    {first rest : List Lexeme} (item : Derives (inside (frame :: frames)) .item first)
    (follows : Follows (inside (frame :: frames)) separated rest)
    (priority : frame.shape = .angle → separated = true) :
    Derives (inside frames) .group
      (.opening frame.shape :: (first ++ rest ++ [.closing frame.shape])) := by
  have sequence := follows.sequence item
  cases shape : frame.shape with
  | square =>
      simp only [inside, List.any_cons, shape] at sequence
      exact .square sequence
  | curly =>
      simp only [inside, List.any_cons, shape, beq_self_eq_true, Bool.true_or] at sequence
      exact .curly sequence
  | angle =>
      rcases follows.chunk_or_chunks item with ⟨single, -⟩ | ⟨chunk, others, split, derived, tail⟩
      · rw [priority shape] at single
        cases single
      · simp only [inside, List.any_cons, shape] at derived tail
        rw [split]
        exact .angle derived tail

/-- Where the scan stands: where an item has to start, behind a name, behind a group,
behind any other item, or behind the colon of a weighted name. -/
inductive Place
  | start
  | name
  | group
  | item
  | colon
  deriving DecidableEq, Repr

/-- Whether an item can end at a place. -/
def Place.endsItem : Place → Bool
  | .name | .group | .item => true
  | .start | .colon => false

/-- The lexemes that a scan can read to the end from a place, with some open brackets. -/
inductive Accepts : List Frame → Place → List Lexeme → Prop
  | done {place : Place} (ended : place.endsItem = true) : Accepts [] place []
  | name {frames : List Frame} {place : Place} {rest : List Lexeme} (text : Text)
      (fits : place ≠ .colon) (accepts : Accepts frames .name rest) :
      Accepts frames place (.name text :: rest)
  | opening {frames : List Frame} {place : Place} {rest : List Lexeme} {frame : Frame}
      (fits : place ≠ .colon) (fresh : frame.commas = 0)
      (accepts : Accepts (frame :: frames) .start rest) :
      Accepts frames place (.opening frame.shape :: rest)
  | closing {frames : List Frame} {place : Place} {rest : List Lexeme} {frame : Frame}
      (ended : place.endsItem = true) (priority : frame.shape = .angle → frame.commas ≠ 0)
      (accepts : Accepts frames .group rest) :
      Accepts (frame :: frames) place (.closing frame.shape :: rest)
  | comma {frames : List Frame} {place : Place} {rest : List Lexeme}
      (ended : place.endsItem = true) (accepts : Accepts (addCommas 1 frames) .start rest) :
      Accepts frames place (.comma :: rest)
  | multiplier {frames : List Frame} {place : Place} {rest : List Lexeme} {count : Text}
      (host : place = .name ∨ place = .group) (valid : ValidMultiplier count)
      (accepts : Accepts frames .item rest) : Accepts frames place (.multiplier count :: rest)
  | colon {frames : List Frame} {rest : List Lexeme} (choice : inside frames = true)
      (accepts : Accepts frames .colon rest) : Accepts frames .name (.colon :: rest)
  | weight {frames : List Frame} {rest : List Lexeme} (text : Text)
      (accepts : Accepts frames .item rest) : Accepts frames .colon (.weight text :: rest)

/-- The lexemes that complete a group to an item. -/
def CompletesGroup (inside : Bool) (tail : List Lexeme) : Prop :=
  ∀ body, Derives inside .group body → Derives inside .item (body ++ tail)

/-- The lexemes that lead from the end of an item to the end of the grammar: the rest of
its sequence, and for every open bracket the closing one, the rest of that item and the
rest of the sequence around it. A priority selection that has met no comma has to meet
one still. -/
def Ends : List Frame → List Lexeme → Prop
  | [], items => ∃ separated, Follows false separated items
  | frame :: frames, items => ∃ separated rest tail after,
      items = rest ++ .closing frame.shape :: (tail ++ after) ∧
      Follows (inside (frame :: frames)) separated rest ∧
      (frame.shape = .angle → frame.commas = 0 → separated = true) ∧
      CompletesGroup (inside frames) tail ∧ Ends frames after

/-- The lexemes that lead from a place to the end of the grammar. -/
def Completes (frames : List Frame) : Place → List Lexeme → Prop
  | .start, items => ∃ first rest,
      items = first ++ rest ∧ Derives (inside frames) .item first ∧ Ends frames rest
  | .name, items => ∃ tail rest, items = tail ++ rest ∧
      (∀ text, Derives (inside frames) .item (.name text :: tail)) ∧ Ends frames rest
  | .group, items => ∃ tail rest, items = tail ++ rest ∧
      CompletesGroup (inside frames) tail ∧ Ends frames rest
  | .item, items => Ends frames items
  | .colon, items => ∃ text rest, items = .weight text :: rest ∧ Ends frames rest

theorem completesGroup_nil (inside : Bool) : CompletesGroup inside [] := by
  intro body group
  rw [List.append_nil]
  exact .group group

/-- Where an item can end, it may end. -/
theorem completes_of_ends {frames : List Frame} {place : Place} {items : List Lexeme}
    (ended : place.endsItem = true) (ends : Ends frames items) : Completes frames place items := by
  cases place with
  | start => cases ended
  | name => exact ⟨[], items, rfl, Derives.name, ends⟩
  | group => exact ⟨[], items, rfl, completesGroup_nil _, ends⟩
  | item => exact ends
  | colon => cases ended

/-- An item may follow an item in its sequence. -/
theorem ends_item {frames : List Frame} {first items : List Lexeme}
    (item : Derives (inside frames) .item first) (ends : Ends frames items) :
    Ends frames (first ++ items) := by
  cases frames with
  | nil =>
      obtain ⟨separated, follows⟩ := ends
      exact ⟨separated, .item item follows⟩
  | cons frame frames =>
      obtain ⟨separated, rest, tail, after, split, follows, priority, completes, ends⟩ := ends
      refine ⟨separated, first ++ rest, tail, after, ?_, .item item follows, priority, completes,
        ends⟩
      rw [split, List.append_assoc]

/-- Where an item is complete, another one may start. -/
theorem completes_of_start {frames : List Frame} {place : Place} {items : List Lexeme}
    (fits : place ≠ .colon) (completes : Completes frames .start items) :
    Completes frames place items := by
  obtain ⟨first, rest, rfl, item, ends⟩ := completes
  cases place with
  | start => exact ⟨first, rest, rfl, item, ends⟩
  | colon => exact absurd rfl fits
  | _ => exact completes_of_ends rfl (ends_item item ends)

/-- A comma ends an item if another item starts behind it. -/
theorem ends_comma {frames : List Frame} {items : List Lexeme}
    (completes : Completes (addCommas 1 frames) .start items) : Ends frames (.comma :: items) := by
  obtain ⟨first, rest, rfl, item, ends⟩ := completes
  cases frames with
  | nil =>
      obtain ⟨separated, follows⟩ := ends
      exact ⟨true, .comma (follows.sequence item)⟩
  | cons frame frames =>
      obtain ⟨separated, rest, tail, after, rfl, follows, -, completes, ends⟩ := ends
      refine ⟨true, .comma :: (first ++ rest), tail, after, ?_, .comma (follows.sequence item),
        fun _ _ => rfl, completes, ends⟩
      simp

/-- A bracket starts an item if the scan can be completed inside of it. -/
theorem completes_opening {frame : Frame} {frames : List Frame} {items : List Lexeme}
    (fresh : frame.commas = 0) (completes : Completes (frame :: frames) .start items) :
    Completes frames .start (.opening frame.shape :: items) := by
  obtain ⟨first, _, rfl, item, separated, rest, tail, after, rfl, follows, priority, close, ends⟩ :=
    completes
  -- The bracket has counted no comma yet, so its own content has to bring one.
  have group := derives_group item follows fun shape => priority shape fresh
  refine ⟨_, after, ?_, close _ group, ends⟩
  simp

/-- A scan that reads to its end has read a derivation. The induction goes over the steps
of the scan from the last one to the first. -/
theorem Accepts.completes {frames : List Frame} {place : Place} {items : List Lexeme}
    (accepts : Accepts frames place items) : Completes frames place items := by
  induction accepts with
  | done ended => exact completes_of_ends ended ⟨false, .nil⟩
  | name text fits _ ih =>
      obtain ⟨tail, rest, rfl, item, ends⟩ := ih
      exact completes_of_start fits ⟨.name text :: tail, rest, rfl, item text, ends⟩
  | opening fits fresh _ ih => exact completes_of_start fits (completes_opening fresh ih)
  | closing ended priority _ ih =>
      obtain ⟨tail, rest, rfl, completes, ends⟩ := ih
      apply completes_of_ends ended
      -- The group ends here, so the comma of a priority selection has come before.
      refine ⟨false, [], tail, rest, rfl, .nil, ?_, completes, ends⟩
      intro angle none
      exact absurd none (priority angle)
  | comma ended _ ih => exact completes_of_ends ended (ends_comma ih)
  | multiplier host valid _ ih =>
      rcases host with rfl | rfl
      · exact ⟨[_], _, rfl, fun text => .repeatedName text valid, ih⟩
      · exact ⟨[_], _, rfl, fun body group => .repeatedGroup group valid, ih⟩
  | colon choice _ ih =>
      obtain ⟨weight, rest, rfl, ends⟩ := ih
      refine ⟨[.colon, .weight weight], rest, rfl, fun text => ?_, ends⟩
      rw [choice]
      exact .weightedName text weight
  | weight text _ ih => exact ⟨text, _, rfl, ih⟩

/-- What a scan can read from the start to the end is a sequence. -/
theorem Accepts.derives {items : List Lexeme} (accepts : Accepts [] .start items) :
    Derives false .sequence items := by
  obtain ⟨first, rest, rfl, item, separated, follows⟩ := accepts.completes
  exact follows.sequence item

end Check

end ModuleGrammar
