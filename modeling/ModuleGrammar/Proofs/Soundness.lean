/-
# A source without diagnostics has a derivation

The check only compares neighbours, counts commas and keeps the open brackets. If it
finds nothing, then every step of it is a step of the scan that `Accepts` describes. Two
facts come from the scan of the source and not from the check: punctuation is what its
kind says, and a weight stands behind a colon.
-/
import ModuleGrammar.Proofs.Derivation

namespace ModuleGrammar

/-- The lexemes that the scan of a source can find behind a token of a kind: punctuation
is what its kind says, and a weight stands behind a colon. -/
inductive Lexeme.Regular : Option Token.Kind → Lexeme → Prop
  | name {previous : Option Token.Kind} (text : Text) : Regular previous (.name text)
  | opening {previous : Option Token.Kind} (shape : Bracket) : Regular previous (.opening shape)
  | closing {previous : Option Token.Kind} (shape : Bracket) : Regular previous (.closing shape)
  | comma {previous : Option Token.Kind} : Regular previous .comma
  | colon {previous : Option Token.Kind} : Regular previous .colon
  | multiplier {previous : Option Token.Kind} (text : Text) : Regular previous (.multiplier text)
  | weight (text : Text) : Regular (some .colon) (.weight text)
  | error {previous : Option Token.Kind} (text : Text) : Regular previous ⟨.error, text⟩

/-- All lexemes of a list are regular, the first one behind `previous`. -/
def RegularAll : Option Token.Kind → List Lexeme → Prop
  | _, [] => True
  | previous, item :: rest => Lexeme.Regular previous item ∧ RegularAll (some item.kind) rest

namespace Segment

theorem regular_symbol {c : Char} {kind : Token.Kind}
    (symbol : Token.Kind.ofSymbol? c = some kind) (previous : Option Token.Kind) :
    Lexeme.Regular previous ⟨kind, [c]⟩ := by
  unfold Token.Kind.ofSymbol? at symbol
  split at symbol <;> cases symbol
  · exact .opening .square
  · exact .closing .square
  · exact .opening .curly
  · exact .closing .curly
  · exact .opening .angle
  · exact .closing .angle
  · exact .comma
  · exact .colon

/-- The lexemes at a character are regular, if those behind them are. A colon is the last
of its lexemes, so that what follows can rely on it. -/
theorem regularAll_leading {afterColon : Bool} {previous : Option Token.Kind}
    (agrees : afterColon = true → previous = some .colon) (c : Char) (rest : Text)
    {others : List Lexeme}
    (later : ∀ last, (c = ':' → last = .colon) → RegularAll (some last) others) :
    RegularAll previous ((leading afterColon c rest).1 ++ others) := by
  have other {last : Token.Kind} (noColon : c ≠ ':') : RegularAll (some last) others :=
    later last fun colon => absurd colon noColon
  refine leading_cases afterColon c rest ?symbol ?repeats ?name ?sign ?error
  case symbol =>
    intro kind symbol _
    refine ⟨regular_symbol symbol previous, later kind ?_⟩
    rintro rfl
    cases symbol
    rfl
  case repeats =>
    intro kind symbol closing _
    refine ⟨regular_symbol symbol previous, .multiplier _, other ?_⟩
    rintro rfl
    cases symbol
    cases closing
  case name =>
    intro name
    have noColon : c ≠ ':' := by
      rintro rfl
      cases name
    unfold ofRun
    split
    · cases afterColon with
      | true =>
          rw [agrees rfl]
          exact ⟨.weight _, other noColon⟩
      | false => exact ⟨.name _, other noColon⟩
    · split
      · exact ⟨.name _, other noColon⟩
      · exact ⟨.name _, .multiplier _, other noColon⟩
  case sign =>
    intro sign
    refine ⟨.multiplier _, other ?_⟩
    rintro rfl
    cases sign
  case error =>
    intro symbol _ _
    refine ⟨.error _, other ?_⟩
    rintro rfl
    cases symbol

theorem regularAll_ofText (afterColon : Bool) (text : Text) (previous : Option Token.Kind)
    (agrees : afterColon = true → previous = some .colon) :
    RegularAll previous ((ofText afterColon text).filterMap lexeme?) := by
  induction afterColon, text using ofText.induct generalizing previous with
  | case1 afterColon => rw [ofText_nil]; trivial
  | case2 afterColon c rest blank ih =>
      rw [ofText_cons_of_isBlank afterColon blank]
      exact ih previous agrees
  | case3 afterColon c rest nonblank ih =>
      have lexemes : ((leading afterColon c rest).1.map Segment.lexeme).filterMap lexeme? =
          (leading afterColon c rest).1 := by
        rw [List.filterMap_map]
        exact List.filterMap_some
      rw [ofText_cons afterColon (by simpa using nonblank), List.filterMap_append, lexemes]
      apply regularAll_leading agrees
      intro last colon
      apply ih
      intro isColon
      rw [colon (beq_iff_eq.mp isColon)]

end Segment

theorem Token.regularAll_lexemes (source : Text) : RegularAll none (Token.lexemes source) := by
  rw [Token.lexemes, Token.scan, Segment.map_toLexeme_place]
  exact Segment.regularAll_ofText false source none (by simp)

namespace Check

/-- The place behind a token of this kind. -/
def Place.behind : Option Token.Kind → Place
  | none | some (.opening _) | some .comma => .start
  | some .name => .name
  | some (.closing _) => .group
  | some .multiplier | some .weight | some .error => .item
  | some .colon => .colon

/-- What the token before a place allows to follow: an item has to start, and a colon
asks for a weight. -/
def Place.Permits : Place → Option Token.Kind → Prop
  | .start, next => ∃ kind ∈ next, kind.isClosing = false
  | .colon, next => next = some .weight
  | .name, _ | .group, _ | .item, _ => True

theorem Place.endsItem_of_permits {place : Place} {next : Option Token.Kind}
    (permits : place.Permits next) (ends : ∀ kind ∈ next, kind.isClosing = true) :
    place.endsItem = true := by
  cases place with
  | start =>
      obtain ⟨kind, follows, open_⟩ := permits
      rw [ends kind follows] at open_
      cases open_
  | colon =>
      have closing := ends .weight permits
      cases closing
  | _ => rfl

theorem Place.ne_colon_of_permits {place : Place} {kind : Token.Kind}
    (permits : place.Permits (some kind)) (other : kind ≠ .weight) : place ≠ .colon := by
  rintro rfl
  exact other (Option.some.inj permits)

theorem Place.behind_endsItem {kind : Token.Kind} (comma : kind ≠ .comma)
    (opening : kind.isOpening = false) (colon : Place.behind (some kind) ≠ .colon) :
    (Place.behind (some kind)).endsItem = true := by
  cases kind with
  | comma => exact absurd rfl comma
  | opening shape => cases opening
  | colon => exact absurd rfl colon
  | _ => rfl

/-- What holds along a check that finds nothing in the lexemes of a source. The flag for
being in a choice can be off inside of a choice, but it is never on outside. -/
structure Sound (state : State) (previous : Option Token.Kind) (items : List Lexeme) : Prop where
  clean : Clean state previous items
  permits : (Place.behind previous).Permits (items.head?.map (·.kind))
  regular : RegularAll previous items
  noError : ∀ item ∈ items, item.kind ≠ .error
  choice : state.inChoice = true → inside state.frames = true

/-- Behind an opening bracket something follows, as the bracket has to be closed. -/
theorem permits_opening {state : State} {previous : Option Token.Kind} {shape : Bracket}
    {rest : List Lexeme}
    (review : review state previous (rest.head?.map (·.kind)) (Lexeme.opening shape).atOrigin = [])
    (later : Clean (state.advance (Lexeme.opening shape).atOrigin) (some (.opening shape)) rest) :
    (Place.behind (some (.opening shape))).Permits (rest.head?.map (·.kind)) := by
  cases rest with
  | nil =>
      rw [clean_nil] at later
      cases later
  | cons item rest => exact ⟨item.kind, rfl, review_opening_eq_nil_iff.mp review item.kind rfl⟩

/-- Closing a bracket other than that of a choice does not leave a choice. -/
theorem inside_closing {frame : Frame} {frames : List Frame} {inChoice : Bool}
    (choice : inChoice = true → inside (frame :: frames) = true)
    (stays : (inChoice && frame.shape != .curly) = true) : inside frames = true := by
  rw [Bool.and_eq_true, bne_iff_ne] at stays
  simpa [inside, stays.2] using choice stays.1

/-- A token that gets no diagnostic does not turn the flag on outside of a choice, and does not
leave a choice with the flag on. -/
theorem inside_advance {state : State} {previous next : Option Token.Kind} {token : Token}
    (silent : review state previous next token = [])
    (choice : state.inChoice = true → inside state.frames = true) :
    (state.advance token).inChoice = true → inside (state.advance token).frames = true := by
  obtain ⟨frames, inChoice⟩ := state
  cases kind : token.kind with
  | opening shape =>
      simp only [State.advance, kind, inside, List.any_cons, Bool.or_eq_true]
      rintro (before | curly)
      · exact .inr (choice before)
      · exact .inl curly
  | closing shape =>
      simp only [review, kind] at silent
      obtain ⟨frame, others, found, rfl, -⟩ := reviewClosing_eq_nil_iff.mp silent
      cases found
      simp only [State.advance, kind, List.tail_cons]
      exact inside_closing choice
  | comma =>
      cases frames with
      | nil => simpa [State.advance, kind] using choice
      | cons frame frames => simpa [State.advance, kind, inside] using choice
  | _ => simpa [State.advance, kind] using choice

/-- A check that finds nothing is a scan that reads to the end. -/
theorem Sound.accepts {state : State} {previous : Option Token.Kind} {items : List Lexeme}
    (sound : Sound state previous items) :
    Accepts state.frames (Place.behind previous) items := by
  induction items generalizing state previous with
  | nil =>
      rw [(clean_nil state previous).mp sound.clean]
      exact .done (Place.endsItem_of_permits sound.permits (by simp))
  | cons item rest ih =>
      obtain ⟨clean, permits, ⟨regular, regulars⟩, noError, choice⟩ := sound
      obtain ⟨review, later⟩ := (clean_cons state previous item rest).mp clean
      -- A kind differs from the others in what it lets follow.
      have next (permits : (Place.behind (some item.kind)).Permits (rest.head?.map (·.kind))) :
          Accepts (state.advance item.atOrigin).frames (Place.behind (some item.kind)) rest :=
        ih ⟨later, permits, regulars,
          fun other member => noError other (List.mem_cons_of_mem _ member),
          inside_advance review choice⟩
      cases regular with
      | name text =>
          exact .name text (Place.ne_colon_of_permits permits (by simp)) (next trivial)
      | opening shape =>
          have accepts := next (permits_opening review later)
          exact .opening (Place.ne_colon_of_permits permits (by simp)) rfl accepts
      | closing shape =>
          obtain ⟨frame, frames, open_, rfl, priority⟩ := review_closing_eq_nil_iff.mp review
          rw [advance_closing, open_] at next
          rw [open_]
          exact .closing (Place.endsItem_of_permits permits (by simp [Token.Kind.isClosing]))
            priority (next trivial)
      | comma =>
          obtain ⟨⟨kind, rfl, noComma, noOpening⟩, follows⟩ := review_comma_eq_nil_iff.mp review
          rw [advance_comma] at next
          exact .comma (Place.behind_endsItem noComma noOpening
            (Place.ne_colon_of_permits permits (by simp))) (next follows)
      | colon =>
          obtain ⟨inChoice, rfl, weight⟩ := review_colon_eq_nil_iff.mp review
          exact .colon (choice inChoice) (next weight)
      | multiplier text =>
          obtain ⟨⟨kind, rfl, host⟩, valid⟩ := review_multiplier_eq_nil_iff.mp review
          refine .multiplier ?_ valid (next trivial)
          rcases host with rfl | closing
          · exact .inl rfl
          · cases kind <;> cases closing
            exact .inr rfl
      | weight text => exact .weight text (next trivial)
      | error text => exact absurd rfl (noError _ List.mem_cons_self)

/-- Lexemes in which the check finds nothing have a derivation, if they come from a
source. -/
theorem Clean.derives {item : Lexeme} {rest : List Lexeme}
    (clean : Clean .initial none (item :: rest)) (regular : RegularAll none (item :: rest))
    (noError : ∀ other ∈ item :: rest, other.kind ≠ .error) :
    Derives false .sequence (item :: rest) := by
  have permits : Place.start.Permits (some item.kind) :=
    ⟨item.kind, rfl, clean.isClosing_eq_false⟩
  have sound : Sound .initial none (item :: rest) :=
    ⟨clean, permits, regular, noError, fun choice => by cases choice⟩
  exact sound.accepts.derives

end Check

theorem kind_ne_error_of_lexical_eq_nil {source : Text}
    (clean : Diagnostic.lexical (Token.scan source) = []) :
    ∀ item ∈ Token.lexemes source, item.kind ≠ .error := by
  intro item member error
  obtain ⟨token, found, rfl⟩ := List.mem_map.mp member
  have silent := List.filterMap_eq_nil_iff.mp clean token found
  simp [Diagnostic.ofToken?, error] at silent

/-- A source without diagnostics has no lexemes, or its lexemes are a sequence of the
looser grammar. -/
theorem derives_of_no_diagnostics (style : Style) (source : Text)
    (clean : (format style source).diagnostics = []) :
    Token.lexemes source = [] ∨ Derives false .sequence (Token.lexemes source) := by
  obtain ⟨lexical, check⟩ := List.append_eq_nil_iff.mp clean
  rw [Check.ofTokens_eq_nil_iff_clean, ← Token.lexemes] at check
  have regular := Token.regularAll_lexemes source
  have noError := kind_ne_error_of_lexical_eq_nil lexical
  cases items : Token.lexemes source with
  | nil => exact .inl rfl
  | cons item rest =>
      rw [items] at check regular noError
      exact .inr (check.derives regular noError)

/-- A weighted name stands deep inside of a choice, and items stand side by side. -/
theorem derives_weight_in_group :
    let source := "\x7ba:1, [b, c:2]3\x7d* <d, e f> g007".toList
    (format {} source).diagnostics = [] ∧ Derives false .sequence (Token.lexemes source) := by
  intro source
  have clean : (format {} source).diagnostics = [] := by decide +kernel
  refine ⟨clean, (derives_of_no_diagnostics {} source clean).resolve_left ?_⟩
  decide +kernel

end ModuleGrammar
