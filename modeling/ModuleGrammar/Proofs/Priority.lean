/-
# Priority selections

A priority selection needs a comma of its own. The check counts commas in the frame on top of
its stack, while groups open, close and fail to match inside of the selection. Here the same
is said about positions only: which closing bracket is the partner of an opening one, and
which commas stand directly between the two, follows from how many brackets are opened and
closed on the way. Both agree on every list of tokens, because as long as an opening bracket
has no partner, what lies on its frame is what was opened behind it and not closed.
-/
import Mathlib.Data.List.Forall2
import ModuleGrammar.Proofs.Balance

namespace ModuleGrammar

namespace Token

/-- The tokens behind one index and in front of another one. -/
def between (tokens : List Token) (first last : Nat) : List Token :=
  (tokens.take last).drop (first + 1)

/-- How many tokens open a group. -/
def openings (tokens : List Token) : Nat :=
  tokens.countP (·.kind.isOpening)

/-- How many tokens close a group. -/
def closings (tokens : List Token) : Nat :=
  tokens.countP (·.kind.isClosing)

/-- Between an index and any other one in front of `last` no more brackets are closed than
opened, whatever their shapes. -/
def StaysOpen (tokens : List Token) (first last : Nat) : Prop :=
  ∀ index, first < index → index < last →
    closings (between tokens first (index + 1)) ≤ openings (between tokens first (index + 1))

/-- The partner of an opening bracket is the first token behind it up to which more brackets
are closed than opened, whatever their shapes. -/
structure Partner (tokens : List Token) (first last : Nat) : Prop where
  first_lt_last : first < last
  closes : openings (between tokens first (last + 1)) < closings (between tokens first (last + 1))
  least : StaysOpen tokens first last

/-- No comma stands directly between two indices: up to every comma there, brackets have been
opened that are not closed, or the other way round. -/
def Undivided (tokens : List Token) (first last : Nat) : Prop :=
  ∀ index, first < index → index < last → tokens[index]?.map (·.kind) = some .comma →
    openings (between tokens first index) ≠ closings (between tokens first index)

/-- A pair of angle brackets that are partners, without a comma directly between them. -/
structure LonePriority (tokens : List Token) (first last : Nat) : Prop where
  opening : tokens[first]?.map (·.kind) = some (.opening .angle)
  closing : tokens[last]?.map (·.kind) = some (.closing .angle)
  partner : Partner tokens first last
  undivided : Undivided tokens first last

theorem between_succ_self (tokens : List Token) (first : Nat) :
    between tokens first (first + 1) = [] := by
  simp [between]

theorem between_succ {tokens : List Token} {first last : Nat} {token : Token}
    (after : first < last) (found : tokens[last]? = some token) :
    between tokens first (last + 1) = between tokens first last ++ [token] := by
  have bound := (List.getElem?_eq_some_iff.mp found).1
  have inside : first + 1 ≤ (tokens.take last).length := by
    rw [List.length_take]
    omega
  rw [between, between, List.take_add_one, found, List.drop_append_of_le_length inside]
  rfl

theorem openings_between_succ {tokens : List Token} {first last : Nat} {token : Token}
    (after : first < last) (found : tokens[last]? = some token) :
    openings (between tokens first (last + 1)) =
      openings (between tokens first last) + if token.kind.isOpening = true then 1 else 0 := by
  rw [between_succ after found, openings, List.countP_append, List.countP_singleton]
  rfl

theorem closings_between_succ {tokens : List Token} {first last : Nat} {token : Token}
    (after : first < last) (found : tokens[last]? = some token) :
    closings (between tokens first (last + 1)) =
      closings (between tokens first last) + if token.kind.isClosing = true then 1 else 0 := by
  rw [between_succ after found, closings, List.countP_append, List.countP_singleton]
  rfl

theorem Kind.isOpening_of_isClosing {kind : Kind} (closes : kind.isClosing = true) :
    kind.isOpening = false := by
  cases kind with
  | closing shape => rfl
  | _ => cases closes

theorem undivided_succ_iff {tokens : List Token} {first last : Nat} {token : Token}
    (after : first < last) (found : tokens[last]? = some token) :
    Undivided tokens first (last + 1) ↔ Undivided tokens first last ∧
      (token.kind = .comma →
        openings (between tokens first last) ≠ closings (between tokens first last)) := by
  constructor
  · intro undivided
    refine ⟨fun index above below => undivided index above (by omega), fun comma => ?_⟩
    exact undivided last after (Nat.lt_succ_self last) (by rw [found, Option.map_some, comma])
  · rintro ⟨undivided, here⟩ index above below comma
    rcases Nat.lt_succ_iff_lt_or_eq.mp below with below | rfl
    · exact undivided index above below comma
    · rw [found, Option.map_some, Option.some.injEq] at comma
      exact here comma

end Token

namespace Finding

/-- Whether the message of a finding says that a priority selection has no comma. -/
def saysLonePriority (finding : Finding) : Bool :=
  finding.message == "Priority selection must contain multiple modules separated by commas".toList

theorem saysLonePriority_iff (finding : Finding) :
    finding.saysLonePriority = true ↔ finding = .singlePriority := by
  rw [saysLonePriority, beq_iff_eq]
  constructor
  · exact fun message => eq_of_message_eq rfl message
  · rintro rfl
    rfl

end Finding

namespace Check

open Token

/-- What a token does to an open bracket under some others: it closes it, if it is the innermost
one, or it changes the number of brackets on it, or it counts as a comma of its own. -/
theorem State.frames_advance_cases {state : State} {inner outer : List Frame} {frame : Frame}
    (frames : state.frames = inner ++ frame :: outer) (token : Token) :
    (token.kind.isClosing = true ∧ inner = [] ∧ (state.advance token).frames = outer) ∨
      ∃ later commas,
        (state.advance token).frames = later ++ { frame with commas } :: outer ∧
        later.length + (if token.kind.isClosing = true then 1 else 0) =
          inner.length + (if token.kind.isOpening = true then 1 else 0) ∧
        (commas = 0 ↔ frame.commas = 0 ∧ (token.kind = .comma → inner ≠ [])) := by
  rw [frames_advance, frames]
  cases token.kind with
  | opening shape =>
      exact .inr ⟨⟨shape, token.text, token.offset, 0⟩ :: inner, frame.commas, rfl,
        by simp [Kind.isClosing, Kind.isOpening], by simp⟩
  | closing shape =>
      cases inner with
      | nil => exact .inl ⟨rfl, rfl, rfl⟩
      | cons innermost inner =>
          exact .inr ⟨inner, frame.commas, rfl, by simp [Kind.isClosing, Kind.isOpening],
            by simp⟩
  | comma =>
      cases inner with
      | nil =>
          exact .inr ⟨[], frame.commas + 1, rfl, by simp [Kind.isClosing, Kind.isOpening], by simp⟩
      | cons innermost inner =>
          exact .inr ⟨{ innermost with commas := innermost.commas + 1 } :: inner, frame.commas, rfl,
            by simp [Kind.isClosing, Kind.isOpening], by simp⟩
  | _ =>
      exact .inr ⟨inner, frame.commas, rfl, by simp [Kind.isClosing, Kind.isOpening], by simp⟩

/-- How the frame of a bracket that was opened at `first` lies on the stack in front of `last`:
under as many frames as brackets were opened behind it and not closed, and without a comma
exactly if there is none directly behind it. -/
structure Lies (tokens : List Token) (first : Nat) (opening : Token) (shape : Bracket)
    (last : Nat) (inner : List Frame) (commas : Nat) : Prop where
  frames : (stateBefore tokens last).frames =
    inner ++ ⟨shape, opening.text, opening.offset, commas⟩ :: (stateBefore tokens first).frames
  depth : inner.length + closings (between tokens first last) =
    openings (between tokens first last)
  commas_eq_zero : commas = 0 ↔ Undivided tokens first last

section Run

variable {tokens : List Token} {first last : Nat} {opening : Token} {shape : Bracket}

/-- One step: the bracket is closed, or its frame lies on the stack as before. -/
theorem Lies.step {inner : List Frame} {commas : Nat}
    (lies : Lies tokens first opening shape last inner commas) (after : first < last)
    {token : Token} (found : tokens[last]? = some token) :
    (inner = [] ∧ token.kind.isClosing = true ∧
        (stateBefore tokens (last + 1)).frames = (stateBefore tokens first).frames) ∨
      ∃ inner commas, Lies tokens first opening shape (last + 1) inner commas := by
  have depth := lies.depth
  rcases State.frames_advance_cases lies.frames token with
    ⟨closes, rfl, closed⟩ | ⟨later, count, frames, length, counted⟩
  · exact .inl ⟨rfl, closes, (stateBefore_succ found).symm ▸ closed⟩
  · refine .inr ⟨later, count, (stateBefore_succ found).symm ▸ frames, ?_, ?_⟩
    · rw [openings_between_succ after found, closings_between_succ after found]
      omega
    · have direct : inner ≠ [] ↔
          openings (between tokens first last) ≠ closings (between tokens first last) := by
        rw [← List.length_pos_iff]
        omega
      rw [counted, lies.commas_eq_zero, undivided_succ_iff after found, direct]

theorem exists_lies (found : tokens[first]? = some opening) (kind : opening.kind = .opening shape)
    (after : first < last) (bound : last ≤ tokens.length)
    (staysOpen : StaysOpen tokens first last) :
    ∃ inner commas, Lies tokens first opening shape last inner commas := by
  induction last, after using Nat.le_induction with
  | base =>
      refine ⟨[], 0, ?_, ?_, ?_⟩
      · rw [stateBefore_succ found, State.frames_advance, kind]
        rfl
      · rw [between_succ_self]
        rfl
      · simp only [Undivided, true_iff]
        intro index above below
        omega
  | succ last after ih =>
      obtain ⟨inner, commas, lies⟩ := ih (by omega)
        (fun index above below => staysOpen index above (by omega))
      obtain ⟨token, present⟩ : ∃ token, tokens[last]? = some token :=
        ⟨tokens[last], List.getElem?_eq_getElem bound⟩
      rcases lies.step after present with ⟨rfl, closes, -⟩ | lies
      · -- It would be closed here, although no more brackets are closed than opened.
        have depth := lies.depth
        have within := staysOpen last after (Nat.lt_succ_self last)
        rw [openings_between_succ after present, closings_between_succ after present, if_pos closes,
          if_neg (by simp [Kind.isOpening_of_isClosing closes])] at within
        rw [List.length_nil] at depth
        omega
      · exact lies

/-- A bracket that is open all the time is not closed by counting either. -/
theorem Opened.staysOpen (opened : Opened tokens first opening shape last)
    (bound : last ≤ tokens.length) : StaysOpen tokens first last := by
  obtain ⟨after, found, kind, stays⟩ := opened
  induction last, after using Nat.le_induction with
  | base =>
      intro index above below
      omega
  | succ last after ih =>
      have earlier := ih (by omega) (fun index above below => stays index above (by omega))
      obtain ⟨inner, commas, lies⟩ := exists_lies found kind after (by omega) earlier
      obtain ⟨token, present⟩ : ∃ token, tokens[last]? = some token :=
        ⟨tokens[last], List.getElem?_eq_getElem bound⟩
      intro index above below
      rcases Nat.lt_succ_iff_lt_or_eq.mp below with below | rfl
      · exact earlier index above below
      · rcases lies.step after present with ⟨rfl, -, closed⟩ | ⟨inner, commas, lies⟩
        · obtain ⟨others, count, stillOpen⟩ := stays (index + 1) (by omega) (Nat.le_refl _)
          rw [closed] at stillOpen
          have length := congrArg List.length stillOpen
          simp at length
          omega
        · have depth := lies.depth
          omega

end Run

section Pairs

variable {tokens : List Token} {first last : Nat}

/-- The frame of a selection without a comma is the innermost one in front of its partner. -/
theorem frames_of_lonePriority (lone : LonePriority tokens first last) {opening : Token}
    (found : tokens[first]? = some opening) :
    (stateBefore tokens last).frames =
      ⟨.angle, opening.text, opening.offset, 0⟩ :: (stateBefore tokens first).frames := by
  obtain ⟨closing, present, closes⟩ := Option.map_eq_some_iff.mp lone.closing
  have kind : opening.kind = .opening .angle := by
    have opens := lone.opening
    rwa [found, Option.map_some, Option.some.injEq] at opens
  have bound := (List.getElem?_eq_some_iff.mp present).1
  have after := lone.partner.first_lt_last
  obtain ⟨inner, commas, lies⟩ := exists_lies found kind after (by omega) lone.partner.least
  have closed := lone.partner.closes
  rw [openings_between_succ after present, closings_between_succ after present, closes] at closed
  have depth := lies.depth
  have empty : inner = [] := by
    rw [← List.length_eq_zero_iff]
    simp [Kind.isOpening, Kind.isClosing] at closed
    omega
  rw [lies.frames, empty, lies.commas_eq_zero.mpr lone.undivided]
  rfl

/-- A closing angle bracket that meets the frame of a selection without a comma is its partner. -/
theorem exists_lonePriority {closing : Token} (present : tokens[last]? = some closing)
    (closes : closing.kind = .closing .angle) {frame : Frame} {outer : List Frame}
    (frames : (stateBefore tokens last).frames = frame :: outer) (shape : frame.shape = .angle)
    (commas : frame.commas = 0) :
    ∃ first opening, LonePriority tokens first last ∧ tokens[first]? = some opening ∧
      opening.offset = frame.offset := by
  have innermost : (stateBefore tokens last).frames = [] ++ frame :: outer := frames
  obtain ⟨first, opening, bracket, count, opened, rfl, rfl⟩ := exists_opened innermost
  cases shape
  have bound := (List.getElem?_eq_some_iff.mp present).1
  have after := opened.first_lt_last
  have staysOpen := opened.staysOpen (Nat.le_of_lt bound)
  obtain ⟨inner, commas', lies⟩ :=
    exists_lies opened.token_eq opened.kind_eq after (Nat.le_of_lt bound) staysOpen
  have same := lies.frames.symm.trans innermost
  have empty : inner = [] := by
    have length := congrArg List.length same
    rw [← List.length_eq_zero_iff]
    simpa using length
  subst empty
  cases same
  have depth := lies.depth
  refine ⟨first, opening, ⟨?_, ?_, ⟨after, ?_, staysOpen⟩, ?_⟩, opened.token_eq, rfl⟩
  · rw [opened.token_eq, Option.map_some, opened.kind_eq]
  · rw [present, Option.map_some, closes]
  · rw [openings_between_succ after present, closings_between_succ after present, closes]
    simp [Kind.isOpening, Kind.isClosing] at depth ⊢
    omega
  · exact lies.commas_eq_zero.mp commas

theorem LonePriority.le_first {other : Nat} (lone : LonePriority tokens first last)
    (second : LonePriority tokens other last) : other ≤ first := by
  by_contra inside
  rw [Nat.not_le] at inside
  obtain ⟨opening, found, kind⟩ := Option.map_eq_some_iff.mp lone.opening
  obtain ⟨opening', found', -⟩ := Option.map_eq_some_iff.mp second.opening
  -- The stack below both frames is the same, but that of the outer bracket is below the inner one.
  have same := (frames_of_lonePriority lone found).symm.trans (frames_of_lonePriority second found')
  have below := (List.cons.inj same).2
  have bound := (List.getElem?_eq_some_iff.mp found').1
  obtain ⟨inner, commas, lies⟩ := exists_lies found kind inside (Nat.le_of_lt bound)
    (fun index above under => lone.partner.least index above
      (Nat.lt_trans under second.partner.first_lt_last))
  have length := congrArg List.length lies.frames
  rw [← below] at length
  simp at length
  omega

/-- Only a closing angle bracket that meets the frame of a selection without a comma is reported
like this. -/
theorem frames_of_saysLonePriority {state : State} {previous next : Option Token.Kind}
    {token : Token} {diagnostic : Diagnostic}
    (found : diagnostic ∈ review state previous next token)
    (said : diagnostic.finding.saysLonePriority = true) :
    token.kind = .closing .angle ∧
      ∃ frame outer, state.frames = frame :: outer ∧ frame.shape = .angle ∧ frame.commas = 0 := by
  have lone := (Finding.saysLonePriority_iff _).mp said
  have about := isAbout_of_mem_review found
  cases kind : token.kind with
  | closing shape =>
      cases frames : state.frames with
      | nil =>
          rw [review_closing_of_nil kind frames, List.mem_singleton] at found
          rw [found] at lone
          cases lone
      | cons frame outer =>
          by_cases same : frame.shape = shape
          · rw [review_closing_of_eq kind frames same, mem_report_iff, Bool.and_eq_true,
              beq_iff_eq, beq_iff_eq] at found
            obtain ⟨⟨rfl, commas⟩, -⟩ := found
            exact ⟨rfl, frame, outer, rfl, same, commas⟩
          · rw [review_closing_of_ne kind frames same, List.mem_singleton] at found
            rw [found] at lone
            cases lone
  | _ =>
      rw [lone, kind] at about
      cases about

/-- What one token adds: a report about the selection that it ends, if that has no comma. -/
theorem filter_reviewAt (tokens : List Token) (last : Nat) :
    (∃ first opening, LonePriority tokens first last ∧ tokens[first]? = some opening ∧
        (reviewAt .initial none tokens last).filter (·.finding.saysLonePriority) =
          [⟨.singlePriority, opening.offset, 1⟩]) ∨
      (∀ first, ¬ LonePriority tokens first last) ∧
        (reviewAt .initial none tokens last).filter (·.finding.saysLonePriority) = [] := by
  cases present : tokens[last]? with
  | none =>
      refine .inr ⟨fun first lone => ?_, ?_⟩
      · have closing := lone.closing
        rw [present] at closing
        cases closing
      · rw [reviewAt, present]
        rfl
  | some token =>
      have reviewed : reviewAt .initial none tokens last =
          review (stateBefore tokens last) (kindBefore none tokens last)
            (tokens[last + 1]?.map (·.kind)) token := by
        rw [reviewAt, present]
        rfl
      rw [reviewed]
      by_cases meets : token.kind = .closing .angle ∧ ∃ frame outer,
          (stateBefore tokens last).frames = frame :: outer ∧ frame.shape = .angle ∧
            frame.commas = 0
      · obtain ⟨kind, frame, outer, frames, shape, commas⟩ := meets
        obtain ⟨first, opening, lone, found, offset⟩ :=
          exists_lonePriority present kind frames shape commas
        refine .inl ⟨first, opening, lone, found, ?_⟩
        have said : Finding.singlePriority.saysLonePriority = true :=
          (Finding.saysLonePriority_iff _).mpr rfl
        rw [review_closing_of_eq kind frames shape, offset]
        simp [report, commas, said]
      · refine .inr ⟨fun first lone => meets ?_, ?_⟩
        · obtain ⟨opening, found, -⟩ := Option.map_eq_some_iff.mp lone.opening
          have closing := lone.closing
          rw [present, Option.map_some, Option.some.injEq] at closing
          exact ⟨closing, _, _, frames_of_lonePriority lone found, rfl, rfl⟩
        · rw [List.filter_eq_nil_iff]
          intro diagnostic found said
          exact meets (frames_of_saysLonePriority found said)

end Pairs

/-- An opening bracket and the report about it. -/
def Reports (tokens : List Token) (pair : Nat × Nat) (diagnostic : Diagnostic) : Prop :=
  ∃ opening, tokens[pair.1]? = some opening ∧ diagnostic = ⟨.singlePriority, opening.offset, 1⟩

/-- The reports up to an index, one for each pair that ends in front of it. -/
theorem exists_pairs (tokens : List Token) (bound : Nat) :
    ∃ pairs : List (Nat × Nat),
      pairs.Pairwise (·.2 < ·.2) ∧
      (∀ first last, (first, last) ∈ pairs ↔ last < bound ∧ LonePriority tokens first last) ∧
      List.Forall₂ (Reports tokens) pairs
        (((List.range bound).flatMap (reviewAt .initial none tokens)).filter
          (·.finding.saysLonePriority)) := by
  induction bound with
  | zero => exact ⟨[], .nil, by simp, .nil⟩
  | succ bound ih =>
      obtain ⟨pairs, ordered, members, reported⟩ := ih
      rw [List.range_succ, List.flatMap_append, List.flatMap_singleton, List.filter_append]
      rcases filter_reviewAt tokens bound with
        ⟨first, opening, lone, found, filtered⟩ | ⟨none, filtered⟩
      · rw [filtered]
        refine ⟨pairs ++ [(first, bound)], ?_, ?_, ?_⟩
        · rw [List.pairwise_append]
          refine ⟨ordered, List.pairwise_singleton _ _, ?_⟩
          rintro ⟨earlier, last⟩ member pair added
          rw [List.mem_singleton.mp added]
          exact ((members earlier last).mp member).1
        · intro other last
          rw [List.mem_append, List.mem_singleton, members, Prod.mk.injEq]
          constructor
          · rintro (⟨below, earlier⟩ | ⟨rfl, rfl⟩)
            · exact ⟨Nat.lt_succ_of_lt below, earlier⟩
            · exact ⟨Nat.lt_succ_self last, lone⟩
          · rintro ⟨below, other⟩
            rcases Nat.lt_succ_iff_lt_or_eq.mp below with below | rfl
            · exact .inl ⟨below, other⟩
            · exact .inr ⟨Nat.le_antisymm (LonePriority.le_first lone other)
                (LonePriority.le_first other lone), rfl⟩
        · exact List.rel_append reported (.cons ⟨opening, found, rfl⟩ .nil)
      · rw [filtered, List.append_nil]
        refine ⟨pairs, ordered, fun first last => ?_, reported⟩
        rw [members]
        constructor
        · rintro ⟨below, lone⟩
          exact ⟨Nat.lt_succ_of_lt below, lone⟩
        · rintro ⟨below, lone⟩
          rcases Nat.lt_succ_iff_lt_or_eq.mp below with below | rfl
          · exact ⟨below, lone⟩
          · exact absurd lone (none first)

end Check

/-- The diagnostics about priority selections without a comma are, in their order, one for each
pair of partners that are angle brackets with no comma directly between them. The pairs come in
the order of their closing brackets, and each report stands at its opening bracket. -/
theorem lone_priorities_reported (tokens : List Token) :
    ∃ pairs : List (Nat × Nat),
      pairs.Pairwise (·.2 < ·.2) ∧
      (∀ first last, (first, last) ∈ pairs ↔ Token.LonePriority tokens first last) ∧
      List.Forall₂ (Check.Reports tokens) pairs
        ((Diagnostic.ofTokens tokens).filter (·.finding.saysLonePriority)) := by
  obtain ⟨pairs, ordered, members, reported⟩ := Check.exists_pairs tokens tokens.length
  have none : (Check.stateBefore tokens tokens.length).unclosed.filter
      (·.finding.saysLonePriority) = [] := by
    rw [List.filter_eq_nil_iff]
    intro diagnostic found said
    obtain ⟨frame, -, rfl⟩ := List.mem_map.mp found
    cases (Finding.saysLonePriority_iff _).mp said
  refine ⟨pairs, ordered, fun first last => ?_, ?_⟩
  · rw [members, and_iff_right_iff_imp]
    intro lone
    obtain ⟨closing, present, -⟩ := Option.map_eq_some_iff.mp lone.closing
    exact (List.getElem?_eq_some_iff.mp present).1
  · rwa [Check.ofTokens_eq, Check.reviewAll_eq_flatMap, List.filter_append, none, List.append_nil]

end ModuleGrammar
