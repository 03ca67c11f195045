/-
# Rules about choices

Whether the check is in a choice is a flag that every curly bracket sets anew, and the stack of
open brackets has no say in it. So the flag can be read off the positions of the curly
brackets: it is on behind an opening one, up to the next curly bracket of either kind. Five
rules ask for it. Here they are stated about positions and neighbours only, and the check turns
out to report each rule where it is broken, and nowhere else.
-/
import ModuleGrammar.Proofs.Message
import ModuleGrammar.Proofs.Report
import ModuleGrammar.Token.Segment

namespace ModuleGrammar

namespace Token

/-- Whether tokens of this kind are curly brackets. -/
def Kind.isCurly : Kind → Bool
  | .opening .curly | .closing .curly => true
  | _ => false

/-- The kind of the token with an index. -/
def kindAt (tokens : List Token) (index : Nat) : Option Kind :=
  tokens[index]?.map (·.kind)

/-- The kind of the last curly bracket in front of an index. -/
def lastCurly (tokens : List Token) (index : Nat) : Option Kind :=
  (((tokens.take index).map (·.kind)).filter Kind.isCurly).getLast?

/-- There are curly brackets in front of an index, and the last of them is an opening one. -/
def InChoice (tokens : List Token) (index : Nat) : Prop :=
  lastCurly tokens index = some (.opening .curly)

instance (tokens : List Token) (index : Nat) : Decidable (InChoice tokens index) :=
  inferInstanceAs (Decidable (_ = _))

theorem kindAt_eq {tokens : List Token} {index : Nat} {token : Token}
    (found : tokens[index]? = some token) : kindAt tokens index = some token.kind := by
  rw [kindAt, found, Option.map_some]

theorem lastCurly_succ {tokens : List Token} {index : Nat} {token : Token}
    (found : tokens[index]? = some token) :
    lastCurly tokens (index + 1) =
      if token.kind.isCurly then some token.kind else lastCurly tokens index := by
  rw [lastCurly, lastCurly, List.take_add_one, found, List.map_append, List.filter_append,
    List.getLast?_append]
  cases curly : token.kind.isCurly <;> simp [curly]

theorem lastCurly_of_length_le {tokens : List Token} {index : Nat}
    (behind : tokens.length ≤ index) : lastCurly tokens (index + 1) = lastCurly tokens index := by
  rw [lastCurly, lastCurly, List.take_of_length_le behind,
    List.take_of_length_le (Nat.le_succ_of_le behind)]

end Token

open Token

/-- The rules that ask whether a token stands in a choice. -/
inductive ChoiceRule
  /-- A colon stands in a choice. -/
  | colonInside
  /-- A colon in a choice follows a name. -/
  | colonAfterName
  /-- A colon in a choice precedes a weight. -/
  | colonBeforeWeight
  /-- A name in a choice precedes a colon, a comma, a weight or a closing bracket. -/
  | nameSuccessor
  /-- A weight in a choice follows a colon. -/
  | weightAfterColon
  deriving DecidableEq, Repr

namespace ChoiceRule

/-- All rules, in the order in which they are reported at one token. -/
def all : List ChoiceRule :=
  [.colonInside, .colonAfterName, .colonBeforeWeight, .nameSuccessor, .weightAfterColon]

/-- What is said about a token that breaks a rule. -/
def message : ChoiceRule → Text
  | .colonInside => "Colon can only be used in stochastic choice syntax".toList
  | .colonAfterName => "Colon must follow a module name".toList
  | .colonBeforeWeight => "Colon must be followed by a weight value".toList
  | .nameSuccessor => "Module must be followed by colon, comma or closing bracket".toList
  | .weightAfterColon => "Weight value must follow a colon".toList

/-- The finding about a token that breaks a rule. -/
def finding : ChoiceRule → Finding
  | .colonInside => .colonOutsideChoice
  | .colonAfterName => .colonWithoutName
  | .colonBeforeWeight => .colonWithoutWeight
  | .nameSuccessor => .nameWithoutSuccessor
  | .weightAfterColon => .weightWithoutColon

/-- The token with an index breaks a rule. A neighbour that is missing is of no kind. -/
def Broken (tokens : List Token) (index : Nat) : ChoiceRule → Prop
  | .colonInside => kindAt tokens index = some .colon ∧ ¬ InChoice tokens index
  | .colonAfterName =>
    kindAt tokens index = some .colon ∧ InChoice tokens index ∧
      Check.kindBefore none tokens index ≠ some .name
  | .colonBeforeWeight =>
    kindAt tokens index = some .colon ∧ InChoice tokens index ∧
      kindAt tokens (index + 1) ≠ some .weight
  | .nameSuccessor =>
    kindAt tokens index = some .name ∧ InChoice tokens index ∧
      ∀ next ∈ kindAt tokens (index + 1),
        next ≠ .colon ∧ next ≠ .comma ∧ next ≠ .weight ∧ next.isClosing = false
  | .weightAfterColon =>
    kindAt tokens index = some .weight ∧ InChoice tokens index ∧
      Check.kindBefore none tokens index ≠ some .colon

instance (tokens : List Token) (index : Nat) : DecidablePred (Broken tokens index)
  | .colonInside => inferInstanceAs (Decidable (_ ∧ ¬ _))
  | .colonAfterName => inferInstanceAs (Decidable (_ ∧ _ ∧ _ ≠ _))
  | .colonBeforeWeight => inferInstanceAs (Decidable (_ ∧ _ ∧ _ ≠ _))
  | .nameSuccessor => inferInstanceAs (Decidable (_ ∧ _ ∧ ∀ next ∈ _, _))
  | .weightAfterColon => inferInstanceAs (Decidable (_ ∧ _ ∧ _ ≠ _))

/-- How many characters of a token are covered by the report: a colon is one character, and
names and weights are covered as a whole. -/
def span (rule : ChoiceRule) (token : Token) : Nat :=
  match rule with
  | .colonInside | .colonAfterName | .colonBeforeWeight => 1
  | .nameSuccessor | .weightAfterColon => token.text.length

/-- The reports about the token with an index, one for each rule that it breaks. -/
def reports (tokens : List Token) (index : Nat) : List Diagnostic :=
  match tokens[index]? with
  | none => []
  | some token =>
    (all.filter (Broken tokens index)).map fun rule => ⟨rule.finding, token.offset, rule.span token⟩

end ChoiceRule

/-- Whether the message of a finding is that of a rule about choices. -/
def Finding.saysChoice (finding : Finding) : Bool :=
  (ChoiceRule.all.map ChoiceRule.message).contains finding.message

namespace ChoiceRule

theorem message_finding (rule : ChoiceRule) : rule.finding.message = rule.message := by
  cases rule <;> rfl

theorem isPlain_finding (rule : ChoiceRule) : rule.finding.isPlain = true := by
  cases rule <;> rfl

/-- The kinds of tokens that the rules are about. -/
def Concerns (kind : Token.Kind) : Prop :=
  kind = .colon ∨ kind = .name ∨ kind = .weight

theorem Broken.concerns {tokens : List Token} {index : Nat} {rule : ChoiceRule}
    (broken : Broken tokens index rule) {token : Token} (found : tokens[index]? = some token) :
    Concerns token.kind := by
  have kind := kindAt_eq found
  cases rule <;> simp_all [Broken, Concerns]

theorem concerns_of_isAbout {rule : ChoiceRule} {kind : Token.Kind}
    (about : rule.finding.isAbout kind = true) : Concerns kind := by
  cases rule <;> cases kind <;> simp [finding, Finding.isAbout, Concerns] at about ⊢

end ChoiceRule

theorem Finding.saysChoice_iff (finding : Finding) :
    finding.saysChoice = true ↔ ∃ rule : ChoiceRule, finding = rule.finding := by
  rw [saysChoice, List.contains_iff_mem, List.mem_map]
  constructor
  · rintro ⟨rule, -, same⟩
    rw [← rule.message_finding] at same
    exact ⟨rule, eq_of_message_eq rule.isPlain_finding same.symm⟩
  · rintro ⟨rule, rfl⟩
    refine ⟨rule, ?_, rule.message_finding.symm⟩
    cases rule <;> decide

namespace Check

/-- A curly bracket sets the flag anew, and no other token changes it. -/
theorem State.inChoice_advance (state : State) (token : Token) :
    (state.advance token).inChoice =
      if token.kind.isCurly then token.kind == .opening .curly else state.inChoice := by
  obtain ⟨⟨kind, text⟩, offset⟩ := token
  cases kind with
  | opening shape => cases shape <;> simp [advance, Kind.isCurly]
  | closing shape => cases shape <;> simp [advance, Kind.isCurly]
  | comma => cases frames : state.frames <;> simp [advance, Kind.isCurly, frames]
  | _ => rfl

/-- The check is in a choice exactly behind a curly bracket that opens one. -/
theorem inChoice_stateBefore_iff (tokens : List Token) (index : Nat) :
    (stateBefore tokens index).inChoice = true ↔ InChoice tokens index := by
  induction index with
  | zero => simp [stateBefore, Checker.check, Checker.fresh, State.advanceAll, State.initial,
      InChoice, lastCurly]
  | succ index ih =>
      cases found : tokens[index]? with
      | none =>
          have behind := List.getElem?_eq_none_iff.mp found
          rw [InChoice, lastCurly_of_length_le behind, stateBefore_of_length_le (by omega),
            ← stateBefore_of_length_le behind, ih, InChoice]
      | some token =>
          rw [stateBefore_succ found, State.inChoice_advance, InChoice, lastCurly_succ found]
          split
          · simp
          · exact ih

/-- Rule by rule, a token is reported if it breaks the rule. -/
theorem reports_eq {tokens : List Token} {index : Nat} {token : Token}
    (found : tokens[index]? = some token) :
    ChoiceRule.reports tokens index = ChoiceRule.all.flatMap fun rule =>
      report (ChoiceRule.Broken tokens index rule) rule.finding token.offset (rule.span token) := by
  simp only [ChoiceRule.reports, found]
  induction ChoiceRule.all with
  | nil => rfl
  | cons rule rules ih =>
      rw [List.flatMap_cons, ← ih]
      by_cases broken : ChoiceRule.Broken tokens index rule <;> simp [report, broken]

theorem mayFollowName_eq_false_iff (kind : Token.Kind) :
    mayFollowName kind = false ↔
      kind ≠ .colon ∧ kind ≠ .comma ∧ kind ≠ .weight ∧ kind.isClosing = false := by
  cases kind <;> simp [mayFollowName, Kind.isClosing]

/-- What is said about a colon, a name or a weight are the rules about choices that it breaks. -/
theorem reviewAt_eq_reports {tokens : List Token} {index : Nat} {token : Token}
    (found : tokens[index]? = some token) (kinds : ChoiceRule.Concerns token.kind) :
    reviewAt .initial none tokens index = ChoiceRule.reports tokens index := by
  have kind := kindAt_eq found
  have flag : (stateBefore tokens index).inChoice = decide (InChoice tokens index) := by
    rw [Bool.eq_iff_iff, inChoice_stateBefore_iff, decide_eq_true_iff]
  rw [reviewAt_eq found, ← kindAt, reports_eq found, review, flag]
  rcases kinds with colon | name | weight
  · rw [colon]
    by_cases inside : InChoice tokens index <;>
      simp [reviewColon, report, ChoiceRule.all, ChoiceRule.Broken, kind, colon, inside,
        ChoiceRule.finding, ChoiceRule.span]
  · rw [name]
    by_cases inside : InChoice tokens index <;>
      simp [reviewName, report, ChoiceRule.all, ChoiceRule.Broken, kind, name, inside,
        ChoiceRule.finding, ChoiceRule.span, ← mayFollowName_eq_false_iff, Option.any_eq_false]
  · rw [weight]
    by_cases inside : InChoice tokens index <;>
      simp [reviewWeight, report, ChoiceRule.all, ChoiceRule.Broken, kind, weight, inside,
        ChoiceRule.finding, ChoiceRule.span]

/-- The other kinds of tokens break no rule about choices, and no such rule is reported of
them. -/
theorem filter_reviewAt_of_other {tokens : List Token} {index : Nat} {token : Token}
    (found : tokens[index]? = some token) (other : ¬ ChoiceRule.Concerns token.kind) :
    (reviewAt .initial none tokens index).filter (·.finding.saysChoice) =
      ChoiceRule.reports tokens index := by
  have kept : ChoiceRule.reports tokens index = [] := by
    simp only [ChoiceRule.reports, found, List.map_eq_nil_iff, List.filter_eq_nil_iff,
      decide_eq_true_iff]
    intro rule _ broken
    exact other (broken.concerns found)
  rw [kept, List.filter_eq_nil_iff, reviewAt_eq found]
  intro diagnostic reported said
  obtain ⟨rule, same⟩ := (Finding.saysChoice_iff _).mp said
  have about := isAbout_of_mem_review reported
  rw [same] at about
  exact other (ChoiceRule.concerns_of_isAbout about)

/-- What is said about choices at one token are the rules that it breaks. -/
theorem filter_reviewAt_eq_reports (tokens : List Token) (index : Nat) :
    (reviewAt .initial none tokens index).filter (·.finding.saysChoice) =
      ChoiceRule.reports tokens index := by
  cases found : tokens[index]? with
  | none => simp [reviewAt, ChoiceRule.reports, found]
  | some token =>
      by_cases kinds : ChoiceRule.Concerns token.kind
      · rw [reviewAt_eq_reports found kinds, List.filter_eq_self, ChoiceRule.reports, found]
        intro diagnostic reported
        obtain ⟨rule, -, rfl⟩ := List.mem_map.mp reported
        exact (Finding.saysChoice_iff _).mpr ⟨rule, rfl⟩
      · exact filter_reviewAt_of_other found kinds

end Check

/-- The check is in a choice in front of a token exactly if there are curly brackets before the
token and the last of them is an opening one. And the diagnostics with the messages of the rules
about choices are, token by token, the rules that the token breaks. -/
theorem choice_rules_reported (tokens : List Token) :
    (∀ index, (Check.stateBefore tokens index).inChoice = true ↔ InChoice tokens index) ∧
      (Diagnostic.ofTokens tokens).filter (·.finding.saysChoice) =
        (List.range tokens.length).flatMap (ChoiceRule.reports tokens) := by
  refine ⟨Check.inChoice_stateBefore_iff tokens, ?_⟩
  have none : (Check.stateBefore tokens tokens.length).unclosed.filter
      (·.finding.saysChoice) = [] := by
    rw [List.filter_eq_nil_iff]
    intro diagnostic reported said
    obtain ⟨frame, -, rfl⟩ := List.mem_map.mp reported
    obtain ⟨rule, same⟩ := (Finding.saysChoice_iff _).mp said
    cases rule <;> cases same
  rw [Check.ofTokens_eq, List.filter_append, none, List.append_nil, Check.reviewAll_eq_flatMap,
    List.filter_flatMap]
  simp only [Check.filter_reviewAt_eq_reports]

/-- The bracket that closes the inner choice ends the outer one as well. -/
example : let tokens := Token.scan "\x7ba:1,\x7bb:2\x7d,c:3\x7d".toList
    (List.range tokens.length).flatMap (ChoiceRule.reports tokens) =
      [⟨.colonOutsideChoice, 12, 1⟩] := by
  decide +kernel

end ModuleGrammar
