/-
# What messages say

Some messages quote a piece of the source, which can be any text. But every message begins
with words of its own, and none begins with those of another one. So its first words tell
what a message is about, whatever it quotes.
-/
import Mathlib.Data.List.Pairwise
import ModuleGrammar.Diagnostic

namespace ModuleGrammar.Finding

/-- What a finding is about, without the text or the bracket that its message names. -/
def topic : Finding → Finding
  | .unexpectedCharacter _ => .unexpectedCharacter []
  | .unexpectedClosing _ => .unexpectedClosing []
  | .mismatchedBrackets _ _ => .mismatchedBrackets [] []
  | .unclosedBracket _ => .unclosedBracket .square
  | .invalidMultiplier _ => .invalidMultiplier []
  | finding => finding

/-- All that a finding can be about. -/
def topics : List Finding :=
  [.unexpectedCharacter [], .emptyGroup, .unexpectedClosing [], .mismatchedBrackets [] [],
    .unclosedBracket .square, .singlePriority, .strayMultiplier, .invalidMultiplier [],
    .leadingComma, .repeatedComma, .commaAfterOpening, .trailingComma, .commaBeforeClosing,
    .colonOutsideChoice, .colonWithoutName, .colonWithoutWeight, .nameWithoutSuccessor,
    .weightWithoutColon]

theorem topic_mem_topics (finding : Finding) : finding.topic ∈ topics := by
  cases finding <;> simp [topic, topics]

/-- The words that a message begins with, up to what it names. -/
def words : Finding → Text
  | .unexpectedCharacter _ => "Unexpected character: '".toList
  | .unexpectedClosing _ => "Unexpected closing bracket '".toList
  | .mismatchedBrackets _ _ => "Mismatched brackets: '".toList
  | .unclosedBracket _ => "Unclosed ".toList
  | .invalidMultiplier _ => "Invalid multiplier value: '".toList
  | finding => finding.message

theorem words_topic (finding : Finding) : finding.topic.words = finding.words := by
  cases finding <;> rfl

theorem words_prefix_message (finding : Finding) : finding.words <+: finding.message := by
  cases finding with
  | unexpectedCharacter text | unexpectedClosing text | unclosedBracket shape
  | invalidMultiplier text => exact ⟨_, (List.append_assoc _ _ _).symm⟩
  | mismatchedBrackets opening closing =>
      have message : (mismatchedBrackets opening closing).message =
          "Mismatched brackets: '".toList ++ opening ++ "' closed by '".toList ++ closing ++
            "'".toList := rfl
      rw [List.append_assoc, List.append_assoc, List.append_assoc] at message
      exact ⟨_, message.symm⟩
  | _ => exact List.prefix_rfl

/-- Neither of two findings begins its message with the words of the other one. -/
def Distinct (first second : Finding) : Prop :=
  ¬ first.words <+: second.words ∧ ¬ second.words <+: first.words

instance : DecidableRel Distinct := fun first second =>
  inferInstanceAs (Decidable (¬ first.words <+: second.words ∧ ¬ second.words <+: first.words))

instance : Std.Symm Distinct := ⟨fun _ _ distinct => distinct.symm⟩

theorem topics_pairwise_distinct : topics.Pairwise Distinct := by
  decide +kernel

theorem eq_of_prefix_words {first second : Finding} (member : first ∈ topics)
    (other : second ∈ topics) (starts : first.words <+: second.words) : first = second := by
  by_contra different
  exact (topics_pairwise_distinct.forall member other different).1 starts

/-- A message begins with the words of another one only if both are about the same. -/
theorem words_isPrefixOf_message_iff (first second : Finding) :
    first.words.isPrefixOf second.message = true ↔ second.topic = first.topic := by
  rw [List.isPrefixOf_iff_prefix]
  constructor
  · intro starts
    rw [← words_topic] at starts
    have own := words_prefix_message second
    rw [← words_topic] at own
    rcases List.prefix_or_prefix_of_prefix starts own with shorter | longer
    · exact (eq_of_prefix_words (topic_mem_topics first) (topic_mem_topics second) shorter).symm
    · exact eq_of_prefix_words (topic_mem_topics second) (topic_mem_topics first) longer
  · intro same
    rw [← words_topic, ← same, words_topic]
    exact words_prefix_message second

/-- Findings with the same message are about the same. -/
theorem topic_eq_of_message_eq {first second : Finding} (same : first.message = second.message) :
    first.topic = second.topic := by
  rw [← words_isPrefixOf_message_iff, same, List.isPrefixOf_iff_prefix]
  exact words_prefix_message second

/-- Whether the message of a finding names neither a text nor a bracket. -/
def isPlain : Finding → Bool
  | .unexpectedCharacter _ | .unexpectedClosing _ | .mismatchedBrackets _ _ | .unclosedBracket _
  | .invalidMultiplier _ => false
  | _ => true

theorem isPlain_topic (finding : Finding) : finding.topic.isPlain = finding.isPlain := by
  cases finding <;> rfl

theorem topic_of_isPlain {finding : Finding} (plain : finding.isPlain = true) :
    finding.topic = finding := by
  cases finding with
  | unexpectedCharacter text | unexpectedClosing text | mismatchedBrackets opening closing
  | unclosedBracket shape | invalidMultiplier text => cases plain
  | _ => rfl

/-- A message that names nothing tells its finding. -/
theorem eq_of_message_eq {first second : Finding} (plain : second.isPlain = true)
    (same : first.message = second.message) : first = second := by
  have topic := topic_eq_of_message_eq same
  have alike : first.isPlain = true := by rw [← isPlain_topic, topic, isPlain_topic, plain]
  rwa [topic_of_isPlain alike, topic_of_isPlain plain] at topic

end ModuleGrammar.Finding
