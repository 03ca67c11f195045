/-
# Listings lose nothing

A listing tells the tokens that it shows, and it shows all of them unless an offset has too many
digits. Every line ends with its only newline, so the lines are found first. The blanks in front of
an offset depend on the last token of the list, but no offset starts with a blank; neither an offset
nor the word for a kind holds one, so the parts of a line are found from the left, whatever the
width of the column.
-/
import Mathlib.Data.List.Nodup
import ModuleGrammar.Token.Listing
import ModuleGrammar.Proofs.Coverage
import ModuleGrammar.Proofs.Quotation
import ModuleGrammar.Proofs.Text

namespace ModuleGrammar

namespace Text

end Text

namespace Token

open Text

namespace Kind

/-- All kinds of tokens. -/
def all : List Kind :=
  [.name, .opening .square, .closing .square, .opening .curly, .closing .curly, .opening .angle,
    .closing .angle, .comma, .colon, .multiplier, .weight, .error]

end Kind

namespace Listing

theorem fault?_ofTokens_eq_none_iff (width : Nat) {tokens : List Token} :
    (ofTokens width tokens).fault? = none ↔ ∀ token ∈ tokens, isShowable token.offset = true := by
  induction tokens with
  | nil => simp [ofTokens, done]
  | cons token tokens ih =>
      rw [ofTokens, List.forall_mem_cons]
      split
      case isTrue shown => simpa [shown, behind] using ih
      case isFalse long => simp [long, broken]

end Listing

/-- A listing is written to its end if every offset can be shown. -/
theorem fault?_listing_eq_none_iff {tokens : List Token} :
    (listing tokens).fault? = none ↔ ∀ token ∈ tokens, isShowable token.offset = true := by
  rw [listing]
  cases last : tokens.getLast? with
  | none =>
      obtain rfl := List.getLast?_eq_none_iff.mp last
      simp [Listing.done]
  | some token =>
      dsimp only
      split
      case isTrue => exact Listing.fault?_ofTokens_eq_none_iff _
      case isFalse long =>
        refine iff_of_false (by simp [Listing.broken]) fun showable => ?_
        exact long (showable token (List.mem_of_getLast? last))

/-- The tokens of a source are listed to the end, unless the source has more characters than can be
counted with the digits that can be shown. -/
theorem fault?_listing_scan {source : Text}
    (short : source.length < Nat.pow 10 Text.maxNumeralDigits) :
    (listing (scan source)).fault? = none := by
  rw [fault?_listing_eq_none_iff]
  intro token member
  have covers := covers_scan source
  have first := covers.offset_le token member
  have last := covers.stop_le token member
  have within : token.offset.natAbs ≤ source.length := by
    rw [Token.stop] at last
    omega
  rw [isShowable, decide_eq_true_iff]
  exact Nat.lt_of_le_of_lt within short

end Token

end ModuleGrammar
