import Lexing.Proofs.Lexeme.Outcomes
import Lexing.Proofs.Text.Boundary

/-!
# Claims that tell the truth

The flags of a claim are taken at their word, so a cursor is wrong about its position only where a
claim was. A claim is truthful if it announces the breaks and the tabs of the span it covers, and
cuts no pair. In the language only that of a literal need not be.

## Main definitions

* `Claim.Truthful`: what a claim tells of a span is so
* `Recognizer.Truthful`: whatever a recognizer claims is claimed truthfully

## Main results

* `Recognizer.truthful_of_cases`: what it takes for a recognizer to be truthful
* `Lexeme.truthful_blank`, `Lexeme.truthful_comment`, `Lexeme.truthful_number`,
  `Lexeme.truthful_name`, `Lexeme.truthful_symbol`: the recognizers of the language that are
-/

namespace Lexing

open Text Unicode

/-- What a claim tells of the span it covers is so, and it leaves pairs alone. -/
structure Claim.Truthful (claim : Claim) (span rest : Text) : Prop where
  multiline : claim.multiline = hasBreak span
  tabs : '\t' ∈ span → claim.tabs = true
  whole : ¬ Splits span rest

/-- Of a span without breaks and tabs there is nothing to tell. -/
theorem Claim.truthful_of_plain {claim : Claim} {span : Text} (down : claim.multiline = false)
    (plain : ∀ c ∈ span, c ≠ '\t' ∧ isBreak c = false) (rest : Text) :
    claim.Truthful span rest where
  multiline := by rw [down, not_hasBreak_of_forall fun c inside => (plain c inside).2]
  tabs inside := absurd rfl (plain _ inside).1
  whole := not_splits_of_forall (fun c inside => (plain c inside).2) rest

namespace Recognizer

/-- Whatever the recognizer claims of a text, if it is not nothing and fits, is claimed truthfully.
-/
def Truthful (recognizer : Recognizer) : Prop :=
  ∀ span rest : Text, span ≠ [] → (recognizer.run (span ++ rest)).claim.length = size span →
    (recognizer.run (span ++ rest)).claim.Truthful span rest

/-- A recognizer is truthful if it claims nothing, or claims a piece at the front truthfully. -/
theorem truthful_of_cases {recognizer : Recognizer}
    (cases : ∀ text, (recognizer.run text).claim.length = 0 ∨ ∃ piece left, text = piece ++ left ∧
      (recognizer.run text).claim.length = size piece ∧
      (recognizer.run text).claim.Truthful piece left) : recognizer.Truthful := by
  intro span rest some fits
  rcases cases (span ++ rest) with nothing | ⟨piece, left, whole, length, truthful⟩
  · rw [nothing] at fits
    exact absurd (size_eq_zero_iff.1 fits.symm) some
  -- The piece ends where the span does, so it is the span.
  · obtain ⟨rfl, rfl⟩ := append_inj_of_size whole (fits.symm.trans length)
    exact truthful

end Recognizer

/-! ### The recognizers of the language -/

namespace Lexeme

/-- Digits and what belongs to a name are neither breaks nor tabs. -/
theorem plain_of_isPart {span : Text} (part : ∀ c ∈ span, Name.isPart c = true) :
    ∀ c ∈ span, c ≠ '\t' ∧ isBreak c = false := fun c inside =>
  ⟨Name.ne_tab_of_isPart (part c inside), Name.not_isBreak_of_isPart (part c inside)⟩

theorem truthful_blank : blank.Truthful := by
  refine Recognizer.truthful_of_cases fun text => ?_
  rcases blank_cases text with nothing | ⟨space, rest, whole, -, front, found⟩
  · exact .inl (by rw [nothing]; rfl)
  · rw [found]
    exact .inr ⟨space, rest, whole, rfl, rfl, fun _ => rfl, not_splits_blank front⟩

theorem truthful_comment : comment.Truthful := by
  refine Recognizer.truthful_of_cases fun text => ?_
  rcases comment_cases text with nothing | ⟨body, rest, whole, front, found⟩
  · exact .inl (by rw [nothing]; rfl)
  · have plain := not_isBreak_of_mem_comment front
    rw [found]
    exact .inr ⟨_, rest, whole, rfl, (not_hasBreak_of_forall plain).symm, fun _ => rfl,
      not_splits_of_forall plain rest⟩

theorem truthful_number : number.Truthful := by
  refine Recognizer.truthful_of_cases fun text => ?_
  rcases number_cases text with nothing | ⟨digits, rest, whole, -, front, found⟩ |
    ⟨digits, stray, rest, whole, -, digit, front, found⟩
  · exact .inl (by rw [nothing]; rfl)
  · rw [found]
    have part := fun c inside => Name.isPart_of_isDigit (front.inside c inside)
    exact .inr ⟨digits, rest, whole, rfl, Claim.truthful_of_plain rfl (plain_of_isPart part) rest⟩
  · rw [found]
    have part := List.forall_mem_append.2
      ⟨fun c inside => Name.isPart_of_isDigit (digit c inside), front.inside⟩
    exact .inr ⟨_, rest, whole, rfl, Claim.truthful_of_plain rfl (plain_of_isPart part) rest⟩

theorem truthful_name : name.Truthful := by
  refine Recognizer.truthful_of_cases fun text => ?_
  rcases name_cases text with nothing | ⟨c, more, rest, whole, -, front, found⟩
  · exact .inl (by rw [nothing]; rfl)
  · rw [found]
    exact .inr ⟨_, rest, whole, rfl,
      Claim.truthful_of_plain rfl (plain_of_isPart front.inside) rest⟩

theorem truthful_symbol : symbol.Truthful := by
  refine Recognizer.truthful_of_cases fun text => ?_
  rcases symbol_cases text with nothing | ⟨symbol, rest, whole, member, found⟩
  · exact .inl (by rw [nothing]; rfl)
  · rw [found]
    exact .inr ⟨_, rest, whole, rfl,
      Claim.truthful_of_plain rfl (Symbol.plain_of_mem member) rest⟩

end Lexeme

end Lexing
