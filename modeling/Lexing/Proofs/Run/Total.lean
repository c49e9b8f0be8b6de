import Lexing.Proofs.Run.Turns

/-!
# Runs of the language go to the end

Lengths are counted by hand in each recognizer, in bytes of texts of any script. One that came out
wrong would be refused, and with it the whole text; one that came out as nothing would have the
round played for ever. So each outcome has to fit the text it was found in.

## Main definitions

* `Outcome.Fits`: what is claimed is some of the text, and a failure has something to report

## Main results

* `Lexeme.fits_of_mem_standard`: whatever the language finds fits the text
* `Cursor.complete_run_standard`: the language passes every text to its end
-/

namespace Lexing

open Text Unicode

/-- An outcome fits the text it was found in: it claims a piece at the front that is not empty, and
reports something if it is a failure. Only a recognizer that has no business with the text claims
nothing. -/
inductive Outcome.Fits (text : Text) : Outcome → Prop
  | none : Fits text .none
  | success {success : Success} {span rest : Text} (whole : text = span ++ rest)
      (some : span ≠ []) (length : success.claim.length = size span) : Fits text (.success success)
  | failure {failure : Failure} {span rest : Text} (whole : text = span ++ rest)
      (some : span ≠ []) (length : failure.claim.length = size span)
      (telling : failure.problems ≠ []) : Fits text (.failure failure)

namespace Lexeme

/-! ### Each recognizer -/

section Fits

variable (text : Text)

theorem fits_blank : (blank.run text).Fits text := by
  rcases blank_cases text with nothing | ⟨space, rest, whole, some, -, found⟩
  · rw [nothing]
    exact .none
  · rw [found]
    exact .success whole some rfl

theorem fits_comment : (comment.run text).Fits text := by
  rcases comment_cases text with nothing | ⟨body, rest, whole, -, found⟩
  · rw [nothing]
    exact .none
  · rw [found]
    exact .success whole (List.cons_ne_nil _ _) rfl

theorem fits_literal : (literal.run text).Fits text := by
  rcases literal_cases text with
    nothing | ⟨body, rest, whole, -, found⟩ | ⟨inside, rfl, broken, found⟩
  · rw [nothing]
    exact .none
  · rw [found]
    exact .success whole (List.cons_ne_nil _ _) rfl
  -- What is taken in and what is left make up the text.
  · have whole : '"' :: inside = '"' :: (Literal.divide inside).1 ++ (Literal.divide inside).2 := by
      rw [List.cons_append, Literal.divide_append]
    rw [found]
    exact .failure whole (List.cons_ne_nil _ _) rfl broken

theorem fits_number : (number.run text).Fits text := by
  rcases number_cases text with nothing | ⟨digits, rest, whole, some, -, found⟩ |
    ⟨digits, stray, rest, whole, some, -, -, found⟩
  · rw [nothing]
    exact .none
  · rw [found]
    exact .success whole some rfl
  · rw [found]
    exact .failure whole (List.append_ne_nil_of_left_ne_nil some stray) rfl (List.cons_ne_nil _ _)

theorem fits_name : (name.run text).Fits text := by
  rcases name_cases text with nothing | ⟨c, more, rest, whole, -, -, found⟩
  · rw [nothing]
    exact .none
  · rw [found]
    exact .success whole (List.cons_ne_nil _ _) rfl

theorem fits_symbol : (symbol.run text).Fits text := by
  rcases symbol_cases text with nothing | ⟨symbol, rest, whole, member, found⟩
  · rw [nothing]
    exact .none
  · rw [found]
    exact .success whole (Symbol.text_ne_nil member) rfl

/-- Whatever the language finds in a text fits it. -/
theorem fits_of_mem_standard {recognizer : Recognizer} (member : recognizer ∈ standard) :
    (recognizer.run text).Fits text := by
  simp only [standard, List.mem_cons, List.not_mem_nil, or_false] at member
  rcases member with rfl | rfl | rfl | rfl | rfl | rfl
  · exact fits_blank text
  · exact fits_comment text
  · exact fits_literal text
  · exact fits_number text
  · exact fits_name text
  · exact fits_symbol text

end Fits

end Lexeme

namespace Cursor

open Lexeme

/-- The language passes every text to its end, whatever the tab width, in at most one round for each
character: no claim is refused, and no round is played for ever. What makes it so is that whatever
one of its recognizers finds in a text fits it. -/
theorem complete_run_standard (file : String) (width : Int) (text : Text) :
    let run := (ofText file (.ofWidth width) text).run standard
    run.ending = .complete ∧ run.rounds.length ≤ text.length ∧ run.stop.atEnd = true ∧
      ∀ recognizer ∈ standard, ∀ piece, (recognizer.run piece).Fits piece := by
  intro run
  have turns : Turns (ofText file (.ofWidth width) text) run := turns_run _
  have rounds : run.rounds.length + run.stop.ahead.length ≤ text.length :=
    turns.plays.length_rounds_le
  refine ⟨turns.ending_eq, Nat.le_of_add_right_le rounds, atEnd_iff.2 turns.ahead_stop, ?_⟩
  intro recognizer member piece
  exact fits_of_mem_standard piece member

end Cursor

end Lexing
