import Lexing.Proofs.Lexeme.Turn

/-!
# Turns in another context

A turn is decided by what stands in front of the text, but the recognizers look further: a name by
the character behind it, a symbol by all longer symbols. What a turn passes can be cut off from what
follows it and is still passed in the same way. It can then be put before white space, which goes on
with no lexeme but a blank or a comment.

## Main results

* `Lexeme.Turn.alone`: a turn that succeeds also does so at the end of a text
* `Lexeme.Turn.append`: white space behind a text changes no turn in it but a last one that is
  silent
* `Lexeme.Turn.append_break`: a line feed changes no turn but a blank at the end
-/

namespace Lexing.Lexeme.Turn

open Text Unicode

variable {span rest more : Text} {success : Success}

/-- A turn that succeeds would succeed in the same way if the text ended there. -/
theorem alone (turn : Turn span rest (.accepted success)) : Turn span [] (.accepted success) := by
  have ended : ∀ {kind : Char → Bool} {front : Text}, IsFront kind front rest →
      IsFront kind front [] := fun front => ⟨front.inside, by simp⟩
  cases turn with
  | blank some front => exact .blank some (ended front)
  | comment front => exact .comment (ended front)
  | literal proper => exact .literal proper
  | number some front apart => exact .number some (ended front) (by simp)
  | name start front => exact .name start (ended front)
  | @symbol found rest slashless first =>
    have starts : ∀ {piece : Text}, piece <+: found.text ++ [] → piece <+: found.text ++ rest := by
      intro piece there
      rw [List.append_nil] at there
      exact there.trans (List.prefix_append _ _)
    refine .symbol (fun slashes => slashless (starts slashes)) ?_
    apply Symbol.find?_of_forall_prefix first (List.prefix_append _ _)
    intro s _ there
    exact starts there

/-- What is put behind a text changes no turn in it, where that starts with white space and does not
meet the end of a blank or of a comment. -/
theorem append (turn : Turn span rest (.accepted success))
    (white : ∀ c ∈ more.head?, isWhiteSpace c = true) (apart : rest ≠ [] ∨ success.tags ≠ none) :
    Turn span (rest ++ more) (.accepted success) := by
  have outside : ∀ {kind : Char → Bool}, (∀ c, isWhiteSpace c = true → kind c = false) →
      ∀ c ∈ more.head?, kind c = false := fun dark c first => dark c (white c first)
  cases turn with
  | blank some front =>
    have left := apart.resolve_right (fun tagged => tagged rfl)
    exact .blank some (front.append fun none => absurd none left)
  | comment front =>
    have left := apart.resolve_right (fun tagged => tagged rfl)
    exact .comment (front.append fun none => absurd none left)
  | literal proper => exact .literal proper
  | number some front free =>
    refine .number some (front.append fun _ => outside ?_) (forall_head_append free fun _ =>
      outside ?_)
    · intro c white
      exact Name.not_isDigit_of_not_isPart (Name.not_isPart_of_isWhiteSpace white)
    · intro c white
      exact Name.not_isStart_of_not_isPart (Name.not_isPart_of_isWhiteSpace white)
  | name start front =>
    exact .name start (front.append fun _ => outside fun c => Name.not_isPart_of_isWhiteSpace)
  | @symbol found rest slashless first =>
    -- No symbol reaches into white space, and no two slashes do.
    have starts : ∀ {piece : Text}, (∀ c ∈ piece, isWhiteSpace c = false) →
        piece <+: found.text ++ (rest ++ more) → piece <+: found.text ++ rest := by
      intro piece dark there
      rw [← List.append_assoc] at there
      exact prefix_of_prefix_append dark white there
    have slash : isWhiteSpace '/' = false := by decide
    refine .symbol (fun slashes => slashless (starts (by simpa using slash) slashes)) ?_
    apply Symbol.find?_of_forall_prefix first (List.prefix_append _ _)
    intro s member there
    exact starts (Symbol.not_isWhiteSpace_of_mem member) there

/-- A line feed behind a text changes no turn in it, unless that is a blank at the end. -/
theorem append_break (turn : Turn span rest (.accepted success)) (more : Text) :
    Turn span (rest ++ '\n' :: more) (.accepted success) ∨
      rest = [] ∧ ∀ c ∈ span, isWhiteSpace c = true := by
  by_cases apart : rest ≠ [] ∨ success.tags ≠ none
  · exact .inl (turn.append (forall_head_cons (by decide) more) apart)
  · obtain ⟨ended, silent⟩ := not_or.1 apart
    rw [Decidable.not_not] at ended silent
    cases turn with
    | blank some front => exact .inr ⟨ended, front.inside⟩
    | comment front =>
      -- A comment ends where the line does.
      exact .inl (.comment (front.append fun _ => forall_head_cons (by decide) more))
    | literal | number | name | symbol => contradiction

end Lexing.Lexeme.Turn
