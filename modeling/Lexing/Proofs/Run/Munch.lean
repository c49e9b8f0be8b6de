import Lexing.Proofs.Lexeme.Kind
import Lexing.Proofs.Round.Decides
import Lexing.Proofs.Run.Parts

/-!
# Runs that take the longest lexeme

A round goes to the first recognizer that succeeds, and no round looks whether a later one could
have taken more. In the language none could: what such a round passes is the longest lexeme at the
front of what lies ahead, of whatever kind, and its kind is that of the recognizer that took it.

## Main results

* `Lexeme.Turn.exists_winner`: the turn of a success is a lexeme of the kind whose recognizer is the
  first to succeed
* `Cursor.longest_of_accepted`: every round that a success wins passes the longest lexeme there is
-/

namespace Lexing

open Text

namespace Lexeme

/-- The turn of a success is a lexeme of the kind whose recognizer is the first to succeed. -/
theorem Turn.exists_winner {span rest : Text} {success : Success}
    (turn : Turn span rest (.accepted success)) (length : size span = success.claim.length) :
    ∃ kind before after, IsLexeme kind span ∧ standard = before ++ Kind.recognizer kind :: after ∧
      kind.recognizer.run (span ++ rest) = .success success ∧
      ∀ earlier ∈ before, ∃ failure, earlier.run (span ++ rest) = .failure failure := by
  have decides := Recognizer.judge_eq_iff.1 (judge_of_turn turn)
  obtain @⟨before, after, recognizer, _, split, ran, failed⟩ := decides
  have member : recognizer ∈ standard := by simp [split]
  obtain ⟨kind, rfl⟩ := exists_kind_of_mem member
  obtain ⟨piece, left, whole, lexeme, claimed⟩ := exists_isLexeme_of_success ran
  -- What the recognizer has found is as long as the turn, so it is the turn.
  obtain ⟨rfl, -⟩ := append_inj_of_size whole (length.trans claimed.symm)
  exact ⟨kind, before, after, lexeme, split, ran, failed⟩

end Lexeme

namespace Cursor

open Lexeme

/-- Every round of the language that a success wins passes the longest lexeme at the front of what
lies ahead: every lexeme that stands there is a front of what is passed. That is a lexeme of one
kind only, and the recognizer of this kind is the first that succeeds. The table of symbols is
sorted by their size, and so the first symbol found in it is the longest one that starts a text. -/
theorem longest_of_accepted (file : String) (rule : TabRule) (text : Text) {round : Round}
    (inside : round ∈ ((ofText file rule text).run standard).rounds) {success : Success}
    (won : round.verdict = .accepted success) :
    let ahead := round.start.ahead
    ahead = round.span ++ round.next.ahead ∧
    (∀ kind piece, IsLexeme kind piece → piece <+: ahead → piece <+: round.span) ∧
    (∃ kind before after, IsLexeme kind round.span ∧
      (∀ other, IsLexeme other round.span → other = kind) ∧
      standard = before ++ kind.recognizer :: after ∧
      kind.recognizer.run ahead = .success success ∧
      ∀ earlier ∈ before, ∃ failure, earlier.run ahead = .failure failure) ∧
    Symbol.all.mergeSort Symbol.longerFirst = Symbol.all ∧
    ∀ text symbol, Symbol.all.find? (·.text.isPrefixOf text) = some symbol →
      ∀ other ∈ Symbol.all, other.text <+: text → other.text <+: symbol.text := by
  have turns : Turns (ofText file rule text) _ := turns_run _
  obtain ⟨start, span, rest, verdict, -, -, ahead, turn, rfl⟩ :=
    turns.exists_turn_of_mem (aligned_ofText file rule text) round inside
  obtain rfl : verdict = .accepted success := won
  have passed := @span_played start (.accepted success) span rest ahead
  obtain ⟨kind, before, after, lexeme, split, ran, failed⟩ :=
    turn.exists_winner (turn.size_span ahead)
  rw [← ahead] at ran failed
  intro front
  rw [passed]
  refine ⟨ahead, ?_, ⟨kind, before, after, lexeme, fun other also => lexeme.unique also, split, ran,
    failed⟩, Symbol.mergeSort_all, ?_⟩
  · intro kind piece also there
    have whole : front = span ++ rest := ahead
    rw [whole] at there
    exact turn.longest also there
  · intro text symbol found
    rw [← Symbol.mergeSort_all] at found
    exact Symbol.longest_of_find?_mergeSort found

/-- An arrow is passed as a whole, though a minus stands at the front as well. The comment behind it
is not part of any lexeme that starts with these. -/
theorem longest_of_accepted_arrow :
    let cursor := ofText "file" .one ['-', '>', '/', '/', 'x']
    let arrow := cursor.played (.accepted (.tagged 2 ["punctuation", "arrow"])) ['-', '>']
      ['/', '/', 'x']
    arrow ∈ (cursor.run standard).rounds ∧
    arrow.verdict = .accepted (.tagged 2 ["punctuation", "arrow"]) ∧
    IsLexeme .symbol ['-'] ∧ ['-'] <+: arrow.span ∧
    (∀ kind piece, IsLexeme kind piece → piece <+: arrow.start.ahead → piece <+: arrow.span) ∧
    Kind.symbol.recognizer.run arrow.start.ahead =
      .success (.tagged 2 ["punctuation", "arrow"]) := by
  intro cursor arrow
  have ahead : cursor.ahead = ['-', '>'] ++ ['/', '/', 'x'] := rfl
  have turn : Turn ['-', '>'] ['/', '/', 'x']
      (.accepted (.tagged 2 ["punctuation", "arrow"])) :=
    @Turn.symbol ⟨['-', '>'], .arrow⟩ _ (by decide) (by decide)
  have inside : arrow ∈ (cursor.run standard).rounds := by
    rw [run_of_turn ahead turn]
    exact List.mem_cons_self
  have minus : IsLexeme .symbol ['-'] := .symbol (by decide : ⟨['-'], .operator⟩ ∈ Symbol.all)
  obtain ⟨-, longest, -⟩ := longest_of_accepted "file" .one _ inside rfl
  exact ⟨inside, rfl, minus, longest _ _ minus ⟨_, rfl⟩, longest, by decide⟩

end Cursor

end Lexing
