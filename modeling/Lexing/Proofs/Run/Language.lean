import Lexing.Proofs.Lexeme.Grammar
import Lexing.Proofs.Run.Turns

/-!
# The texts that a run accepts

A run without diagnostics shows a cut of its text: its spans. The converse is about texts whose cut
is not the one that the run finds. A run takes as much as it can in every turn, and never so much
that what is left could not be cut, so it never comes to a turn that fails.

## Main results

* `Cursor.Turns.cuts`: a run without diagnostics has cut its text
* `Lexeme.Turn.accepted_of_cuts`: where a text can be cut, the turn there succeeds, and so can the
  rest
* `Cursor.diagnostics_run_eq_nil_iff`: the run of a text has no diagnostics if and only if the text
  can be cut
-/

namespace Lexing

open Text Unicode

namespace Lexeme.Turn

variable {span rest : Text} {verdict : Verdict}

/-- A turn that succeeds passes a piece. -/
theorem piece {success : Success} (turn : Turn span rest (.accepted success)) :
    Piece span rest := by
  cases turn with
  | blank some front => exact .blank some front.inside
  | comment front => exact .comment (by simpa using front.inside)
  | literal proper => exact .literal proper
  | number some front apart => exact .number some front.inside apart
  | name start front =>
    exact .name start fun d inside => front.inside d (List.mem_cons_of_mem _ inside)
  | symbol slashless first => exact .symbol (List.mem_of_find?_eq_some first)

/-- A text that can be cut starts with a literal only if that is closed and has no problems. -/
theorem exists_body_of_cuts {text : Text} (cuts : Cuts ('"' :: text)) :
    ∃ body rest, Literal.Body body ∧ text = body ++ '"' :: rest ∧ Cuts rest := by
  obtain ⟨piece, rest, whole, first, later⟩ := cuts.exists_piece (by simp)
  have head := head_of_cons_eq_append whole first.ne_nil
  obtain ⟨body, proper, rfl⟩ := first.literal_of_head head
  exact ⟨body, rest, proper, by simpa using whole, later⟩

/-- Where a text can be cut, the turn there succeeds, and what it leaves can be cut again. -/
theorem accepted_of_cuts (turn : Turn span rest verdict) (cuts : Cuts (span ++ rest)) :
    (∃ success, verdict = .accepted success) ∧ Cuts rest := by
  cases turn with
  | blank some front =>
    exact ⟨⟨_, rfl⟩, (cuts.behind_front Piece.white_of_head front some).1⟩
  | comment front =>
    -- A comment stops at a break or at the end of the text.
    have stop : ∀ c ∈ rest.head?, isBreak c = true := by
      intro c first
      simpa using front.stops c first
    exact ⟨⟨_, rfl⟩, cuts.behind_break stop⟩
  | @literal body rest proper =>
    obtain ⟨other, left, also, same, later⟩ := exists_body_of_cuts (by simpa using cuts)
    -- A text has only one literal at its front.
    have divided := Literal.divide_body proper rest
    rw [show body ++ '"' :: rest = other ++ '"' :: left by simpa using same,
      Literal.divide_body also left] at divided
    obtain rfl : left = rest := (Prod.mk.inj divided).2
    exact ⟨⟨_, rfl⟩, later⟩
  | @brokenLiteral text broken =>
    rw [List.cons_append, Literal.divide_append] at cuts
    obtain ⟨body, left, proper, rfl, later⟩ := exists_body_of_cuts cuts
    rw [Literal.read_body proper] at broken
    exact absurd rfl broken
  | number some front apart => exact ⟨⟨_, rfl⟩, (cuts.behind_digits front some).1⟩
  | @strayNumber digits stray rest some digit front joined =>
    rw [List.append_assoc] at cuts
    -- The last number before the name would have to be apart from it.
    have stops := isFront_digits_of_stray digit joined rest
    have apart := (cuts.behind_digits stops some).2
    obtain ⟨c, first, start⟩ := joined
    rw [apart c (by simp [List.head?_append, Option.mem_def.1 first])] at start
    contradiction
  | name start front =>
    exact ⟨⟨_, rfl⟩, (cuts.behind_front Piece.part_of_head front (by simp)).1⟩
  | symbol slashless first => exact ⟨⟨_, rfl⟩, cuts.behind_symbol slashless first⟩
  | @unexpected c rest dark quoteless digitless startless missing =>
    obtain ⟨symbol, member, left, whole, -⟩ := cuts.exists_symbol dark quoteless digitless startless
      (not_slashes_of_not_symbol missing)
    exact absurd ⟨left, whole.symm⟩ (missing symbol member)

end Lexeme.Turn

namespace Cursor

open Lexeme

variable {cursor : Cursor} {run : Run}

/-- A run without diagnostics has cut what lay ahead into its spans. -/
theorem Turns.cuts (turns : Turns cursor run) (silent : run.diagnostics = []) :
    Cuts cursor.ahead := by
  induction turns with
  | complete done =>
    rw [done]
    exact .nil
  | after ahead turn later ih =>
    rw [Run.diagnostics_after] at silent
    obtain ⟨here, there⟩ := List.append_eq_nil_iff.1 silent
    obtain ⟨success, rfl⟩ := turn.exists_accepted here
    rw [ahead]
    exact .cons turn.piece (ih there)

/-- A run over what can be cut comes to no turn that fails. -/
theorem Turns.diagnostics_eq_nil (turns : Turns cursor run) (cuts : Cuts cursor.ahead) :
    run.diagnostics = [] := by
  induction turns with
  | complete done => rfl
  | after ahead turn later ih =>
    rw [ahead] at cuts
    obtain ⟨⟨success, rfl⟩, rest⟩ := turn.accepted_of_cuts cuts
    rw [Run.diagnostics_after, ih rest]
    rfl

/-- The language passes every text to its end, and reports nothing if and only if the text can be
cut into lexemes in some way, which need not be the way the run goes. -/
theorem diagnostics_run_eq_nil_iff (file : String) (rule : TabRule) (text : Text) :
    let run := (ofText file rule text).run standard
    run.ending = .complete ∧ (run.diagnostics = [] ↔ Cuts text) := by
  intro run
  have turns : Turns (ofText file rule text) run := turns_run _
  refine ⟨turns.ending_eq, ?_, ?_⟩
  · intro silent
    exact turns.cuts silent
  · intro cuts
    exact turns.diagnostics_eq_nil cuts

end Cursor

end Lexing
