import Lexing.Proofs.Lexeme.Claims
import Lexing.Proofs.Run.Plays

/-!
# Runs of the language, turn by turn

The recognizers of the language claim what stands there and never nothing. So no round is refused
and none stands still, and a run is a list of turns that ends where the text does.

## Main definitions

* `Cursor.Turns`: the run of the language from a cursor, turn by turn

## Main results

* `Cursor.turns_run`: every run of the language goes turn by turn
* `Cursor.Turns.ending_eq`, `Cursor.Turns.ahead_stop`: it passes everything
* `Cursor.run_of_turn`: the run from a cursor, one turn at a time
-/

namespace Lexing

open Text

namespace Lexeme.Turn

variable {span rest : Text} {verdict : Verdict} {cursor : Cursor}

/-- A turn that stands at a cursor is what the round there plays. -/
theorem round_eq (turn : Turn span rest verdict) (ahead : cursor.ahead = span ++ rest) :
    cursor.round standard = .ok (cursor.played verdict span rest) := by
  have decided : Recognizer.judge standard cursor.ahead = verdict := by
    rw [ahead]
    exact judge_of_turn turn
  exact Cursor.round_of_fits ahead decided (turn.size_span ahead)

/-- A turn moves the offset. -/
theorem offset_lt (turn : Turn span rest verdict) :
    cursor.position.offset < (cursor.played verdict span rest).next.position.offset :=
  Cursor.offset_lt_played_iff.2 turn.span_ne_nil

end Lexeme.Turn

namespace Cursor

open Lexeme

/-- The run of the language from a cursor, turn by turn. -/
inductive Turns : Cursor → Run → Prop
  | complete {cursor : Cursor} (done : cursor.ahead = []) : Turns cursor ⟨[], .complete, cursor⟩
  | after {cursor : Cursor} {span rest : Text} {verdict : Verdict} {run : Run}
      (ahead : cursor.ahead = span ++ rest) (turn : Turn span rest verdict)
      (later : Turns (cursor.beyond (verdict.claim cursor) span rest) run) :
      Turns cursor (run.after (cursor.played verdict span rest))

/-- Whatever lies ahead, the round there is a turn. -/
theorem exists_turn_round {cursor : Cursor} (more : cursor.ahead ≠ []) :
    ∃ span rest verdict, cursor.ahead = span ++ rest ∧ Turn span rest verdict ∧
      cursor.round standard = .ok (cursor.played verdict span rest) := by
  obtain ⟨span, rest, verdict, ahead, turn⟩ := exists_turn more
  exact ⟨span, rest, verdict, ahead, turn, turn.round_eq ahead⟩

/-- No round of the language is refused or stands still, so its runs go turn by turn. -/
theorem Plays.turns {cursor : Cursor} {run : Run} (plays : Plays standard cursor run) :
    Turns cursor run := by
  induction plays with
  | complete done => exact .complete done
  | refused more ran =>
    obtain ⟨span, rest, verdict, ahead, turn, played⟩ := exists_turn_round more
    rw [ran] at played
    contradiction
  | endless more ran still =>
    obtain ⟨span, rest, verdict, ahead, turn, played⟩ := exists_turn_round more
    rw [ran, Except.ok.injEq] at played
    -- The round is a turn, and a turn moves the offset.
    rw [played] at still
    exact absurd turn.offset_lt still
  | after more ran moved later ih =>
    obtain ⟨span, rest, verdict, ahead, turn, played⟩ := exists_turn_round more
    rw [ran, Except.ok.injEq] at played
    subst played
    exact .after ahead turn ih

/-- Every run of the language goes turn by turn. -/
theorem turns_run (cursor : Cursor) : Turns cursor (cursor.run standard) :=
  (plays_run standard cursor).turns

namespace Turns

variable {cursor : Cursor} {run : Run}

theorem ending_eq (turns : Turns cursor run) : run.ending = .complete := by
  induction turns with
  | complete done => rfl
  | after ahead turn later ih => exact ih

/-- Nothing lies ahead where a run of the language stops. -/
theorem ahead_stop (turns : Turns cursor run) : run.stop.ahead = [] := by
  induction turns with
  | complete done => exact done
  | after ahead turn later ih => exact ih

/-- A run of the language moves the offset by all that lies ahead. -/
theorem offset_stop (turns : Turns cursor run) :
    run.stop.position.offset = cursor.position.offset + size cursor.ahead := by
  induction turns with
  | complete done => simp [done]
  | after ahead turn later ih =>
    rw [position_beyond, Position.offset_past, ahead_beyond] at ih
    rw [Run.stop_after, ih, ahead, size_append, Nat.add_assoc]

/-- What goes turn by turn is played round by round. -/
theorem plays (turns : Turns cursor run) : Plays standard cursor run := by
  induction turns with
  | complete done => exact .complete done
  | @after cursor span rest verdict run ahead turn later ih =>
    have more : cursor.ahead ≠ [] := by
      rw [ahead]
      exact List.append_ne_nil_of_left_ne_nil turn.span_ne_nil rest
    exact .after more (turn.round_eq ahead) turn.offset_lt ih

end Turns

/-- The run from a cursor is the turn there and the run from behind it. -/
theorem run_of_turn {cursor : Cursor} {span rest : Text} {verdict : Verdict}
    (ahead : cursor.ahead = span ++ rest) (turn : Turn span rest verdict) :
    cursor.run standard = ((cursor.beyond (verdict.claim cursor) span rest).run standard).after
      (cursor.played verdict span rest) :=
  (Turns.after ahead turn (turns_run _)).plays.run_eq

theorem run_of_ahead_eq_nil {cursor : Cursor} (done : cursor.ahead = []) :
    cursor.run standard = ⟨[], .complete, cursor⟩ :=
  (Turns.complete done).plays.run_eq

/-- White space ahead, if there is any, moves the cursor and adds nothing to the run. -/
theorem run_of_blank {cursor : Cursor} {space rest : Text} (ahead : cursor.ahead = space ++ rest)
    (front : IsFront Unicode.isWhiteSpace space rest) :
    let run := cursor.run standard
    let next := (cursor.beyond ⟨size space, hasBreak space, true⟩ space rest).run standard
    run.tokens = next.tokens ∧ run.diagnostics = next.diagnostics ∧ run.stop = next.stop := by
  intro run next
  by_cases some : space = []
  · -- Behind nothing the cursor stands where it stood.
    subst some
    have still : cursor.beyond ⟨size [], hasBreak [], true⟩ [] rest = cursor := by
      rw [List.nil_append] at ahead
      simp [beyond, ← ahead]
    have same : next = run := congrArg (Cursor.run standard) still
    rw [same]
    exact ⟨rfl, rfl, rfl⟩
  · have split : run = next.after _ := run_of_turn ahead (.blank some front)
    rw [split, Run.tokens_after, Run.diagnostics_after, Run.stop_after]
    exact ⟨rfl, rfl, rfl⟩

end Cursor

end Lexing
