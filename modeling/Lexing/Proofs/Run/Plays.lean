import Lexing.Proofs.Round.Played
import Lexing.Run

/-!
# Runs, round by round

The rounds of a run are collected from the front, so a run does not show that it is a first round
and the run from where that leads. Here it does, and every run is one of four: it ends at once, in
one of three ways, or it plays a round and goes on.

## Main definitions

* `Run.after`: a run after one more round
* `Cursor.Plays`: the run from a cursor, round by round

## Main results

* `Cursor.plays_run`, `Cursor.Plays.run_eq`: what `Cursor.run` computes is the one run from the
  cursor
* `Cursor.Plays.rounds_induction`: what holds of every run, from its last round to its first
* `Cursor.Plays.exists_played_of_mem`: every round of a run is played over a span
* `Cursor.Plays.length_rounds_le`: every round of a run passes a character at least
* `Cursor.Plays.ahead_stop_of_complete`: a run is complete only where nothing is left
-/

namespace Lexing

/-- A run with one more round before it. -/
def Run.after (round : Round) (run : Run) : Run := { run with rounds := round :: run.rounds }

section Fields

variable (round : Round) (run : Run)

@[simp] theorem Run.rounds_after : (run.after round).rounds = round :: run.rounds := rfl

@[simp] theorem Run.ending_after : (run.after round).ending = run.ending := rfl

@[simp] theorem Run.stop_after : (run.after round).stop = run.stop := rfl

theorem Run.tokens_after : (run.after round).tokens = round.token.toList ++ run.tokens := by
  unfold tokens
  rw [rounds_after, List.filterMap_cons]
  cases round.token <;> rfl

theorem Run.diagnostics_after :
    (run.after round).diagnostics = round.diagnostics ++ run.diagnostics := rfl

end Fields

namespace Cursor

/-- The run from a cursor, round by round. -/
inductive Plays (recognizers : List Recognizer) : Cursor → Run → Prop
  /-- Nothing is left. -/
  | complete {cursor : Cursor} (done : cursor.ahead = []) :
      Plays recognizers cursor ⟨[], .complete, cursor⟩
  /-- The round at the cursor is refused. -/
  | refused {cursor : Cursor} {error : ClaimError} (more : cursor.ahead ≠ [])
      (ran : cursor.round recognizers = .error error) :
      Plays recognizers cursor ⟨[], .refused error, cursor⟩
  /-- The round at the cursor passes nothing. -/
  | endless {cursor : Cursor} {round : Round} (more : cursor.ahead ≠ [])
      (ran : cursor.round recognizers = .ok round)
      (still : ¬ cursor.position.offset < round.next.position.offset) :
      Plays recognizers cursor ⟨[], .endless, cursor⟩
  /-- The round at the cursor passes something, and a run goes on from where it leads. -/
  | after {cursor : Cursor} {round : Round} {run : Run} (more : cursor.ahead ≠ [])
      (ran : cursor.round recognizers = .ok round)
      (moved : cursor.position.offset < round.next.position.offset)
      (later : Plays recognizers round.next run) :
      Plays recognizers cursor (run.after round)

theorem atEnd_iff {cursor : Cursor} : cursor.atEnd = true ↔ cursor.ahead = [] := List.isEmpty_iff

/-- The rounds played before only stand in front of the rounds to come. -/
theorem plays_runAfter (recognizers : List Recognizer) (rounds : List Round) (cursor : Cursor) :
    ∃ run, Plays recognizers cursor run ∧
      runAfter recognizers rounds cursor = { run with rounds := rounds.reverse ++ run.rounds } := by
  unfold runAfter
  split
  · next done =>
    exact ⟨_, .complete (atEnd_iff.1 done), by simp⟩
  · next left =>
    have more : cursor.ahead ≠ [] := fun done => left (atEnd_iff.2 done)
    split
    · next refused ran =>
      exact ⟨_, .refused more ran, by simp⟩
    -- The round itself is the last that was played before those to come.
    · next round ran =>
      split
      · next moved =>
        -- Fewer characters lie ahead of the round's end.
        have shorter := length_ahead_lt_of_round ran moved
        obtain ⟨run, later, whole⟩ := plays_runAfter recognizers (round :: rounds) round.next
        refine ⟨run.after round, .after more ran moved later, ?_⟩
        rw [whole, Run.rounds_after, List.reverse_cons, List.append_assoc]
        rfl
      · next still =>
        exact ⟨_, .endless more ran still, by simp⟩
termination_by cursor.ahead.length

/-- The run that is computed is the run from the cursor, round by round. -/
theorem plays_run (recognizers : List Recognizer) (cursor : Cursor) :
    Plays recognizers cursor (cursor.run recognizers) := by
  obtain ⟨run, plays, whole⟩ := plays_runAfter recognizers [] cursor
  rw [Cursor.run, whole]
  exact plays

/-- A cursor plays one run only. -/
theorem Plays.unique {recognizers : List Recognizer} {cursor : Cursor} {run other : Run}
    (plays : Plays recognizers cursor run) (also : Plays recognizers cursor other) :
    run = other := by
  -- A round is a function of the cursor, so each way to go on excludes the others.
  induction plays generalizing other with
  | complete done =>
    cases also with
    | complete => rfl
    | refused more | endless more | after more => contradiction
  | refused more ran =>
    cases also with
    | complete done => contradiction
    | refused _ ran' =>
      rw [ran, Except.error.injEq] at ran'
      rw [ran']
    | endless _ ran' | after _ ran' =>
      rw [ran] at ran'
      contradiction
  | endless more ran still =>
    cases also with
    | complete done => contradiction
    | refused _ ran' =>
      rw [ran] at ran'
      contradiction
    | endless => rfl
    | after _ ran' moved =>
      rw [ran, Except.ok.injEq] at ran'
      rw [ran'] at still
      contradiction
  | after more ran moved later ih =>
    cases also with
    | complete done => contradiction
    | refused _ ran' =>
      rw [ran] at ran'
      contradiction
    | endless _ ran' still =>
      rw [ran, Except.ok.injEq] at ran'
      rw [ran'] at moved
      contradiction
    | after _ ran' _ later' =>
      rw [ran, Except.ok.injEq] at ran'
      subst ran'
      rw [ih later']

/-- A run that is played round by round is the one that is computed. -/
theorem Plays.run_eq {recognizers : List Recognizer} {cursor : Cursor} {run : Run}
    (plays : Plays recognizers cursor run) : cursor.run recognizers = run :=
  (plays_run recognizers cursor).unique plays

/-- Why a run stops does not matter to what its rounds do: each is played over a span that is not
empty, and the run goes on behind that. -/
@[elab_as_elim]
theorem Plays.rounds_induction {recognizers : List Recognizer}
    {motive : ∀ cursor run, Plays recognizers cursor run → Prop}
    (stop : ∀ cursor ending plays, motive cursor ⟨[], ending, cursor⟩ plays)
    (after : ∀ cursor verdict span rest run plays,
      Recognizer.judge recognizers cursor.ahead = verdict → cursor.ahead = span ++ rest →
      span ≠ [] → Text.size span = (verdict.claim cursor).length →
      ∀ later, motive (cursor.beyond (verdict.claim cursor) span rest) run later →
      motive cursor (run.after (cursor.played verdict span rest)) plays)
    {cursor : Cursor} {run : Run} (plays : Plays recognizers cursor run) :
    motive cursor run plays := by
  induction plays with
  | complete done => exact stop _ _ _
  | refused more ran => exact stop _ _ _
  | endless more ran still => exact stop _ _ _
  | after more ran moved later ih =>
    obtain ⟨verdict, span, rest, decided, ahead, fits, rfl⟩ := exists_played_of_round ran
    exact after _ _ _ _ _ _ decided ahead (offset_lt_played_iff.1 moved) fits later ih

/-- Every round of a run passes a character at least. -/
theorem Plays.length_rounds_le {recognizers : List Recognizer} {cursor : Cursor} {run : Run}
    (plays : Plays recognizers cursor run) :
    run.rounds.length + run.stop.ahead.length ≤ cursor.ahead.length := by
  induction plays using rounds_induction with
  | stop => simp
  | after cursor verdict span rest run plays decided ahead some fits later ih =>
    have positive := List.length_pos_iff.2 some
    rw [ahead_beyond] at ih
    rw [Run.rounds_after, Run.stop_after, ahead, List.length_cons, List.length_append]
    omega

/-- Every round of a run is played over a span that lies ahead where it starts. -/
theorem Plays.exists_played_of_mem {recognizers : List Recognizer} {cursor : Cursor} {run : Run}
    (plays : Plays recognizers cursor run) : ∀ round ∈ run.rounds, ∃ start verdict span rest,
      start.ahead = span ++ rest ∧ round = played start verdict span rest := by
  induction plays using rounds_induction with
  | stop => simp
  | after cursor verdict span rest run plays decided ahead some fits later ih =>
    rw [Run.rounds_after]
    exact List.forall_mem_cons.2 ⟨⟨cursor, verdict, span, rest, ahead, rfl⟩, ih⟩

/-- A run is complete only where nothing is left. -/
theorem Plays.ahead_stop_of_complete {recognizers : List Recognizer} {cursor : Cursor} {run : Run}
    (plays : Plays recognizers cursor run) (complete : run.ending = .complete) :
    run.stop.ahead = [] := by
  induction plays with
  | complete done => exact done
  | refused => contradiction
  | endless => contradiction
  | after more ran moved later ih => exact ih complete

end Cursor

end Lexing
