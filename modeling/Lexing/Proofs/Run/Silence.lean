import Lexing.Proofs.Round.Decides
import Lexing.Proofs.Run.Spans

/-!
# What a run passes without a word

A round that no success wins should report something, so that a text without diagnostics is one in
which every byte was recognized. What a round passes and what it reports are told by different
parts of one failure, and a failure that got furthest may claim a piece of the text and name no
problem. Then the piece is passed in silence, even where a failure that got less far had something
to report. Nothing else is.

## Main definitions

* `Round.Won`: a success decided the round
* `Run.Outspoken`: each failure that got furthest in a round of the run names a problem

## Main results

* `Cursor.Plays.silent_iff`: which rounds pass something in silence
* `Cursor.rounds_report_iff`: a run has no such round if and only if it is outspoken
* `Cursor.text_passed_in_silence`: a text may be passed without a token and without a diagnostic
-/

namespace Lexing

open Recognizer

/-- Whether a success decided the round. -/
def Round.Won (round : Round) : Prop := ∃ success, round.verdict = .accepted success

/-- Whether each failure that got furthest in a round of the run names a problem. -/
def Run.Outspoken (recognizers : List Recognizer) (run : Run) : Prop :=
  ∀ round ∈ run.rounds, ∀ failure,
    Furthest round.start.ahead recognizers (some failure) → failure.problems ≠ []

namespace Cursor

namespace Plays

variable {recognizers : List Recognizer} {cursor : Cursor} {run : Run}

/-- The verdict of each round is that of the recognizers on what lies ahead, and so are its
diagnostics. -/
theorem judge_of_mem (plays : Plays recognizers cursor run) : ∀ round ∈ run.rounds,
    judge recognizers round.start.ahead = round.verdict ∧
      round.diagnostics = round.verdict.diagnostics round.start := by
  induction plays using rounds_induction with
  | stop => simp
  | after cursor verdict span rest run plays decided ahead some fits later ih =>
    rw [Run.rounds_after]
    exact List.forall_mem_cons.2 ⟨⟨decided, rfl⟩, ih⟩

/-- A round that is not won reports nothing exactly if the failure that got furthest names no
problem. -/
theorem silent_iff (plays : Plays recognizers cursor run) {round : Round}
    (member : round ∈ run.rounds) : ¬ round.Won ∧ round.diagnostics = [] ↔
      ∃ failure, Furthest round.start.ahead recognizers (some failure) ∧ failure.problems = [] := by
  obtain ⟨decided, reported⟩ := plays.judge_of_mem round member
  constructor
  · rintro ⟨lost, silent⟩
    have decides := decides_judge recognizers round.start.ahead
    rw [decided] at decides
    rw [reported] at silent
    generalize verdict : round.verdict = reached at *
    cases decides with
    | accepted => exact absurd ⟨_, verdict⟩ lost
    | rejected furthest => exact ⟨_, furthest, List.map_eq_nil_iff.1 silent⟩
    -- A character that nobody has any business with is always reported.
    | unexpected => simp [Verdict.diagnostics] at silent
  · rintro ⟨failure, furthest, nothing⟩
    have rejected : round.verdict = .rejected failure := by
      rw [← decided]
      exact judge_of_furthest furthest
    refine ⟨?_, ?_⟩
    · rintro ⟨success, won⟩
      rw [won] at rejected
      contradiction
    · rw [reported, rejected, Verdict.diagnostics, nothing]
      rfl

/-- The rounds of a run that are not won all report something exactly if the run is outspoken. -/
theorem won_or_reports_iff (plays : Plays recognizers cursor run) :
    (∀ round ∈ run.rounds, round.Won ∨ round.diagnostics ≠ []) ↔ run.Outspoken recognizers := by
  constructor
  · intro reports round member failure furthest nothing
    obtain ⟨lost, silent⟩ := (plays.silent_iff member).2 ⟨failure, furthest, nothing⟩
    rcases reports round member with won | reported
    · exact lost won
    · exact reported silent
  · intro outspoken round member
    by_contra neither
    rw [not_or, not_not] at neither
    obtain ⟨failure, furthest, nothing⟩ := (plays.silent_iff member).1 neither
    exact outspoken round member failure furthest nothing

end Plays

/-- In every run, the rounds that no success wins each report something, if and only if the failures
that got furthest in them name a problem each. Under the same condition, and under no other, a run
that goes to the end and reports nothing has recognized all that lay ahead: it is made up of spans
that successes won. -/
theorem rounds_report_iff (recognizers : List Recognizer) (cursor : Cursor) :
    let run := cursor.run recognizers
    ((∀ round ∈ run.rounds, round.Won ∨ round.diagnostics ≠ []) ↔ run.Outspoken recognizers) ∧
    (run.ending = .complete ∧ run.diagnostics = [] →
      cursor.ahead = run.rounds.flatMap Round.span ∧
      ((∀ round ∈ run.rounds, round.Won) ↔ run.Outspoken recognizers)) := by
  intro run
  have plays : Plays recognizers cursor run := plays_run recognizers cursor
  refine ⟨plays.won_or_reports_iff, ?_⟩
  rintro ⟨complete, silent⟩
  have passed := plays.flatMap_span
  rw [plays.ahead_stop_of_complete complete, List.append_nil] at passed
  have quiet : ∀ round ∈ run.rounds, round.diagnostics = [] := List.flatMap_eq_nil_iff.1 silent
  refine ⟨passed.symm, ?_⟩
  rw [← plays.won_or_reports_iff]
  -- Since no round reports anything, each would have to be won.
  constructor
  · intro won round member
    exact .inl (won round member)
  · intro reports round member
    rcases reports round member with won | reported
    · exact won
    · exact absurd (quiet round member) reported

/-- A failure that claims the whole text and names no problem. The run is complete without a token
and without a diagnostic, and no success won anything. -/
theorem text_passed_in_silence :
    let recognizers : List Recognizer :=
      [.ofRules "mute" [⟨['#'], .failure ⟨.ofLength 1, []⟩⟩]]
    let run := (ofText "file" (.ofWidth 4) ['#']).run recognizers
    run.ending = .complete ∧ run.tokens.map (·.content.text) = [] ∧ run.diagnostics = [] ∧
      run.rounds.map (·.verdict) = [.rejected ⟨.ofLength 1, []⟩] ∧
      ¬ ∀ round ∈ run.rounds, round.Won ∨ round.diagnostics ≠ [] := by
  intro recognizers run
  have verdicts : run.rounds.map (·.verdict) = [.rejected ⟨.ofLength 1, []⟩] := by decide +kernel
  have silent : run.diagnostics = [] := by decide +kernel
  refine ⟨by decide +kernel, by decide +kernel, silent, verdicts, ?_⟩
  intro reports
  obtain ⟨round, member, verdict⟩ : ∃ round ∈ run.rounds,
      round.verdict = .rejected ⟨.ofLength 1, []⟩ := by
    rw [← List.mem_map, verdicts]
    exact List.mem_cons_self
  rcases reports round member with ⟨success, won⟩ | reported
  · rw [verdict] at won
    contradiction
  · exact reported (List.flatMap_eq_nil_iff.1 silent round member)

end Cursor

end Lexing
