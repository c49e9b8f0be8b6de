import Lexing.Proofs.Cursor.Doors
import Lexing.Proofs.Run.InPlace
import Lexing.Proofs.Run.Spans

/-!
# Runs that are refused

There are two places where a loop in place can be refused: where it accepts a success, and where it
passes what a failure claims, after it has located the problems of the failure. A third move is
never refused, that over a single character. So whether a loop fails can be told from the claims of
its recognizers alone, at the first round where a claim is too long or ends inside a character, and
the marker has not left the place where that round starts.

## Main definitions

* `Recognizer.Claims`: the length that decides a round

## Main results

* `Cursor.round_eq_error_iff`: a round is refused exactly for the length that decides it
* `Cursor.exists_oneCharacter`: there is always one character to pass
* `Cursor.run_eq_of_starts`: a run goes as far as the first round that is refused
* `Cursor.Sound.refused_at_iff`: when a run is refused, and where it stops
* `Cursor.Sound.refused_of_perform_play`: the loop in place is refused as the run is
* `Cursor.refusals_of_play`: when the loop in place is refused, and where it stops
-/

namespace Lexing

open Text

/-- The length that decides a round at the front of a text: that of the first success, or else that
of the failure that got furthest, if it claims anything. -/
inductive Recognizer.Claims (recognizers : List Recognizer) (text : Text) : Nat → Prop
  | success {success : Success} (decides : Decides text recognizers (.accepted success)) :
      Claims recognizers text success.claim.length
  | failure {failure : Failure} (decides : Decides text recognizers (.rejected failure))
      (claiming : failure.claim.length ≠ 0) : Claims recognizers text failure.claim.length

namespace Cursor

open Recognizer

variable {cursor start : Cursor} {recognizers : List Recognizer} {error : ClaimError}
  {number limit : Nat} {run : Run}

/-! ### One round -/

/-- There is always one character to pass, until the end. -/
theorem exists_oneCharacter (more : cursor.ahead ≠ []) : ∃ c rest, cursor.ahead = c :: rest ∧
    cursor.advance cursor.oneCharacter = .ok (cursor.beyond cursor.oneCharacter [c] rest) := by
  obtain ⟨c, rest, ahead⟩ := List.exists_cons_of_ne_nil more
  have length : size [c] = cursor.oneCharacter.length := by
    rw [oneCharacter_eq ahead]
    rfl
  exact ⟨c, rest, ahead, advance_beyond ahead length⟩

/-- Passing one character is never refused. -/
theorem not_refuses_oneCharacter : ¬ cursor.Refuses cursor.oneCharacter.length error := by
  have whole := List.take_append_drop 1 cursor.ahead
  have boundary : IsBoundary cursor.ahead cursor.oneCharacter.length :=
    ⟨cursor.ahead.take 1, cursor.ahead.drop 1, whole.symm, rfl⟩
  intro refuses
  cases refuses with
  | tooLong long => exact absurd boundary.le_size (Nat.not_le.2 long)
  | insideCharacter _ inside => exact inside boundary

/-- A round is refused exactly for the length that decides it. -/
theorem round_eq_error_iff (placed : cursor.position.offset = size cursor.behind) :
    cursor.round recognizers = .error error ↔
      ∃ length, Claims recognizers cursor.ahead length ∧ cursor.Refuses length error := by
  have refused : cursor.round recognizers = .error error ↔
      cursor.Refuses ((judge recognizers cursor.ahead).claim cursor).length error := by
    rw [round_eq, ← span_eq_error_iff placed]
    cases cursor.span _ <;> simp [Except.map]
  rw [refused]
  constructor
  · intro refuses
    cases verdict : judge recognizers cursor.ahead with
    | accepted success =>
      rw [verdict] at refuses
      exact ⟨_, .success (judge_eq_iff.1 verdict), refuses⟩
    | rejected failure =>
      rw [verdict] at refuses
      by_cases claiming : failure.claim.length = 0
      · rw [Verdict.claim, passed, if_pos claiming] at refuses
        exact absurd refuses not_refuses_oneCharacter
      · rw [Verdict.claim, passed_of_length_ne_zero claiming] at refuses
        exact ⟨_, .failure (judge_eq_iff.1 verdict) claiming, refuses⟩
    | unexpected =>
      rw [verdict] at refuses
      exact absurd refuses not_refuses_oneCharacter
  · rintro ⟨length, claims, refuses⟩
    cases claims with
    | success decides =>
      rw [judge_eq_iff.2 decides]
      exact refuses
    | failure decides claiming =>
      rw [judge_eq_iff.2 decides, Verdict.claim, passed_of_length_ne_zero claiming]
      exact refuses

/-! ### Runs that are refused -/

/-- A run that is refused comes to a round that is. -/
theorem Plays.starts_of_refused (plays : Plays recognizers cursor run)
    (refused : run.ending = .refused error) :
    Starts recognizers cursor run.rounds.length run.stop ∧
      run.stop.round recognizers = .error error := by
  induction plays with
  | complete | endless => contradiction
  | refused more ran =>
    cases refused
    exact ⟨.first more, ran⟩
  | after more ran moved later ih =>
    obtain ⟨starts, failed⟩ := ih refused
    exact ⟨starts.of_next more ran, failed⟩

/-- A run goes as far as the first round that is refused. -/
theorem run_eq_of_starts (starts : Starts recognizers cursor number start)
    (ran : start.round recognizers = .error error) :
    ∃ rounds, cursor.run recognizers = ⟨rounds, .refused error, start⟩ := by
  induction number generalizing cursor with
  | zero =>
    obtain ⟨more⟩ := starts
    exact ⟨[], (Plays.refused more ran).run_eq⟩
  | succ number ih =>
    obtain ⟨more, round, first, later⟩ := starts.exists_next
    -- A round that stalls is the only one from there on, and it is not refused.
    have free : ¬ Stall recognizers cursor.ahead := by
      intro stall
      have same := ((Starts.first more).add_iff_of_stall stall (number + 1)).1
        (by rwa [Nat.zero_add])
      rw [same, first] at ran
      contradiction
    obtain ⟨rounds, whole⟩ := ih later
    have plays := plays_run recognizers round.next
    rw [whole] at plays
    exact ⟨round :: rounds,
      (Plays.after more first (offset_lt_of_not_stall more free first) plays).run_eq⟩

/-- What is handed over is a refusal exactly if the run is refused. -/
theorem map_result_eq_error_iff {tokens : List Token} {diagnostics : List Diagnostic} :
    (run.result tokens diagnostics).map some = .error error ↔ run.ending = .refused error := by
  rw [Run.result]
  cases run.ending <;> simp [Except.map]

namespace Sound

/-- A run is refused exactly if it comes to a round that is decided by a length which is refused,
and it stops there. -/
theorem refused_at_iff (sound : Sound cursor) :
    ((cursor.run recognizers).ending = .refused error ∧ (cursor.run recognizers).stop = start) ↔
      ∃ number length, Starts recognizers cursor number start ∧
        Claims recognizers start.ahead length ∧ start.Refuses length error := by
  constructor
  · rintro ⟨refused, rfl⟩
    obtain ⟨starts, ran⟩ := (plays_run recognizers cursor).starts_of_refused refused
    obtain ⟨length, found⟩ := (round_eq_error_iff (starts.sound sound).offset).1 ran
    exact ⟨_, length, starts, found⟩
  · rintro ⟨number, length, starts, found⟩
    have ran := (round_eq_error_iff (starts.sound sound).offset).2 ⟨length, found⟩
    obtain ⟨rounds, whole⟩ := run_eq_of_starts starts ran
    rw [whole]
    exact ⟨rfl, rfl⟩

/-- The loop in place is refused if the run is, and leaves the marker where that stops. -/
theorem perform_play_of_refused (sound : Sound cursor)
    (refused : (cursor.run recognizers).ending = .refused error) :
    cursor.toMarker.perform (Marker.play recognizers cursor.ahead.length [] []) =
      .ok (.error error, (cursor.run recognizers).stop.toMarker) := by
  have ended : (cursor.run recognizers).ending ≠ .endless := by simp [refused]
  have follows := sound.perform_play recognizers cursor.ahead.length [] []
  rw [(plays_run recognizers cursor).loop_eq ended (Nat.le_refl _)] at follows
  rw [follows, map_result_eq_error_iff.2 refused]

/-- The loop in place is not refused otherwise, and leaves the marker nowhere else. -/
theorem refused_of_perform_play (sound : Sound cursor) {stop : Marker}
    (failed : cursor.toMarker.perform (Marker.play recognizers limit [] []) =
      .ok (.error error, stop)) :
    (cursor.run recognizers).ending = .refused error ∧
      stop = (cursor.run recognizers).stop.toMarker := by
  have follows := sound.perform_play recognizers limit [] []
  rw [failed] at follows
  cases ended : loop recognizers limit cursor with
  | none =>
    rw [ended] at follows
    obtain ⟨other, unended⟩ := follows
    simp at unended
  | some run =>
    rw [ended] at follows
    simp only [Except.ok.injEq, Prod.mk.injEq] at follows
    rw [(plays_of_loop ended).run_eq]
    exact ⟨map_result_eq_error_iff.1 follows.1.symm, follows.2⟩

end Sound

/-- From every place that calls lead to, and for all recognizers: the loop in place is refused
exactly if it comes to a round that is decided by a claim with more bytes than are left, or with an
end inside a character, and for that reason. The marker then stands where that round starts. A round
that no claim decides passes one character, which is never refused. The rounds before the one that
is refused are those of the run, which lead there. -/
theorem refusals_of_play (file : String) (rule : TabRule) (text : Text)
    (fits : size text ≤ mostBytes) (calls : List Call) (recognizers : List Recognizer) :
    let cursor := (ofText file rule text).afterCalls calls
    let run := cursor.run recognizers
    (∀ error stop,
      (∃ limit, cursor.toMarker.perform (Marker.play recognizers limit [] []) =
        .ok (.error error, stop)) ↔
      ∃ number start length, Starts recognizers cursor number start ∧
        Claims recognizers start.ahead length ∧ start.Refuses length error ∧
        stop = start.toMarker) ∧
    (∀ number start, Starts recognizers cursor number start → ∃ c rest, start.ahead = c :: rest ∧
      start.advance start.oneCharacter = .ok (start.beyond start.oneCharacter [c] rest)) ∧
    (∀ error, run.ending = .refused error ↔ ∃ number start length,
      Starts recognizers cursor number start ∧ Claims recognizers start.ahead length ∧
        start.Refuses length error) ∧
    ∀ error, run.ending = .refused error →
      Leads recognizers cursor run.rounds run.stop ∧
      Starts recognizers cursor run.rounds.length run.stop ∧
      run.stop.round recognizers = .error error ∧
      cursor.toMarker.perform (Marker.play recognizers cursor.ahead.length [] []) =
        .ok (.error error, run.stop.toMarker) := by
  intro cursor run
  obtain ⟨sound, -⟩ := (sound_ofText file rule fits).afterCalls calls
  have plays : Plays recognizers cursor run := plays_run recognizers cursor
  refine ⟨fun error stop => ⟨?_, ?_⟩,
    fun number start starts => exists_oneCharacter starts.ahead_ne_nil,
    fun error => ⟨?_, ?_⟩, fun error refused => ?_⟩
  · rintro ⟨limit, failed⟩
    obtain ⟨refused, place⟩ := sound.refused_of_perform_play failed
    obtain ⟨number, length, starts, claims, refuses⟩ := sound.refused_at_iff.1 ⟨refused, rfl⟩
    exact ⟨number, _, length, starts, claims, refuses, place⟩
  · rintro ⟨number, start, length, starts, claims, refuses, rfl⟩
    obtain ⟨refused, stop⟩ := sound.refused_at_iff.2 ⟨number, length, starts, claims, refuses⟩
    -- The run stops where that round starts, and so does the marker.
    rw [← stop]
    exact ⟨_, sound.perform_play_of_refused refused⟩
  · intro refused
    obtain ⟨number, length, found⟩ := sound.refused_at_iff.1 ⟨refused, rfl⟩
    exact ⟨number, _, length, found⟩
  · rintro ⟨number, start, length, found⟩
    exact (sound.refused_at_iff.2 ⟨number, length, found⟩).1
  · obtain ⟨starts, ran⟩ := plays.starts_of_refused refused
    exact ⟨plays.leads, starts, ran, sound.perform_play_of_refused refused⟩

/-- Two names, the second of which claims half of the character behind it. The loop is refused
behind the first name, which it has passed, and the marker stays there. -/
theorem refusals_of_play_inside_character :
    let recognizers : List Recognizer := [.ofRules "word"
      [⟨['x'], .success (.tagged 1 ["word"])⟩, ⟨['y'], .success (.tagged 2 ["word"])⟩]]
    let cursor := (ofText "file" .one ['x', 'y', 'é']).afterCalls [.peek 1]
    let start : Cursor := ⟨"file", .one, ['x'], ['y', 'é'], ⟨1, 2, 1⟩⟩
    size ['x', 'y', 'é'] ≤ mostBytes ∧
    (∃ limit, cursor.toMarker.perform (Marker.play recognizers limit [] []) =
      .ok (.error (.insideCharacter 3), start.toMarker)) ∧
    (cursor.run recognizers).ending = .refused (.insideCharacter 3) ∧
    ∃ stop, cursor.toMarker.perform (Marker.play recognizers 3 [] []) =
      .ok (.error (.insideCharacter 3), stop) := by
  intro recognizers cursor start
  have fits : size ['x', 'y', 'é'] ≤ mostBytes := by decide +kernel
  obtain ⟨exactly, -, refused_iff, refusal⟩ :=
    refusals_of_play "file" .one ['x', 'y', 'é'] fits [.peek 1] recognizers
  have first : judge recognizers cursor.ahead = .accepted (.tagged 1 ["word"]) := by
    decide +kernel
  have second : judge recognizers start.ahead = .accepted (.tagged 2 ["word"]) := by
    decide +kernel
  have ahead : cursor.ahead = ['x'] ++ ['y', 'é'] := rfl
  have starts : Starts recognizers cursor 1 start :=
    .next (.first (List.cons_ne_nil _ _)) (round_of_fits ahead first rfl) (List.cons_ne_nil _ _)
  have claims : Claims recognizers start.ahead 2 := .success (judge_eq_iff.1 second)
  have refuses : start.Refuses 2 (.insideCharacter 3) := by
    apply Refuses.insideCharacter
    · decide +kernel
    · rw [← isSome_cut?_iff]
      decide +kernel
  have refused := (refused_iff _).2 ⟨1, start, 2, starts, claims, refuses⟩
  obtain ⟨-, -, -, played⟩ := refusal _ refused
  exact ⟨fits, (exactly _ _).2 ⟨1, start, 2, starts, claims, refuses, rfl⟩, refused, _, played⟩

end Cursor

end Lexing
