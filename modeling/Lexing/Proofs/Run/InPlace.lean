import Lexing.Proofs.Cursor.Probe
import Lexing.Proofs.Run.Stalls

/-!
# The loop in place

A cursor that goes through a loop is one and the same marker all along, which each round changes. A
round that is refused has done something before that: it has looked for tails and windows, it has
located problems, and it has not put the marker back. Here the loop is told in this way, with the
tokens and diagnostics of its rounds collected as it goes, and each of its parts may fault.

It follows the loop that hands a cursor from round to round. In a text that is short enough there
are no faults, and the marker is left where the run of rounds stops, however it ends.

## Main definitions

* `Marker.diagnose`, `Marker.round`: one round that changes its marker
* `Marker.play`: the loop, within a number of rounds
* `Run.result`: what is handed over after a run

## Main results

* `Cursor.Sound.perform_round`: a round in place yields what the round of the cursor does, and a
  refused one leaves the marker where it was
* `Cursor.Sound.perform_play`: the loop in place comes to what the loop of rounds does
* `Cursor.Starts.sound`: every round of the loop starts at a sound cursor
-/

namespace Lexing

open Text

namespace Marker

/-- The diagnostic for a problem of an attempt at the marker. -/
def diagnose (marker : Marker) (problem : Problem) : Except Fault Diagnostic := do
  let position ← marker.locate problem.offset
  return ⟨position, problem.highlight, problem.message⟩

/-- One round, with the token and the diagnostics that it yields. -/
def round (recognizers : List Recognizer) : Movement (Option Token × List Diagnostic) := do
  let marker ← get
  let tail ← checked marker.tail
  let oneCharacter := Claim.ofLength (size (tail.text.take 1))
  match Recognizer.judge recognizers tail.text with
  | .accepted success => do
    let token ← accept success
    return (token, [])
  | .rejected failure => do
    -- Problems are located from where the round starts, so before the marker moves.
    let diagnostics ← checked (failure.problems.mapM marker.diagnose)
    advance (if failure.claim.length = 0 then oneCharacter else failure.claim)
    return (none, diagnostics)
  | .unexpected => do
    advance oneCharacter
    return (none, [⟨marker.position, 1, "unexpected character"⟩])

/-- The loop, after rounds that yielded some tokens and diagnostics, if it ends within `limit`
rounds. The loop ends where the offset is that of the end of the text. -/
def play (recognizers : List Recognizer) (limit : Nat) (tokens : List Token)
    (diagnostics : List Diagnostic) : Movement (Option (List Token × List Diagnostic)) := do
  let marker ← get
  if marker.position.offset = size marker.text then return some (tokens, diagnostics)
  else match limit with
    | 0 => return none
    | limit + 1 => do
      let (token, found) ← round recognizers
      play recognizers limit (tokens ++ token.toList) (diagnostics ++ found)

end Marker

/-- What is handed over after a run: why a claim was refused, and no tokens then, or all tokens and
diagnostics, behind those from before. -/
def Run.result (run : Run) (tokens : List Token) (diagnostics : List Diagnostic) :
    Except ClaimError (List Token × List Diagnostic) :=
  match run.ending with
  | .refused error => .error error
  | .complete | .endless => .ok (tokens ++ run.tokens, diagnostics ++ run.diagnostics)

/-- Another round in front yields its token and diagnostics first. -/
theorem Run.result_after (run : Run) (round : Round) (tokens : List Token)
    (diagnostics : List Diagnostic) : (run.after round).result tokens diagnostics =
      run.result (tokens ++ round.token.toList) (diagnostics ++ round.diagnostics) := by
  rw [result, result, ending_after, tokens_after, diagnostics_after, List.append_assoc,
    List.append_assoc]

namespace Cursor

variable {cursor start : Cursor} {recognizers : List Recognizer} {number : Nat}

namespace Sound

/-- A marker diagnoses every list of problems as its cursor does. -/
theorem mapM_diagnose (sound : Sound cursor) (problems : List Problem) :
    problems.mapM cursor.toMarker.diagnose = .ok (problems.map cursor.diagnose) := by
  have each : cursor.toMarker.diagnose = fun problem => pure (cursor.diagnose problem) := by
    funext problem
    rw [Marker.diagnose, sound.locate_toMarker]
    rfl
  rw [each]
  exact List.mapM_pure

/-- A move yields what is yielded after it, unless it is refused. -/
theorem perform_advance_pure (sound : Sound cursor) (claim : Claim) {α : Type} (value : α) :
    cursor.toMarker.perform (Marker.advance claim >>= fun _ => pure value) =
      .ok (match cursor.advance claim with
        | .ok moved => (.ok value, moved.toMarker)
        | .error refused => (.error refused, cursor.toMarker)) := by
  have moves := sound.perform_advance claim
  cases ran : cursor.advance claim with
  | error refused =>
    rw [ran] at moves
    exact Marker.perform_bind_of_error moves
  | ok moved =>
    rw [ran] at moves
    exact Marker.perform_bind moves

/-- A round in place yields what the round of the cursor does, and leads to the same place. One that
is refused leaves the marker where it was. -/
theorem perform_round (sound : Sound cursor) (recognizers : List Recognizer) :
    cursor.toMarker.perform (Marker.round recognizers) = .ok (match cursor.round recognizers with
      | .ok round => (.ok (round.token, round.diagnostics), round.next.toMarker)
      | .error refused => (.error refused, cursor.toMarker)) := by
  rw [Marker.round, Marker.perform_bind Marker.perform_get,
    Marker.perform_bind (Marker.perform_checked sound.tail_toMarker), Cursor.round]
  cases verdict : Recognizer.judge recognizers cursor.ahead with
  | accepted success =>
    have moves := sound.perform_accept success
    simp only [tail, verdict]
    cases taken : cursor.accept success with
    | error refused =>
      rw [taken] at moves
      rw [Marker.perform_bind_of_error moves]
      rfl
    | ok pair =>
      rw [taken] at moves
      rw [Marker.perform_bind moves]
      rfl
  | rejected failure =>
    simp only [tail, verdict]
    rw [Marker.perform_bind (Marker.perform_checked (sound.mapM_diagnose _))]
    -- What is passed is chosen in the same way.
    refine (sound.perform_advance_pure (cursor.passed failure) _).trans ?_
    cases cursor.advance (cursor.passed failure) <;> rfl
  | unexpected =>
    simp only [tail, verdict]
    refine (sound.perform_advance_pure cursor.oneCharacter _).trans ?_
    cases cursor.advance cursor.oneCharacter <;> rfl

/-- The offset is that of the end of the text exactly if nothing is left. -/
theorem offset_eq_size_iff (sound : Sound cursor) :
    cursor.toMarker.position.offset = size cursor.toMarker.text ↔ cursor.ahead = [] := by
  change cursor.position.offset = size cursor.input ↔ _
  rw [sound.size_input, Nat.left_eq_add, size_eq_zero_iff]

section Play

variable (tokens : List Token) (diagnostics : List Diagnostic)

/-- At the end of the text the loop hands over what it has. -/
theorem perform_play_of_done (sound : Sound cursor) (done : cursor.ahead = []) (limit : Nat) :
    cursor.toMarker.perform (Marker.play recognizers limit tokens diagnostics) =
      .ok ((Run.result ⟨[], .complete, cursor⟩ tokens diagnostics).map some, cursor.toMarker) := by
  have nothing : Run.result ⟨[], .complete, cursor⟩ tokens diagnostics =
      .ok (tokens, diagnostics) := by
    simp [Run.result, Run.tokens, Run.diagnostics]
  unfold Marker.play
  rw [Marker.perform_bind Marker.perform_get, if_pos (sound.offset_eq_size_iff.2 done), nothing]
  rfl

/-- Without rounds to play the loop has not ended. -/
theorem perform_play_zero (sound : Sound cursor) (more : cursor.ahead ≠ []) :
    cursor.toMarker.perform (Marker.play recognizers 0 tokens diagnostics) =
      .ok (.ok none, cursor.toMarker) := by
  unfold Marker.play
  rw [Marker.perform_bind Marker.perform_get, if_neg (sound.offset_eq_size_iff.not.2 more)]
  rfl

/-- Otherwise it plays a round first, and goes on if that is not refused. -/
theorem perform_play_succ (sound : Sound cursor) (more : cursor.ahead ≠ []) (limit : Nat) :
    cursor.toMarker.perform (Marker.play recognizers (limit + 1) tokens diagnostics) =
      match cursor.round recognizers with
      | .error refused => .ok (.error refused, cursor.toMarker)
      | .ok round => round.next.toMarker.perform (Marker.play recognizers limit
          (tokens ++ round.token.toList) (diagnostics ++ round.diagnostics)) := by
  have played := sound.perform_round recognizers
  conv_lhs => unfold Marker.play
  rw [Marker.perform_bind Marker.perform_get, if_neg (sound.offset_eq_size_iff.not.2 more)]
  cases ran : cursor.round recognizers with
  | error refused =>
    rw [ran] at played
    exact Marker.perform_bind_of_error played
  | ok round =>
    rw [ran] at played
    exact Marker.perform_bind played

end Play

/-- A cursor stays sound along a round. -/
theorem next (sound : Sound cursor) {round : Round} (ran : cursor.round recognizers = .ok round) :
    Sound round.next := by
  obtain ⟨verdict, span, rest, -, ahead, -, rfl⟩ := exists_played_of_round ran
  exact sound.beyond ahead

/-- The loop in place comes to what the loop of rounds does: it has not ended if that has not, and
otherwise hands over what the run yields, and leaves the marker where the run stops. -/
theorem perform_play (sound : Sound cursor) (recognizers : List Recognizer) (limit : Nat)
    (tokens : List Token) (diagnostics : List Diagnostic) :
    match loop recognizers limit cursor with
    | some run =>
      cursor.toMarker.perform (Marker.play recognizers limit tokens diagnostics) =
        .ok ((run.result tokens diagnostics).map some, run.stop.toMarker)
    | none => ∃ stop,
      cursor.toMarker.perform (Marker.play recognizers limit tokens diagnostics) =
        .ok (.ok none, stop) := by
  induction limit generalizing cursor tokens diagnostics with
  | zero =>
    by_cases done : cursor.ahead = []
    · rw [loop_of_done done]
      exact sound.perform_play_of_done tokens diagnostics done 0
    · rw [loop_zero done]
      exact ⟨_, sound.perform_play_zero tokens diagnostics done⟩
  | succ limit ih =>
    by_cases done : cursor.ahead = []
    · rw [loop_of_done done]
      exact sound.perform_play_of_done tokens diagnostics done (limit + 1)
    · rw [sound.perform_play_succ tokens diagnostics done]
      cases ran : cursor.round recognizers with
      | error refused =>
        rw [loop_succ_of_error done ran]
        rfl
      | ok round =>
        have later := ih (sound.next ran) (tokens ++ round.token.toList)
          (diagnostics ++ round.diagnostics)
        rw [loop_succ_of_ok done ran]
        cases ended : loop recognizers limit round.next with
        | none =>
          rw [ended] at later
          exact later
        | some run =>
          rw [ended] at later
          rw [Option.map_some]
          simp only [Run.result_after, Run.stop_after]
          exact later

end Sound

/-- Every round of the loop starts at a sound cursor. -/
theorem Starts.sound (starts : Starts recognizers cursor number start) (sound : Sound cursor) :
    Sound start := by
  induction starts with
  | first => exact sound
  | next before ran more ih => exact ih.next ran

end Cursor

end Lexing
