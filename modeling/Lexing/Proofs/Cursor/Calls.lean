import Lexing.Proofs.Cursor.Sound

/-!
# Sequences of calls

A cursor is used call by call, with claims of any length and flags that may be wrong. Calls that are
refused are part of the sequence: whoever uses the cursor goes on after them. Whatever the calls,
the position keeps to the text, and the same calls on a marker never fault.

## Main definitions

* `Call`: what a cursor can be asked to do
* `Cursor.answer`, `Cursor.afterCall`: what comes of a call, and where the cursor stands then
* `Cursor.afterCalls`, `Cursor.movedBy`: where a sequence of calls leads, and by how many bytes
* `Marker.answer`, `Marker.afterCalls`: the same calls on a marker

## Main results

* `Cursor.afterCalls_invariant`: what holds after every sequence of calls
-/

namespace Lexing

/-- What a cursor can be asked to do. -/
inductive Call where
  | advance (claim : Claim)
  /-- Moving by the claim of an outcome, whether that is a success or a failure. -/
  | advanceOutcome (outcome : Outcome)
  | accept (success : Success)
  | peek (length : Nat)

/-- The bytes that a call moves by where it is not refused. Looking ahead does not move. -/
def Call.distance : Call → Nat
  | advance claim => claim.length
  | advanceOutcome outcome => outcome.claim.length
  | accept success => success.claim.length
  | peek _ => 0

/-- What a call that is not refused yields. -/
inductive Answer where
  | moved
  | token (token : Option Token)
  | window (window : Window)

/-! ### Calls on a cursor -/

namespace Cursor

/-- What comes of a call: an answer and where the cursor stands then, or the call is refused. -/
def answer (cursor : Cursor) : Call → Except ClaimError (Answer × Cursor)
  | .advance claim => (cursor.advance claim).map (.moved, ·)
  | .advanceOutcome outcome => (cursor.advance outcome.claim).map (.moved, ·)
  | .accept success => (cursor.accept success).map fun (token, moved) => (.token token, moved)
  | .peek length => (cursor.peek length).map (.window ·, cursor)

/-- Where the cursor stands after a call. -/
def afterCall (cursor : Cursor) (call : Call) : Cursor :=
  match cursor.answer call with
  | .ok (_, next) => next
  | .error _ => cursor

/-- Where the cursor stands after some calls. -/
def afterCalls (cursor : Cursor) (calls : List Call) : Cursor := calls.foldl afterCall cursor

/-- The lengths of the moves among some calls, as far as they are not refused. -/
def movedBy (cursor : Cursor) : List Call → Nat
  | [] => 0
  | call :: calls =>
    (match cursor.answer call with
      | .ok _ => call.distance
      | .error _ => 0) + (cursor.afterCall call).movedBy calls

end Cursor

/-! ### Calls on a marker -/

namespace Marker

/-- The movement that a call asks for. -/
def answer : Call → Movement Answer
  | .advance claim => do
    advance claim
    return .moved
  | .advanceOutcome outcome => do
    advance outcome.claim
    return .moved
  | .accept success => return .token (← accept success)
  | .peek length => return .window (← peek length)

/-- Where the marker stands after some calls. Only a fault keeps it from going on. -/
def afterCalls (marker : Marker) : List Call → Except Fault Marker
  | [] => .ok marker
  | call :: calls => do
    let (_, next) ← marker.perform (answer call)
    next.afterCalls calls

end Marker

/-! ### One call -/

namespace Cursor

/-- A move is refused, or leads behind a span that the claim fits. -/
theorem advance_cases (cursor : Cursor) (claim : Claim) :
    (∃ refused, cursor.advance claim = .error refused) ∨
    ∃ span rest, cursor.advance claim = .ok (cursor.beyond claim span rest) ∧
      cursor.ahead = span ++ rest ∧ Text.size span = claim.length := by
  cases ran : cursor.advance claim with
  | error refused => exact .inl ⟨refused, rfl⟩
  | ok moved =>
    obtain ⟨span, rest, ahead, size, rfl⟩ := exists_beyond_of_advance ran
    exact .inr ⟨span, rest, rfl, ahead, size⟩

/-- Moving for a token is refused where the move is. -/
theorem accept_cases (cursor : Cursor) (success : Success) :
    (∃ refused, cursor.accept success = .error refused) ∨
    ∃ token span rest, cursor.accept success = .ok (token, cursor.beyond success.claim span rest) ∧
      cursor.ahead = span ++ rest ∧ Text.size span = success.claim.length := by
  cases ran : cursor.accept success with
  | error refused => exact .inl ⟨refused, rfl⟩
  | ok taken =>
    obtain ⟨token, moved⟩ := taken
    obtain ⟨span, rest, ahead, size, rfl⟩ := exists_beyond_of_advance (advance_of_accept ran)
    exact .inr ⟨token, span, rest, rfl, ahead, size⟩

/-- A call is refused and leaves the cursor alone, or it leads behind a span of its distance. -/
theorem answer_cases (cursor : Cursor) (call : Call) :
    (∃ refused, cursor.answer call = .error refused) ∨
    ∃ answer claim span rest, cursor.answer call = .ok (answer, cursor.beyond claim span rest) ∧
      cursor.ahead = span ++ rest ∧ Text.size span = call.distance := by
  cases call with
  | advance claim =>
    rcases cursor.advance_cases claim with ⟨refused, ran⟩ | ⟨span, rest, ran, ahead, size⟩
    · exact .inl ⟨refused, by rw [answer, ran]; rfl⟩
    · exact .inr ⟨.moved, claim, span, rest, by rw [answer, ran]; rfl, ahead, size⟩
  | advanceOutcome outcome =>
    rcases cursor.advance_cases outcome.claim with ⟨refused, ran⟩ | ⟨span, rest, ran, ahead, size⟩
    · exact .inl ⟨refused, by rw [answer, ran]; rfl⟩
    · exact .inr ⟨.moved, outcome.claim, span, rest, by rw [answer, ran]; rfl, ahead, size⟩
  | accept success =>
    rcases cursor.accept_cases success with ⟨refused, ran⟩ | ⟨token, span, rest, ran, ahead, size⟩
    · exact .inl ⟨refused, by rw [answer, ran]; rfl⟩
    · exact .inr ⟨.token token, success.claim, span, rest, by rw [answer, ran]; rfl, ahead, size⟩
  | peek length =>
    cases seen : cursor.peek length with
    | error refused => exact .inl ⟨refused, by rw [answer, seen]; rfl⟩
    | ok window =>
      -- Nothing is passed, so any claim will do.
      exact .inr ⟨.window window, .ofLength 0, [], cursor.ahead, by rw [answer, seen]; rfl, rfl,
        rfl⟩

/-- A call that is refused leaves the cursor where it was. -/
theorem afterCall_of_error {cursor : Cursor} {call : Call} {refused : ClaimError}
    (ran : cursor.answer call = .error refused) : cursor.afterCall call = cursor := by
  rw [afterCall, ran]

theorem afterCall_of_ok {cursor next : Cursor} {call : Call} {answer : Answer}
    (ran : cursor.answer call = .ok (answer, next)) : cursor.afterCall call = next := by
  rw [afterCall, ran]

/-- A call of no distance leaves the position as it was. -/
theorem position_afterCall_of_distance_eq_zero (cursor : Cursor) {call : Call}
    (still : call.distance = 0) : (cursor.afterCall call).position = cursor.position := by
  rcases cursor.answer_cases call with ⟨refused, ran⟩ | ⟨answer, claim, span, rest, ran, -, size⟩
  · rw [afterCall_of_error ran]
  · rw [still, Text.size_eq_zero_iff] at size
    rw [afterCall_of_ok ran, position_beyond, size, Position.past_nil]

namespace Sound

variable {cursor : Cursor}

/-- A cursor stays sound whatever it is asked to do. -/
theorem afterCall (sound : Sound cursor) (call : Call) : Sound (cursor.afterCall call) := by
  rcases cursor.answer_cases call with ⟨refused, ran⟩ | ⟨answer, claim, span, rest, ran, ahead, -⟩
  · rw [afterCall_of_error ran]
    exact sound
  · rw [afterCall_of_ok ran]
    exact sound.beyond ahead

/-- The marker gives the same answer to a move, and follows the cursor. -/
theorem perform_move_answer (sound : Sound cursor) (claim : Claim) :
    cursor.toMarker.perform (Marker.answer (.advance claim)) =
      .ok ((cursor.answer (.advance claim)).map Prod.fst,
        (cursor.afterCall (.advance claim)).toMarker) := by
  have moves := sound.perform_advance claim
  rcases cursor.advance_cases claim with ⟨refused, ran⟩ | ⟨span, rest, ran, -, -⟩
  · rw [ran] at moves
    rw [Marker.answer, Marker.perform_bind_pure moves fun _ => Answer.moved, Cursor.afterCall,
      answer, ran]
    rfl
  · rw [ran] at moves
    rw [Marker.answer, Marker.perform_bind_pure moves fun _ => Answer.moved, Cursor.afterCall,
      answer, ran]
    rfl

/-- The marker gives the same answer or refusal, and follows the cursor. -/
theorem perform_answer (sound : Sound cursor) (call : Call) :
    cursor.toMarker.perform (Marker.answer call) =
      .ok ((cursor.answer call).map Prod.fst, (cursor.afterCall call).toMarker) := by
  cases call with
  | advance claim => exact sound.perform_move_answer claim
  | advanceOutcome outcome => exact sound.perform_move_answer outcome.claim
  | accept success =>
    have moves := sound.perform_accept success
    rcases cursor.accept_cases success with ⟨refused, ran⟩ | ⟨token, span, rest, ran, -, -⟩
    · rw [ran] at moves
      rw [Marker.answer, Marker.perform_bind_pure moves Answer.token, Cursor.afterCall, answer, ran]
      rfl
    · rw [ran] at moves
      rw [Marker.answer, Marker.perform_bind_pure moves Answer.token, Cursor.afterCall, answer, ran]
      rfl
  | peek length =>
    have looks := sound.perform_peek length
    rw [Marker.answer, Marker.perform_bind_pure looks Answer.window, Cursor.afterCall, answer]
    -- Looking ahead leaves the cursor where it is, found or refused.
    cases cursor.peek length <;> rfl

end Sound

/-! ### Sequences of calls -/

/-- A call moves the offset by its distance, unless it is refused. -/
theorem offset_afterCall (cursor : Cursor) (call : Call) :
    (cursor.afterCall call).position.offset = cursor.position.offset +
      match cursor.answer call with
      | .ok _ => call.distance
      | .error _ => 0 := by
  rcases cursor.answer_cases call with ⟨refused, ran⟩ | ⟨answer, claim, span, rest, ran, -, size⟩
  · rw [afterCall_of_error ran, ran]
    rfl
  · rw [afterCall_of_ok ran, ran, position_beyond, Position.offset_past, size]

theorem input_afterCall (cursor : Cursor) (call : Call) :
    (cursor.afterCall call).input = cursor.input := by
  rcases cursor.answer_cases call with ⟨refused, ran⟩ | ⟨answer, claim, span, rest, ran, ahead, -⟩
  · rw [afterCall_of_error ran]
  · rw [afterCall_of_ok ran]
    exact input_beyond ahead claim

theorem offset_afterCalls (cursor : Cursor) (calls : List Call) :
    (cursor.afterCalls calls).position.offset = cursor.position.offset + cursor.movedBy calls := by
  induction calls generalizing cursor with
  | nil => rfl
  | cons call calls ih =>
    -- What the first call moves by is added before what the others do.
    have later := ih (cursor.afterCall call)
    rw [offset_afterCall, Nat.add_assoc] at later
    exact later

theorem input_afterCalls (cursor : Cursor) (calls : List Call) :
    (cursor.afterCalls calls).input = cursor.input := by
  induction calls generalizing cursor with
  | nil => rfl
  | cons call calls ih =>
    have later := ih (cursor.afterCall call)
    rw [input_afterCall] at later
    exact later

/-- A sequence of calls leaves a sound cursor sound. The marker comes along without a fault. -/
theorem Sound.afterCalls {cursor : Cursor} (sound : Sound cursor) (calls : List Call) :
    Sound (cursor.afterCalls calls) ∧
      cursor.toMarker.afterCalls calls = .ok (cursor.afterCalls calls).toMarker := by
  induction calls generalizing cursor with
  | nil => exact ⟨sound, rfl⟩
  | cons call calls ih =>
    obtain ⟨later, follows⟩ := ih (sound.afterCall call)
    refine ⟨later, ?_⟩
    rw [Marker.afterCalls, sound.perform_answer call]
    exact follows

theorem sound_ofText (file : String) (rule : TabRule) {text : Text}
    (fits : Text.size text ≤ Text.mostBytes) : Sound (ofText file rule text) where
  offset := rfl
  line_pos := Nat.le_refl 1
  line_le := Nat.le_refl 1
  column_pos := Nat.le_refl 1
  fits := fits

/-- Whatever a cursor is asked to do, with claims of any length and flags that may be wrong, its
offset is the sum of the moves that were not refused and lies between two characters of the text,
and its line and column keep their bounds. Calls that are refused, and moves by nothing, leave the
position alone. The same calls on a marker, and any further call, end without a fault and with the
same answers. -/
theorem afterCalls_invariant (file : String) (rule : TabRule) (text : Text)
    (fits : Text.size text ≤ Text.mostBytes) (calls : List Call) :
    let start := ofText file rule text
    let cursor := start.afterCalls calls
    cursor.position.offset = start.movedBy calls ∧
    cursor.position.offset ≤ Text.size text ∧
    (∃ passed ahead, text = passed ++ ahead ∧ Text.size passed = cursor.position.offset) ∧
    1 ≤ cursor.position.line ∧ cursor.position.line ≤ 1 + cursor.position.offset ∧
    1 ≤ cursor.position.column ∧
    (cursor.atEnd = true ↔ cursor.position.offset = Text.size text) ∧
    (∀ call, call.distance = 0 ∨ (∃ refused, cursor.answer call = .error refused) →
      (cursor.afterCall call).position = cursor.position) ∧
    (Marker.ofText file rule text).afterCalls calls = .ok cursor.toMarker ∧
    (∀ call, cursor.toMarker.perform (Marker.answer call) =
      .ok ((cursor.answer call).map Prod.fst, (cursor.afterCall call).toMarker)) ∧
    cursor.toMarker.tail = .ok cursor.tail := by
  intro start cursor
  have begin : Sound start := sound_ofText file rule fits
  -- Everything below is read off the sound cursor that the calls lead to.
  obtain ⟨sound, follows⟩ := begin.afterCalls calls
  have whole : cursor.input = text := input_afterCalls start calls
  have offset := offset_afterCalls start calls
  have total := sound.size_input
  change Text.size cursor.input = cursor.position.offset + Text.size cursor.ahead at total
  rw [whole] at total
  refine ⟨?_, ?_, ?_, sound.line_pos, sound.line_le, sound.column_pos, ?_, ?_, follows,
    sound.perform_answer, sound.tail_toMarker⟩
  · rw [offset]
    exact Nat.zero_add _
  · omega
  · exact ⟨cursor.behind.reverse, cursor.ahead, whole.symm, sound.size_passed⟩
  · rw [atEnd, List.isEmpty_iff, ← Text.size_eq_zero_iff]
    omega
  · rintro call (still | ⟨refused, ran⟩)
    · exact position_afterCall_of_distance_eq_zero cursor still
    · rw [afterCall_of_error ran]

/-- Two of these calls are refused, one moves by nothing; the moves cut a pair and hide a tab. -/
theorem offset_afterCalls_of_refusals :
    Text.size ['é', '\r', '\n', '\t', 'x'] ≤ Text.mostBytes ∧
      ((ofText "file" .one ['é', '\r', '\n', '\t', 'x']).afterCalls
        [.advance (.ofLength 1), .advance ⟨3, true, false⟩, .peek 9, .advanceOutcome .none,
          .accept (.tagged 2 ["word"])]).position.offset = 5 := by
  have fits : Text.size ['é', '\r', '\n', '\t', 'x'] ≤ Text.mostBytes := by decide +kernel
  refine ⟨fits, ?_⟩
  have invariant := afterCalls_invariant "file" .one _ fits
    [.advance (.ofLength 1), .advance ⟨3, true, false⟩, .peek 9, .advanceOutcome .none,
      .accept (.tagged 2 ["word"])]
  have moved := And.left invariant
  rw [moved]
  decide +kernel

end Cursor

end Lexing
