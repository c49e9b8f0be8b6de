import Lexing.Diagnostic
import Lexing.Recognizer

/-!
# Rounds

In one round a list of recognizers is tried at a cursor. The first success decides: its claim is
passed and its token made. If all fail, the failure that got furthest decides, the first of them
where several got equally far: its problems are reported and its claim is passed. If no failure has
anything to say, the character ahead is unexpected. A round without a success that would not move
passes one character instead.

## Main definitions

* `Verdict`, `Recognizer.judge`: who decides the round
* `Round`, `Cursor.round`: what the round yields and where it leads

## Main results

* `Cursor.advance_of_round`: whatever the verdict, a round is one move of the cursor
* `Cursor.length_ahead_lt_of_round`: a round that moves the offset has passed a character
-/

namespace Lexing

/-- Who decides a round. -/
inductive Verdict where
  /-- A recognizer succeeded. -/
  | accepted (success : Success)
  /-- All failed, and this failure got furthest. -/
  | rejected (failure : Failure)
  /-- No recognizer had any business with the text. -/
  | unexpected
  deriving DecidableEq, Repr

namespace Recognizer

/-- The failure that got further. The first of two stays where they got equally far, and a failure
that has nothing to say never counts. -/
def further (deepest : Option Failure) (failure : Failure) : Option Failure :=
  if failure.isNone then deepest
  else match deepest with
    | none => some failure
    | some deep => if deep.claim.length < failure.claim.length then some failure else deepest

/-- Tries recognizers in order, where `deepest` is the failure that got furthest so far. -/
def judgeFrom (text : Text) (deepest : Option Failure) : List Recognizer → Verdict
  | [] =>
    match deepest with
    | none => .unexpected
    | some failure => .rejected failure
  | recognizer :: recognizers =>
    match recognizer.run text with
    | .success success => .accepted success
    | .failure failure => judgeFrom text (further deepest failure) recognizers

/-- Tries recognizers in order at the front of a text. -/
def judge (recognizers : List Recognizer) (text : Text) : Verdict := judgeFrom text none recognizers

end Recognizer

/-- What happened in a round. -/
structure Round where
  /-- Where the round started. -/
  start : Cursor
  verdict : Verdict
  token : Option Token
  diagnostics : List Diagnostic
  /-- Where the round leads. -/
  next : Cursor

namespace Cursor

/-- The claim of the one character ahead. -/
def oneCharacter (cursor : Cursor) : Claim := .ofLength (Text.size (cursor.ahead.take 1))

/-- What a failure passes: its claim, or one character if the claim is empty. -/
def passed (cursor : Cursor) (failure : Failure) : Claim :=
  if failure.claim.length = 0 then cursor.oneCharacter else failure.claim

/-- The diagnostic for a character that no recognizer has any business with. -/
def unexpected (cursor : Cursor) : Diagnostic := ⟨cursor.position, 1, "unexpected character"⟩

/-- One round at a cursor. It fails only if the claim that decides it is refused. -/
def round (cursor : Cursor) (recognizers : List Recognizer) : Except ClaimError Round :=
  let verdict := Recognizer.judge recognizers cursor.ahead
  match verdict with
  | .accepted success => do
    let (token, next) ← cursor.accept success
    return ⟨cursor, verdict, token, [], next⟩
  | .rejected failure => do
    -- Problems are located before the failure's claim is passed.
    let next ← cursor.advance (cursor.passed failure)
    return ⟨cursor, verdict, none, failure.problems.map cursor.diagnose, next⟩
  | .unexpected => do
    let next ← cursor.advance cursor.oneCharacter
    return ⟨cursor, verdict, none, [cursor.unexpected], next⟩

/-- Whatever the verdict, a round is one move of the cursor by some claim. -/
theorem advance_of_round {cursor : Cursor} {recognizers : List Recognizer} {round : Round}
    (played : cursor.round recognizers = .ok round) :
    ∃ claim, cursor.advance claim = .ok round.next := by
  unfold Cursor.round at played
  cases verdict : Recognizer.judge recognizers cursor.ahead with
  | accepted success =>
    simp only [verdict, bind, Except.bind, pure, Except.pure] at played
    refine ⟨success.claim, ?_⟩
    cases taken : cursor.accept success with
    | error refused => simp [taken] at played
    | ok pair =>
      simp only [taken, Except.ok.injEq] at played
      rw [← played]
      exact advance_of_accept taken
  | rejected failure =>
    simp only [verdict, bind, Except.bind, pure, Except.pure] at played
    refine ⟨cursor.passed failure, ?_⟩
    cases moved : cursor.advance (cursor.passed failure) with
    | error refused => simp [moved] at played
    | ok next =>
      simp only [moved, Except.ok.injEq] at played
      rw [← played]
  | unexpected =>
    simp only [verdict, bind, Except.bind, pure, Except.pure] at played
    refine ⟨cursor.oneCharacter, ?_⟩
    cases moved : cursor.advance cursor.oneCharacter with
    | error refused => simp [moved] at played
    | ok next =>
      simp only [moved, Except.ok.injEq] at played
      rw [← played]

/-- A round that moves the offset leaves fewer characters ahead. -/
theorem length_ahead_lt_of_round {cursor : Cursor} {recognizers : List Recognizer} {round : Round}
    (played : cursor.round recognizers = .ok round)
    (moved : cursor.position.offset < round.next.position.offset) :
    round.next.ahead.length < cursor.ahead.length := by
  obtain ⟨claim, ran⟩ := advance_of_round played
  obtain ⟨text, rest, ahead, -, next⟩ := advance_eq_ok_iff.1 ran
  rw [next] at moved ⊢
  -- A piece without characters would not have moved the offset.
  have some_text : text ≠ [] := by
    rintro rfl
    simp at moved
  have positive := List.length_pos_iff.2 some_text
  rw [ahead, List.length_append]
  change rest.length < _
  omega

end Cursor

end Lexing
