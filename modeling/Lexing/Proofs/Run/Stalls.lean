import Lexing.Proofs.Round.Decides
import Lexing.Proofs.Run.Plays

/-!
# Rounds that are played for ever

A loop that looks for the end of the text, and for nothing else, has no way out of a round that
passes nothing: the same recognizers meet the same text again, and decide it in the same way. The
run that is computed stops there instead. This is only right if the loop would have come to no other
end, and if it never stands still in any other round, whatever its recognizers claim.

So the loop is followed here as it is, without a watch on whether it moves. A round that a success
wins may pass nothing; all other rounds pass a character at least, and the text runs out of these.

## Main definitions

* `Recognizer.Stall`: the first recognizer that succeeds claims nothing
* `Cursor.Starts`: where the rounds of the loop start
* `Cursor.loop`: what the loop plays, if it ends within a number of rounds

## Main results

* `Cursor.exists_round_of_stall`: a round that stalls leads back to where it starts
* `Cursor.offset_lt_of_not_stall`: every other round moves the offset
* `Cursor.loop_eq_none_iff`: a loop that has not ended starts another round
* `Cursor.Plays.loop_eq`, `Cursor.plays_of_loop`: where the loop ends, it has played the run
* `Cursor.loop_ends_or_stalls`: the loop ends in time, or it comes to a round that it never leaves
-/

namespace Lexing

/-- The first recognizer that succeeds at the front of a text claims nothing of it. -/
def Recognizer.Stall (recognizers : List Recognizer) (text : Text) : Prop :=
  ∃ success, Decides text recognizers (.accepted success) ∧ success.claim.length = 0

namespace Cursor

open Recognizer

/-- Where the rounds of the loop start, counted from zero. There is another round as long as none is
refused and something is left. -/
inductive Starts (recognizers : List Recognizer) (cursor : Cursor) : Nat → Cursor → Prop
  | first (more : cursor.ahead ≠ []) : Starts recognizers cursor 0 cursor
  | next {number : Nat} {start : Cursor} {round : Round}
      (before : Starts recognizers cursor number start)
      (ran : start.round recognizers = .ok round) (more : round.next.ahead ≠ []) :
      Starts recognizers cursor (number + 1) round.next

/-- What the loop plays from a cursor, if it ends within `limit` rounds. A round that is refused
counts as one. -/
def loop (recognizers : List Recognizer) (limit : Nat) (cursor : Cursor) : Option Run :=
  if cursor.atEnd then some ⟨[], .complete, cursor⟩
  else match limit with
    | 0 => none
    | limit + 1 =>
      match cursor.round recognizers with
      | .error refused => some ⟨[], .refused refused, cursor⟩
      | .ok round => (loop recognizers limit round.next).map (Run.after round)

variable {recognizers : List Recognizer} {cursor start other : Cursor} {round : Round}
  {number limit : Nat}

/-! ### One round -/

/-- A round that stalls leads back to where it starts. -/
theorem exists_round_of_stall (stall : Stall recognizers cursor.ahead) :
    ∃ round, cursor.round recognizers = .ok round ∧ round.next = cursor := by
  obtain ⟨success, decides, nothing⟩ := stall
  have fits : Text.size [] = (Verdict.claim cursor (.accepted success)).length := nothing.symm
  exact ⟨_, round_of_fits (List.nil_append _).symm (judge_eq_iff.2 decides) fits, rfl⟩

/-- As long as something is left, there is a character to pass. -/
theorem length_oneCharacter_ne_zero (more : cursor.ahead ≠ []) :
    cursor.oneCharacter.length ≠ 0 := by
  obtain ⟨c, rest, ahead⟩ := List.exists_cons_of_ne_nil more
  rw [oneCharacter_eq ahead]
  exact Nat.ne_of_gt c.utf8Size_pos

/-- A verdict claims something, unless it is that of a success which claims nothing. -/
theorem length_claim_ne_zero (more : cursor.ahead ≠ [])
    (free : ¬ Stall recognizers cursor.ahead) :
    ((judge recognizers cursor.ahead).claim cursor).length ≠ 0 := by
  cases verdict : judge recognizers cursor.ahead with
  | accepted success =>
    intro nothing
    exact free ⟨success, judge_eq_iff.1 verdict, nothing⟩
  | rejected failure =>
    -- A failure that claims nothing passes one character.
    rw [Verdict.claim, passed]
    split
    · exact length_oneCharacter_ne_zero more
    · assumption
  | unexpected => exact length_oneCharacter_ne_zero more

/-- A round that does not stall moves the offset. -/
theorem offset_lt_of_not_stall (more : cursor.ahead ≠ [])
    (free : ¬ Stall recognizers cursor.ahead) (ran : cursor.round recognizers = .ok round) :
    cursor.position.offset < round.next.position.offset := by
  have some := length_claim_ne_zero more free
  obtain ⟨verdict, span, rest, decided, ahead, fits, rfl⟩ := exists_played_of_round ran
  rw [offset_lt_played_iff]
  rintro rfl
  rw [decided, ← fits] at some
  exact some rfl

/-! ### Where rounds start -/

namespace Starts

theorem ahead_ne_nil (starts : Starts recognizers cursor number start) : start.ahead ≠ [] := by
  cases starts with
  | first more => exact more
  | next before ran more => exact more

/-- Each round of the loop starts at one cursor only. -/
theorem unique (starts : Starts recognizers cursor number start)
    (also : Starts recognizers cursor number other) : start = other := by
  induction starts generalizing other with
  | first => cases also with | first => rfl
  | next before ran more ih =>
    cases also with
    | next before' ran' more' =>
      rw [ih before', ran', Except.ok.injEq] at ran
      rw [ran]

/-- Before a round starts, all rounds before it did. -/
theorem exists_of_le (starts : Starts recognizers cursor number start) {early : Nat}
    (le : early ≤ number) : ∃ start, Starts recognizers cursor early start := by
  induction starts with
  | first more =>
    obtain rfl := Nat.le_zero.1 le
    exact ⟨cursor, .first more⟩
  | @next number _ round before ran more ih =>
    rcases Nat.le_succ_iff.1 le with earlier | rfl
    · exact ih earlier
    · exact ⟨round.next, .next before ran more⟩

/-- The rounds behind the first one are those of the loop from where it leads. -/
theorem of_next (more : cursor.ahead ≠ []) (ran : cursor.round recognizers = .ok round)
    (starts : Starts recognizers round.next number start) :
    Starts recognizers cursor (number + 1) start := by
  induction starts with
  | first left => exact .next (.first more) ran left
  | next before ran' left ih => exact .next ih ran' left

theorem exists_next (starts : Starts recognizers cursor (number + 1) start) :
    cursor.ahead ≠ [] ∧ ∃ round, cursor.round recognizers = .ok round ∧
      Starts recognizers round.next number start := by
  induction number generalizing start with
  | zero =>
    obtain _ | ⟨before, ran, more⟩ := starts
    obtain ⟨left⟩ := before
    exact ⟨left, _, ran, .first more⟩
  | succ number ih =>
    obtain _ | ⟨before, ran, more⟩ := starts
    obtain ⟨left, round, first, later⟩ := ih before
    exact ⟨left, round, first, .next later ran more⟩

/-- Where a round stalls, every later one starts, and none starts anywhere else. -/
theorem add_iff_of_stall (starts : Starts recognizers cursor number start)
    (stall : Stall recognizers start.ahead) (further : Nat) :
    Starts recognizers cursor (number + further) other ↔ other = start := by
  have again : Starts recognizers cursor (number + further) start := by
    induction further with
    | zero => exact starts
    | succ further ih =>
      obtain ⟨round, ran, back⟩ := exists_round_of_stall stall
      have more := starts.ahead_ne_nil
      rw [← back] at more
      have later := Starts.next ih ran more
      rwa [back] at later
  constructor
  · intro also
    exact also.unique again
  · rintro rfl
    exact again

/-- The loop stalls at one cursor only. -/
theorem unique_of_stall {later : Nat} (starts : Starts recognizers cursor number start)
    (stall : Stall recognizers start.ahead) (also : Starts recognizers cursor later other)
    (stall' : Stall recognizers other.ahead) : start = other := by
  rcases Nat.le_total number later with le | ge
  · obtain ⟨further, rfl⟩ := Nat.exists_eq_add_of_le le
    exact ((starts.add_iff_of_stall stall further).1 also).symm
  · obtain ⟨further, rfl⟩ := Nat.exists_eq_add_of_le ge
    exact (also.add_iff_of_stall stall' further).1 starts

end Starts

/-! ### The loop as a whole -/

theorem loop_of_done (done : cursor.ahead = []) (limit : Nat) :
    loop recognizers limit cursor = some ⟨[], .complete, cursor⟩ := by
  unfold loop
  rw [if_pos (atEnd_iff.2 done)]

theorem loop_zero (more : cursor.ahead ≠ []) : loop recognizers 0 cursor = none := by
  rw [loop, if_neg (atEnd_iff.not.2 more)]

theorem loop_succ_of_error {error : ClaimError} (more : cursor.ahead ≠ [])
    (ran : cursor.round recognizers = .error error) (limit : Nat) :
    loop recognizers (limit + 1) cursor = some ⟨[], .refused error, cursor⟩ := by
  rw [loop, if_neg (atEnd_iff.not.2 more)]
  simp only [ran]

theorem loop_succ_of_ok (more : cursor.ahead ≠ []) (ran : cursor.round recognizers = .ok round)
    (limit : Nat) : loop recognizers (limit + 1) cursor =
      (loop recognizers limit round.next).map (Run.after round) := by
  rw [loop, if_neg (atEnd_iff.not.2 more)]
  simp only [ran]

/-- The loop has not ended within a number of rounds exactly if it starts another one. -/
theorem loop_eq_none_iff :
    loop recognizers limit cursor = none ↔ ∃ start, Starts recognizers cursor limit start := by
  constructor
  · intro unended
    induction limit generalizing cursor with
    | zero =>
      by_cases done : cursor.ahead = []
      · rw [loop_of_done done] at unended
        contradiction
      · exact ⟨cursor, .first done⟩
    | succ limit ih =>
      by_cases done : cursor.ahead = []
      · rw [loop_of_done done] at unended
        contradiction
      · cases ran : cursor.round recognizers with
        | error refused =>
          rw [loop_succ_of_error done ran] at unended
          contradiction
        | ok round =>
          rw [loop_succ_of_ok done ran, Option.map_eq_none_iff] at unended
          obtain ⟨start, later⟩ := ih unended
          exact ⟨start, later.of_next done ran⟩
  · rintro ⟨start, starts⟩
    induction limit generalizing cursor with
    | zero =>
      obtain ⟨more⟩ := starts
      exact loop_zero more
    | succ limit ih =>
      obtain ⟨more, round, ran, later⟩ := starts.exists_next
      rw [loop_succ_of_ok more ran, ih later]
      rfl

namespace Plays

variable {run : Run}

/-- A run that is not endless is what the loop plays, in at most one round for each character. -/
theorem loop_eq (plays : Plays recognizers cursor run) (ended : run.ending ≠ .endless)
    (enough : cursor.ahead.length ≤ limit) : loop recognizers limit cursor = some run := by
  induction plays generalizing limit with
  | complete done => exact loop_of_done done limit
  | refused more ran =>
    obtain ⟨limit, rfl⟩ := Nat.exists_eq_add_of_lt
      (Nat.lt_of_lt_of_le (List.length_pos_iff.2 more) enough)
    exact loop_succ_of_error more ran _
  | endless => exact absurd rfl ended
  | after more ran moved later ih =>
    have shorter := length_ahead_lt_of_round ran moved
    obtain ⟨limit, rfl⟩ := Nat.exists_eq_add_of_lt
      (Nat.lt_of_lt_of_le (List.length_pos_iff.2 more) enough)
    rw [loop_succ_of_ok more ran, ih ended (by omega)]
    rfl

/-- A run is endless only where the loop comes to a round that stalls, and it stops there. -/
theorem exists_stall_of_endless (plays : Plays recognizers cursor run)
    (endless : run.ending = .endless) : ∃ number,
      Starts recognizers cursor number run.stop ∧ Stall recognizers run.stop.ahead := by
  induction plays with
  | complete | refused => contradiction
  | @endless cursor round more ran still =>
    refine ⟨0, .first more, ?_⟩
    by_contra free
    exact still (offset_lt_of_not_stall more free ran)
  | after more ran moved later ih =>
    obtain ⟨number, starts, stall⟩ := ih endless
    exact ⟨number + 1, starts.of_next more ran, stall⟩

end Plays

/-- What the loop plays where it ends is the run. -/
theorem plays_of_loop {run : Run} (ended : loop recognizers limit cursor = some run) :
    Plays recognizers cursor run := by
  induction limit generalizing cursor run with
  | zero =>
    by_cases done : cursor.ahead = []
    · rw [loop_of_done done] at ended
      cases ended
      exact .complete done
    · rw [loop_zero done] at ended
      contradiction
  | succ limit ih =>
    by_cases done : cursor.ahead = []
    · rw [loop_of_done done] at ended
      cases ended
      exact .complete done
    · cases ran : cursor.round recognizers with
      | error refused =>
        rw [loop_succ_of_error done ran] at ended
        cases ended
        exact .refused done ran
      | ok round =>
        have free : ¬ Stall recognizers cursor.ahead := by
          intro stall
          have again := ((Starts.first done).add_iff_of_stall stall (limit + 1)).2 rfl
          rw [Nat.zero_add] at again
          rw [loop_eq_none_iff.2 ⟨cursor, again⟩] at ended
          contradiction
        rw [loop_succ_of_ok done ran] at ended
        obtain ⟨later, played, rfl⟩ := Option.map_eq_some_iff.1 ended
        exact .after done ran (offset_lt_of_not_stall done free ran) (ih played)

/-- The loop ends in time, or it comes to a round that it never leaves. If the first success claims
something in every round that starts, the loop ends after at most one round for each character that
is left, at the end of the text or at a claim that is refused, and it has played the run that is
computed. If in some round the first success claims nothing, the loop does not end after any number
of rounds: all later rounds start, and each of them where that one does. -/
theorem loop_ends_or_stalls (recognizers : List Recognizer) (cursor : Cursor) :
    let run := cursor.run recognizers
    ((∀ number start, Starts recognizers cursor number start → ¬ Stall recognizers start.ahead) →
      loop recognizers cursor.ahead.length cursor = some run ∧
      (run.ending = .complete ∨ ∃ error, run.ending = .refused error)) ∧
    ∀ number start, Starts recognizers cursor number start → Stall recognizers start.ahead →
      (∀ limit, loop recognizers limit cursor = none) ∧
      (∀ further later, Starts recognizers cursor (number + further) later ↔ later = start) ∧
      run.ending = .endless ∧ run.stop = start := by
  intro run
  have plays : Plays recognizers cursor run := plays_run recognizers cursor
  constructor
  · intro free
    have ended : run.ending ≠ .endless := by
      intro endless
      obtain ⟨number, starts, stall⟩ := plays.exists_stall_of_endless endless
      exact free number run.stop starts stall
    refine ⟨plays.loop_eq ended (Nat.le_refl _), ?_⟩
    cases ending : run.ending with
    | complete => exact .inl rfl
    | refused error => exact .inr ⟨error, rfl⟩
    | endless => exact absurd ending ended
  · intro number start starts stall
    have never : ∀ limit, loop recognizers limit cursor = none := by
      intro limit
      -- Rounds before the one that stalls have started, and those behind it do.
      have further := (starts.add_iff_of_stall stall limit).2 rfl
      exact loop_eq_none_iff.2 (further.exists_of_le (Nat.le_add_left limit number))
    have endless : run.ending = .endless := by
      by_contra ended
      have finished := plays.loop_eq ended (Nat.le_refl _)
      rw [never] at finished
      contradiction
    obtain ⟨other, there, stalls⟩ := plays.exists_stall_of_endless endless
    exact ⟨never, fun further later => starts.add_iff_of_stall stall further, endless,
      there.unique_of_stall stalls starts stall⟩

/-- A recognizer that succeeds at a question mark without taking it. The loop passes the name in
front of it in one round, and then never ends. Without the question mark it ends in time. -/
theorem loop_before_untaken_mark :
    let recognizers : List Recognizer := [
      .ofRules "word" [⟨['x'], .success (.tagged 1 ["word"])⟩],
      .ofRules "mark" [⟨['?'], .success (.tagged 0 ["mark"])⟩]]
    let start : Cursor := ⟨"file", .flat, ['x'], ['?', 'x'], ⟨1, 2, 1⟩⟩
    let cursor := ofText "file" .flat ['x', '?', 'x']
    let other := ofText "file" .flat ['x', 'x']
    (Starts recognizers cursor 1 start ∧ Stall recognizers start.ahead ∧
      (∀ limit, loop recognizers limit cursor = none) ∧
      ∀ further later, Starts recognizers cursor (1 + further) later ↔ later = start) ∧
    loop recognizers 2 other = some (other.run recognizers) := by
  intro recognizers start cursor other
  have word : judge recognizers cursor.ahead = .accepted (.tagged 1 ["word"]) := by decide +kernel
  have mark : judge recognizers start.ahead = .accepted (.tagged 0 ["mark"]) := by decide +kernel
  have ahead : cursor.ahead = ['x'] ++ ['?', 'x'] := rfl
  have ran := round_of_fits ahead word rfl
  have starts : Starts recognizers cursor 1 start :=
    .next (.first (List.cons_ne_nil _ _)) ran (List.cons_ne_nil _ _)
  have stall : Stall recognizers start.ahead := ⟨_, judge_eq_iff.1 mark, rfl⟩
  obtain ⟨never, again, -⟩ := (loop_ends_or_stalls recognizers cursor).2 1 start starts stall
  have ending : (other.run recognizers).ending = .complete := by decide +kernel
  -- The other run is complete, so none of its rounds can stall.
  obtain ⟨ends, stalls⟩ := loop_ends_or_stalls recognizers other
  obtain ⟨finished, -⟩ := ends fun number start starts stall => by
    obtain ⟨-, -, endless, -⟩ := stalls number start starts stall
    rw [ending] at endless
    contradiction
  exact ⟨⟨starts, stall, never, again⟩, finished⟩

end Cursor

end Lexing
