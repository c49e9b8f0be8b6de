import Lexing.Proofs.Cursor.Calls
import Lexing.Proofs.Window.Parts

/-!
# One look through four doors

A cursor can be asked to show what lies ahead, to move past it for a claim or for an outcome, or to
move past it for a token. Each of these checks the claim on its own, and moving for a token checks
it twice. The text ahead is a window as well, which has ways of its own to be cut, with offsets
counted from where it starts and not from the start of the text.

All of them look at the same bytes. What a call is refused for depends on how far it reaches and on
nothing else, and where it is not refused, the window on the text ahead can be cut at that length:
its first part is what is shown and what the token holds, the other part lies ahead afterwards.

## Main definitions

* `Call.reach`: the bytes that a call looks at
* `Cursor.Refuses`: what a cursor refuses a length for

## Main results

* `Cursor.answer_eq_error_iff`: what a call is refused for
* `Cursor.take?_tail_iff`, `Cursor.skip?_tail`: the cuts of the window on the text ahead
* `Cursor.answers_of_take?`: what all calls of one reach yield
* `Cursor.answers_afterCalls`: the four doors from every place that calls lead to
-/

namespace Lexing

/-- The bytes that a call looks at, whether it moves past them or not. -/
def Call.reach : Call → Nat
  | advance claim => claim.length
  | advanceOutcome outcome => outcome.claim.length
  | accept success => success.claim.length
  | peek length => length

namespace Cursor

open Text

/-- What a cursor refuses a length for: for more bytes than are left, or for an end inside a
character. The offset of that end is counted from the start of the text. -/
inductive Refuses (cursor : Cursor) (length : Nat) : ClaimError → Prop
  | tooLong (long : size cursor.ahead < length) :
      Refuses cursor length (.tooLong length (size cursor.ahead))
  | insideCharacter (left : length ≤ size cursor.ahead)
      (inside : ¬ IsBoundary cursor.ahead length) :
      Refuses cursor length (.insideCharacter (size cursor.behind + length))

variable {cursor : Cursor} {length : Nat} {error : ClaimError} {front : Window}

/-! ### What is refused -/

/-- A length is refused exactly for what is wrong with it, where the offset of the cursor is that
of its place. -/
theorem span_eq_error_iff (placed : cursor.position.offset = size cursor.behind) :
    cursor.span length = .error error ↔ cursor.Refuses length error := by
  by_cases long : size cursor.ahead < length
  · rw [span_of_size_lt long, Except.error.injEq]
    constructor
    · rintro rfl
      exact .tooLong long
    · intro refuses
      cases refuses with
      | tooLong => rfl
      | insideCharacter left => omega
  · have left := Nat.not_lt.1 long
    cases cut : cut? length cursor.ahead with
    | some pieces =>
      have boundary : IsBoundary cursor.ahead length := by
        rw [← isSome_cut?_iff, cut]
        rfl
      rw [span, cut]
      constructor
      · intro ran
        contradiction
      · intro refuses
        cases refuses with
        | tooLong more => exact absurd more long
        | insideCharacter _ inside => exact absurd boundary inside
    | none =>
      have inside : ¬ IsBoundary cursor.ahead length := by
        rw [← isSome_cut?_iff, cut]
        simp
      rw [span_of_cut?_eq_none left cut, placed, Except.error.injEq]
      constructor
      · rintro rfl
        exact .insideCharacter left inside
      · intro refuses
        cases refuses with
        | tooLong more => exact absurd more long
        | insideCharacter => rfl

/-- Whatever is asked for, a call is refused where its reach is. -/
theorem answer_eq_error_iff_span (cursor : Cursor) (call : Call) :
    cursor.answer call = .error error ↔ cursor.span call.reach = .error error := by
  cases call with
  | advance claim | advanceOutcome claim =>
    rw [answer, advance, Call.reach]
    cases cursor.span _ <;> simp [bind, Except.bind, pure, Except.pure, Except.map]
  | accept success =>
    rw [answer, accept, peek, advance, Call.reach]
    cases cursor.span _ <;> simp [bind, Except.bind, pure, Except.pure, Except.map]
  | peek length =>
    rw [answer, peek, Call.reach]
    cases cursor.span _ <;> simp [bind, Except.bind, pure, Except.pure, Except.map]

theorem answer_eq_error_iff (placed : cursor.position.offset = size cursor.behind) (call : Call) :
    cursor.answer call = .error error ↔ cursor.Refuses call.reach error := by
  rw [answer_eq_error_iff_span, span_eq_error_iff placed]

/-! ### What is not refused -/

/-- The window on the text ahead is cut where the text is. -/
theorem take?_tail_iff : cursor.tail.take? length = some front ↔
    ∃ span rest, cursor.ahead = span ++ rest ∧ size span = length ∧
      front = ⟨cursor.behind, span, rest⟩ := by
  rw [Window.take?_eq_some_iff]
  constructor
  · rintro ⟨rest, ahead, fits, before, after⟩
    have nothing : front.after = rest := after.trans (List.append_nil rest)
    refine ⟨front.text, rest, ahead, fits, ?_⟩
    rw [← nothing, ← show front.before = cursor.behind from before]
  · rintro ⟨span, rest, ahead, fits, rfl⟩
    exact ⟨rest, ahead, fits, rfl, (List.append_nil rest).symm⟩

/-- What is left of the window lies ahead behind the span that is taken off. -/
theorem skip?_tail {span rest : Text} (ahead : cursor.ahead = span ++ rest) (claim : Claim) :
    cursor.tail.skip? (size span) = some (cursor.beyond claim span rest).tail :=
  Window.skip?_eq_some_iff.2 ⟨span, ahead, rfl, rfl, rfl⟩

/-- A call is not refused exactly where the window can be cut at its reach. -/
theorem exists_answer_iff (cursor : Cursor) (call : Call) :
    (∃ answered, cursor.answer call = .ok answered) ↔
      ∃ front, cursor.tail.take? call.reach = some front := by
  cases covered : cursor.span call.reach with
  | error refused =>
    rw [(cursor.answer_eq_error_iff_span call).2 covered]
    constructor
    · rintro ⟨answered, ran⟩
      contradiction
    · rintro ⟨front, cut⟩
      obtain ⟨span, rest, ahead, fits, -⟩ := take?_tail_iff.1 cut
      rw [span_eq_ok_iff.2 ⟨ahead, fits⟩] at covered
      contradiction
  | ok pieces =>
    obtain ⟨ahead, fits⟩ := span_eq_ok_iff.1 covered
    apply iff_of_true
    · cases ran : cursor.answer call with
      | ok answered => exact ⟨answered, rfl⟩
      | error refused =>
        rw [answer_eq_error_iff_span, covered] at ran
        contradiction
    · exact ⟨_, take?_tail_iff.2 ⟨pieces.1, pieces.2, ahead, fits, rfl⟩⟩

/-- A cut of the window on the text ahead is what all calls of that reach yield: it is shown, it is
what the token holds, and all moves leave the cursor where the other part of the window lies
ahead. -/
theorem answers_of_take? (cut : cursor.tail.take? length = some front) :
    cursor.answer (.peek length) = .ok (.window front, cursor) ∧
    ∀ claim : Claim, claim.length = length → ∃ next,
      cursor.answer (.advance claim) = .ok (.moved, next) ∧
      (∀ outcome : Outcome, outcome.claim = claim →
        cursor.answer (.advanceOutcome outcome) = .ok (.moved, next)) ∧
      (∀ tags, cursor.answer (.accept ⟨claim, tags⟩) =
        .ok (.token (tags.map (Token.ofTags cursor.origin front)), next)) ∧
      cursor.tail.skip? length = some next.tail := by
  obtain ⟨span, rest, ahead, rfl, rfl⟩ := take?_tail_iff.1 cut
  have shown : cursor.peek (size span) = .ok ⟨cursor.behind, span, rest⟩ := by
    rw [peek, span_eq_ok_iff.2 ⟨ahead, rfl⟩]
    rfl
  refine ⟨by rw [answer, shown]; rfl, fun claim fits => ?_⟩
  have moved := advance_beyond ahead fits.symm
  refine ⟨cursor.beyond claim span rest, by rw [answer, moved]; rfl, ?_, ?_, skip?_tail ahead claim⟩
  · rintro outcome rfl
    rw [answer, moved]
    rfl
  · intro tags
    rw [answer, accept_beyond ahead fits.symm]
    rfl

/-! ### Wherever calls lead -/

/-- Wherever calls lead, looking ahead, moving by a claim or an outcome, and moving for a token are
one look at the text ahead. They are refused together and for the same reason, which the length
alone decides. They are not refused exactly where the window on the text ahead can be cut at that
length, and that cut is what is shown and what the token holds, at its offsets in the text. The
token lies where the cursor stood before. All moves lead to the same place, and the other part of
the window lies ahead of it. None of this faults on a marker. -/
theorem answers_afterCalls (file : String) (rule : TabRule) (text : Text)
    (fits : size text ≤ mostBytes) (calls : List Call) :
    let cursor := (ofText file rule text).afterCalls calls
    (∀ call other : Call, call.reach = other.reach →
      ∀ error, cursor.answer call = .error error ↔ cursor.answer other = .error error) ∧
    (∀ call error, cursor.answer call = .error error ↔ cursor.Refuses call.reach error) ∧
    (∀ call, (∃ answered, cursor.answer call = .ok answered) ↔
      ∃ front, cursor.tail.take? call.reach = some front) ∧
    (∀ length front, cursor.tail.take? length = some front →
      front.whole = text ∧ front.start = cursor.position.offset ∧
      front.stop = cursor.position.offset + length ∧
      cursor.answer (.peek length) = .ok (.window front, cursor) ∧
      ∀ claim : Claim, claim.length = length → ∃ next,
        cursor.answer (.advance claim) = .ok (.moved, next) ∧
        (∀ outcome : Outcome, outcome.claim = claim →
          cursor.answer (.advanceOutcome outcome) = .ok (.moved, next)) ∧
        (∀ tags, cursor.answer (.accept ⟨claim, tags⟩) =
          .ok (.token (tags.map (Token.ofTags cursor.origin front)), next)) ∧
        cursor.tail.skip? length = some next.tail) ∧
    cursor.toMarker.tail = .ok cursor.tail ∧
    ∀ call, let next := cursor.afterCall call
      cursor.toMarker.perform (Marker.answer call) =
        .ok ((cursor.answer call).map Prod.fst, next.toMarker) ∧
      next.toMarker.tail = .ok next.tail := by
  intro cursor
  obtain ⟨sound, -⟩ := (sound_ofText file rule fits).afterCalls calls
  have placed : cursor.position.offset = size cursor.behind := sound.offset
  have whole : cursor.input = text := input_afterCalls _ calls
  refine ⟨?_, fun call error => answer_eq_error_iff placed call, cursor.exists_answer_iff, ?_,
    sound.tail_toMarker,
    fun call => ⟨sound.perform_answer call, (sound.afterCall call).tail_toMarker⟩⟩
  · intro call other same error
    rw [answer_eq_error_iff placed, answer_eq_error_iff placed, same]
  · intro length front cut
    refine ⟨?_, ?_, ?_, answers_of_take? cut⟩
    all_goals obtain ⟨span, rest, ahead, rfl, rfl⟩ := take?_tail_iff.1 cut
    · rw [← whole, input, ahead, Window.whole, List.append_assoc]
    · exact placed.symm
    · rw [placed]
      rfl

/-- Behind a character of two bytes, whose neighbour has two bytes as well. A length of one is
refused for its end whatever is asked for, and one of two finds that neighbour. -/
theorem answers_between_wide_characters :
    let cursor := (ofText "file" .one ['é', 'ß', 'x']).afterCalls [.peek 1, .advance (.ofLength 2)]
    let front : Window := ⟨['é'], ['ß'], ['x']⟩
    size ['é', 'ß', 'x'] ≤ mostBytes ∧
    (∀ error, cursor.answer (.peek 1) = .error error ↔ cursor.answer
      (.advanceOutcome (.failure (.single 1 0 "fault"))) = .error error) ∧
    cursor.answer (.peek 1) = .error (.insideCharacter 3) ∧
    cursor.tail.take? 2 = some front ∧ front.start = 2 ∧
    ∃ next, cursor.answer (.advance (.ofLength 2)) = .ok (.moved, next) ∧
      cursor.answer (.accept (.tagged 2 ["word"])) =
        .ok (.token (some (.ofTags cursor.origin front ["word"])), next) ∧
      cursor.tail.skip? 2 = some next.tail := by
  intro cursor front
  have fits : size ['é', 'ß', 'x'] ≤ mostBytes := by decide +kernel
  obtain ⟨together, refused, -, found, -⟩ := answers_afterCalls "file" .one ['é', 'ß', 'x'] fits
    [.peek 1, .advance (.ofLength 2)]
  have cut : cursor.tail.take? 2 = some front := by rfl
  obtain ⟨-, start, -, -, moves⟩ := found 2 front cut
  obtain ⟨next, moved, -, made, left⟩ := moves (.ofLength 2) rfl
  refine ⟨fits, together _ _ rfl, (refused _ _).2 ?_, cut, start, next, moved, made _, left⟩
  apply Refuses.insideCharacter
  · decide +kernel
  · rw [← isSome_cut?_iff]
    decide +kernel

end Cursor

end Lexing
