import Lexing.Proofs.Run.Spans
import Lexing.Proofs.Run.Turns
import Lexing.Proofs.Text.Boundary
import Mathlib.Data.List.Pairwise

/-!
# What a run marks

Whoever reads the diagnostics of a run wants to find what is wrong with the text, all of it and
nothing else. A recognizer reports offsets while it reads, before it is known how far its claim will
go; a problem past the claim would lie in the next token, and one that is left out would leave
something unlexed without a mark. The rounds of a run divide the text into parts, and the
diagnostics lie in those that failed.

## Main definitions

* `Part`, `Round.IsPart`: what becomes of the text that a round passes
* `Round.Covers`, `Round.Passes`: the bytes of a text that a round passes
* `Run.Divides`: the rounds of a run divide a text into parts

## Main results

* `Cursor.Turns.divides`: the runs of the language divide every text
* `Cursor.diagnostics_mark_failed`: diagnostics mark the parts that failed, and no others
-/

namespace Lexing

open Text Unicode

/-- What becomes of a piece of a text. -/
inductive Part where
  | token
  | blank
  | comment
  | failed
  deriving DecidableEq, Repr

namespace Round

/-- A success won the round and made no token. -/
def Skips (round : Round) : Prop :=
  round.token = none ∧ ∃ success, round.verdict = .accepted success

/-- What becomes of the piece of a text that a round passes. -/
inductive IsPart (round : Round) : Part → Prop
  /-- A token shows all of it. -/
  | token {token : Token} {success : Success} (won : round.verdict = .accepted success)
      (made : round.token = some token) (shown : token.content.text = round.span) :
      IsPart round .token
  /-- It is white space, all that stands there. -/
  | blank (skips : round.Skips) (some : round.span ≠ [])
      (front : IsFront isWhiteSpace round.span round.next.ahead) : IsPart round .blank
  /-- It is a comment, up to the end of the line. -/
  | comment {body : Text} (skips : round.Skips) (slashes : round.span = '/' :: '/' :: body)
      (front : IsFront (!isBreak ·) body round.next.ahead) : IsPart round .comment
  /-- A failure claimed it. -/
  | rejected {failure : Failure} (lost : round.verdict = .rejected failure)
      (claimed : failure.claim.length = size round.span) : IsPart round .failed
  /-- It is a single character that no recognizer had any business with. -/
  | unexpected {c : Char} (lost : round.verdict = .unexpected) (alone : round.span = [c]) :
      IsPart round .failed

/-- The round passes the byte at an offset. -/
def Covers (round : Round) (offset : Nat) : Prop :=
  round.start.position.offset ≤ offset ∧ offset < round.next.position.offset

/-- The bytes that the round passes are those of its span in the text. -/
def Passes (round : Round) (text : Text) : Prop :=
  ∃ before after, text = before ++ round.span ++ after ∧
    round.start.position.offset = size before ∧
    round.next.position.offset = size before + size round.span

/-- The part of a round, told by who won it and by its first character. -/
def part (round : Round) : Part :=
  match round.verdict with
  | .accepted _ =>
    if round.token.isSome then .token
    else if round.span.head? = some '/' then .comment
    else .blank
  | .rejected _ => .failed
  | .unexpected => .failed

/-- A round is of one part only. -/
theorem IsPart.eq_part {round : Round} {part : Part} (is : round.IsPart part) :
    part = round.part := by
  cases is with
  | token won made => simp [Round.part, won, made]
  | blank skips some front =>
    obtain ⟨unmade, success, won⟩ := skips
    have slashless : round.span.head? ≠ Option.some '/' := by
      intro first
      obtain ⟨more, shape⟩ := List.head?_eq_some_iff.1 first
      have white := front.inside '/' (by simp [shape])
      exact absurd white (by decide)
    simp [Round.part, won, unmade, slashless]
  | comment skips slashes =>
    obtain ⟨unmade, success, won⟩ := skips
    simp [Round.part, won, unmade, slashes]
  | rejected lost => simp [Round.part, lost]
  | unexpected lost => simp [Round.part, lost]

/-- A round of some part failed exactly if no success won it. -/
theorem IsPart.failed_iff {round : Round} {part : Part} (is : round.IsPart part) :
    round.IsPart .failed ↔ ∀ success, round.verdict ≠ .accepted success := by
  constructor
  · intro failed success won
    cases failed with
    | rejected lost | unexpected lost =>
      rw [won] at lost
      contradiction
  · intro lost
    cases is with
    | token won => exact absurd won (lost _)
    | blank skips | comment skips =>
      obtain ⟨-, success, won⟩ := skips
      exact absurd won (lost success)
    | rejected lost claimed => exact .rejected lost claimed
    | unexpected lost alone => exact .unexpected lost alone

end Round

/-- The rounds of a run divide a text into parts. -/
structure Run.Divides (run : Run) (text : Text) : Prop where
  whole : run.rounds.flatMap Round.span = text
  passes : ∀ round ∈ run.rounds, round.Passes text
  /-- Each byte of the text is passed in one round. -/
  covered : ∀ offset < size text, ∃! round, round ∈ run.rounds ∧ round.Covers offset
  part : ∀ round ∈ run.rounds, ∃! part, round.IsPart part

/-- The bytes that a round passes are those of its span. -/
theorem Cursor.Aligned.passes_played {cursor : Cursor} (aligned : Aligned cursor)
    {span rest : Text} (ahead : cursor.ahead = span ++ rest) (verdict : Verdict) :
    (cursor.played verdict span rest).Passes cursor.input := by
  have passed := @span_played cursor verdict span rest ahead
  refine ⟨cursor.behind.reverse, rest, ?_, ?_, ?_⟩
  · rw [passed, Cursor.input, ahead, List.append_assoc]
  · rw [size_reverse]
    exact aligned
  · rw [passed, offset_next_played, size_reverse, ← aligned]

/-! ### One turn -/

namespace Lexeme.Turn

open Cursor

variable {span rest : Text} {verdict : Verdict} {cursor : Cursor}

/-- The round of a turn is of some part. -/
theorem exists_isPart (turn : Turn span rest verdict) (ahead : cursor.ahead = span ++ rest) :
    ∃ part, (cursor.played verdict span rest).IsPart part := by
  have passed := @span_played cursor verdict span rest ahead
  cases turn with
  | blank some front =>
    refine ⟨.blank, .blank ⟨rfl, _, rfl⟩ ?_ ?_⟩
    · rwa [passed]
    · rwa [passed]
  | comment front => exact ⟨.comment, .comment ⟨rfl, _, rfl⟩ passed front⟩
  | literal | number | name | symbol => exact ⟨.token, .token rfl rfl passed.symm⟩
  | brokenLiteral | strayNumber => exact ⟨.failed, .rejected rfl (by rw [passed]; rfl)⟩
  | unexpected => exact ⟨.failed, .unexpected rfl passed⟩

/-- The round of a turn reports exactly if it failed. -/
theorem isPart_failed_iff (turn : Turn span rest verdict) (ahead : cursor.ahead = span ++ rest) :
    (cursor.played verdict span rest).IsPart .failed ↔
      (cursor.played verdict span rest).diagnostics ≠ [] := by
  obtain ⟨part, is⟩ := turn.exists_isPart ahead
  rw [is.failed_iff]
  constructor
  · intro lost silent
    obtain ⟨success, won⟩ := turn.exists_accepted silent
    exact lost success won
  · rintro telling success rfl
    exact telling rfl

/-- What a turn reports lies between two characters of its span, and marks nothing behind it. -/
theorem marks (turn : Turn span rest verdict) (ahead : cursor.ahead = span ++ rest)
    (aligned : Aligned cursor) {diagnostic : Diagnostic}
    (reported : diagnostic ∈ (cursor.played verdict span rest).diagnostics) :
    let round := cursor.played verdict span rest
    IsBoundary cursor.input diagnostic.position.offset ∧ round.Covers diagnostic.position.offset ∧
      diagnostic.position.offset + diagnostic.highlight ≤ round.next.position.offset := by
  intro round
  have located : diagnostic ∈ verdict.problems.map cursor.diagnose := by
    rw [← Verdict.diagnostics_eq]
    exact reported
  obtain ⟨problem, inside, rfl⟩ := List.mem_map.1 located
  obtain ⟨before, after, shape, place, some, -, marked⟩ := turn.exists_of_mem_problems inside
  have whole : cursor.ahead = before ++ (after ++ rest) := by
    rw [ahead, shape, List.append_assoc]
  have offset : (cursor.diagnose problem).position.offset =
      cursor.position.offset + size before := by
    rw [diagnose, place, locate_size whole, Position.offset_past]
  have highlight : (cursor.diagnose problem).highlight = problem.highlight := rfl
  have positive : size after ≠ 0 := size_eq_zero_iff.not.2 some
  have stop : round.next.position.offset = cursor.position.offset + size before + size after := by
    rw [offset_next_played, shape, size_append, Nat.add_assoc]
  rw [offset, highlight, Round.Covers, stop]
  refine ⟨⟨cursor.behind.reverse ++ before, after ++ rest, ?_, ?_⟩, ⟨?_, by omega⟩, by omega⟩
  · rw [Cursor.input, whole, List.append_assoc]
  · rw [size_append, size_reverse, aligned]
  · exact Nat.le_add_right _ _

end Lexeme.Turn

/-! ### Rounds one after the other -/

namespace Cursor

open Lexeme

variable {recognizers : List Recognizer} {cursor : Cursor} {run : Run}

namespace Plays

/-- No byte is passed in two rounds. -/
theorem eq_of_covers (plays : Plays recognizers cursor run) {offset : Nat} {round other : Round}
    (inside : round ∈ run.rounds) (inside' : other ∈ run.rounds) (covers : round.Covers offset)
    (covers' : other.Covers offset) : round = other := by
  have apart : run.rounds.Pairwise fun round later =>
      ¬ (round.Covers offset ∧ later.Covers offset) := by
    refine plays.pairwise_rounds.imp fun le both => ?_
    obtain ⟨⟨-, less⟩, ⟨ge, -⟩⟩ := both
    omega
  have symmetric : Std.Symm fun round later : Round =>
      ¬ (round.Covers offset ∧ later.Covers offset) := ⟨fun _ _ free both => free both.symm⟩
  by_contra different
  exact apart.forall inside inside' different ⟨covers, covers'⟩

/-- Each byte that lies ahead is passed in some round, up to where the run stops. -/
theorem exists_covers (plays : Plays recognizers cursor run) {offset : Nat}
    (start : cursor.position.offset ≤ offset) (inside : offset < run.stop.position.offset) :
    ∃ round ∈ run.rounds, round.Covers offset := by
  induction plays using rounds_induction with
  | stop => exact absurd start (Nat.not_le.2 inside)
  | after cursor verdict span rest run plays decided ahead some fits later ih =>
    rw [Run.rounds_after]
    rcases Nat.lt_or_ge offset (cursor.played verdict span rest).next.position.offset with
      here | behind
    · exact ⟨_, List.mem_cons_self, start, here⟩
    · obtain ⟨round, member, covers⟩ := ih behind inside
      exact ⟨round, List.mem_cons_of_mem _ member, covers⟩

end Plays

/-- Every round of a run of the language is a turn, at a cursor whose offset is right. -/
theorem Turns.exists_turn_of_mem (turns : Turns cursor run) (aligned : Aligned cursor) :
    ∀ round ∈ run.rounds, ∃ start span rest verdict, Aligned start ∧ start.input = cursor.input ∧
      start.ahead = span ++ rest ∧ Turn span rest verdict ∧
      round = start.played verdict span rest := by
  induction turns with
  | complete done => simp
  | @after cursor span rest verdict run ahead turn later ih =>
    rw [Run.rounds_after]
    have others := ih (aligned.beyond _ span rest)
    rw [input_beyond ahead] at others
    refine List.forall_mem_cons.2 ⟨?_, others⟩
    exact ⟨cursor, span, rest, verdict, aligned, rfl, ahead, turn, rfl⟩

/-! ### A run as a whole -/

namespace Turns

variable {file : String} {rule : TabRule} {text : Text}

/-- The rounds of a run of the language divide a text into parts. -/
theorem divides (turns : Turns (ofText file rule text) run) : run.Divides text where
  whole := by
    have passed := turns.plays.flatMap_span
    rwa [turns.ahead_stop, List.append_nil] at passed
  passes round inside := by
    obtain ⟨start, span, rest, verdict, aligned, input, ahead, -, rfl⟩ :=
      turns.exists_turn_of_mem (aligned_ofText file rule text) round inside
    have passes := aligned.passes_played ahead verdict
    rwa [input] at passes
  covered offset inside := by
    have stop : run.stop.position.offset = 0 + size text := turns.offset_stop
    obtain ⟨round, member, covers⟩ := turns.plays.exists_covers (Nat.zero_le offset) (by omega)
    refine ⟨round, ⟨member, covers⟩, ?_⟩
    rintro other ⟨member', covers'⟩
    exact turns.plays.eq_of_covers member' member covers' covers
  part round inside := by
    obtain ⟨start, span, rest, verdict, -, -, ahead, turn, rfl⟩ :=
      turns.exists_turn_of_mem (aligned_ofText file rule text) round inside
    obtain ⟨part, is⟩ := @Turn.exists_isPart _ _ _ start turn ahead
    exact ⟨part, is, fun other also => also.eq_part.trans is.eq_part.symm⟩

/-- What a round of the language reports lies where it failed. -/
theorem marks_of_mem (turns : Turns (ofText file rule text) run) {round : Round}
    (inside : round ∈ run.rounds) {diagnostic : Diagnostic}
    (reported : diagnostic ∈ round.diagnostics) :
    round.IsPart .failed ∧ IsBoundary text diagnostic.position.offset ∧
      round.Covers diagnostic.position.offset ∧
      diagnostic.position.offset + diagnostic.highlight ≤ round.next.position.offset := by
  obtain ⟨start, span, rest, verdict, aligned, input, ahead, turn, rfl⟩ :=
    turns.exists_turn_of_mem (aligned_ofText file rule text) round inside
  have marks := turn.marks ahead aligned reported
  rw [input] at marks
  exact ⟨(turn.isPart_failed_iff ahead).2 (List.ne_nil_of_mem reported), marks⟩

/-- A round that failed reports something. -/
theorem diagnostics_ne_nil (turns : Turns (ofText file rule text) run) {round : Round}
    (inside : round ∈ run.rounds) (failed : round.IsPart .failed) : round.diagnostics ≠ [] := by
  obtain ⟨start, span, rest, verdict, -, -, ahead, turn, rfl⟩ :=
    turns.exists_turn_of_mem (aligned_ofText file rule text) round inside
  exact (turn.isPart_failed_iff ahead).1 failed

/-- Only the round that reports a diagnostic passes the byte that it lies at. -/
theorem eq_of_covers_diagnostic (turns : Turns (ofText file rule text) run) {round other : Round}
    (inside : round ∈ run.rounds) {diagnostic : Diagnostic}
    (reported : diagnostic ∈ round.diagnostics) (inside' : other ∈ run.rounds)
    (covers : other.Covers diagnostic.position.offset) : other = round := by
  obtain ⟨-, -, there, -⟩ := turns.marks_of_mem inside reported
  exact turns.plays.eq_of_covers inside' inside covers there

/-- No diagnostic is listed before one of an earlier round. -/
theorem pairwise_diagnostics (turns : Turns (ofText file rule text) run) :
    run.diagnostics.Pairwise fun diagnostic later => ∀ round ∈ run.rounds,
      round.Covers later.position.offset →
        diagnostic.position.offset < round.next.position.offset := by
  rw [Run.diagnostics, List.pairwise_flatMap]
  constructor
  -- What one round reports lies in that round.
  · intro round inside
    refine List.pairwise_of_forall_mem_list fun diagnostic reported later reported' => ?_
    intro other inside' covers
    rw [turns.eq_of_covers_diagnostic inside reported' inside' covers]
    exact (turns.marks_of_mem inside reported).2.2.1.2
  · refine turns.plays.pairwise_rounds.imp_of_mem ?_
    intro round next inside inside' before diagnostic reported later reported' other there covers
    rw [turns.eq_of_covers_diagnostic inside' reported' there covers]
    obtain ⟨-, -, ⟨-, less⟩, -⟩ := turns.marks_of_mem inside reported
    obtain ⟨-, -, ⟨ge, less'⟩, -⟩ := turns.marks_of_mem inside' reported'
    omega

end Turns

/-- Diagnostics mark the parts of a text that failed, and no others, whatever the rule for tabs. The
language divides every text into tokens, blanks, comments and parts that failed. Each diagnostic
lies between two characters of the text, at a byte of a part that failed and of no other part, and
marks nothing behind that part. Each part that failed has a diagnostic, and none is listed before
one of an earlier part. -/
theorem diagnostics_mark_failed (file : String) (rule : TabRule) (text : Text) :
    let run := (ofText file rule text).run standard
    run.ending = .complete ∧ run.Divides text ∧
    (∀ diagnostic ∈ run.diagnostics, IsBoundary text diagnostic.position.offset ∧
      (∃ round ∈ run.rounds, round.Covers diagnostic.position.offset) ∧
      ∀ round ∈ run.rounds, round.Covers diagnostic.position.offset → round.IsPart .failed ∧
        diagnostic.position.offset + diagnostic.highlight ≤ round.next.position.offset) ∧
    (∀ round ∈ run.rounds, round.IsPart .failed →
      ∃ diagnostic ∈ run.diagnostics, round.Covers diagnostic.position.offset) ∧
    run.diagnostics.Pairwise fun diagnostic later => ∀ round ∈ run.rounds,
      round.Covers later.position.offset →
        diagnostic.position.offset < round.next.position.offset := by
  intro run
  have turns : Turns (ofText file rule text) run := turns_run _
  refine ⟨turns.ending_eq, turns.divides, ?_, ?_, turns.pairwise_diagnostics⟩
  · intro diagnostic listed
    obtain ⟨round, inside, reported⟩ := List.mem_flatMap.1 listed
    obtain ⟨failed, boundary, covers, marked⟩ := turns.marks_of_mem inside reported
    refine ⟨boundary, ⟨round, inside, covers⟩, fun other inside' covers' => ?_⟩
    rw [turns.eq_of_covers_diagnostic inside reported inside' covers']
    exact ⟨failed, marked⟩
  · intro round inside failed
    obtain ⟨diagnostic, reported⟩ :=
      List.exists_mem_of_ne_nil _ (turns.diagnostics_ne_nil inside failed)
    exact ⟨diagnostic, List.mem_flatMap.2 ⟨round, inside, reported⟩,
      (turns.marks_of_mem inside reported).2.2.1⟩

end Cursor

end Lexing
