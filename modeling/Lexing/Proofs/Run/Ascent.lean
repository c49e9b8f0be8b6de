import Lexing.Proofs.Cursor.Probe
import Lexing.Proofs.Run.Parts

/-!
# Positions that only grow

Whoever merges the tokens of several passes, or looks a position up among them, sorts them by line,
then by column, then by offset. None of the three tells the order by itself: columns start anew on
every line, and at the greatest column they stay where they are, while a line that holds many tokens
does not grow either. Together they do, wherever a cursor was led before and whatever was announced
of its tabs. Only a claim that announces breaks and covers none could lead backwards, and the
recognizers of the language make no such claim, not even where they fail to announce a break.

## Main definitions

* `Claim.Founded`: a claim announces breaks only if it covers one
* `Round.Founded`: so does the claim that a round passes

## Main results

* `Cursor.position_lt_of_advance`: a founded claim leads to a later position
* `Cursor.Plays.pairwise_start`: rounds with founded claims start later and later
* `Lexeme.Turn.founded`: the recognizers of the language make founded claims
* `Cursor.positions_ascend`: moves lead forward, and tokens start later and later
-/

namespace Lexing

open Text

/-- A claim announces breaks only if the span that it covers holds one. -/
def Claim.Founded (claim : Claim) (span : Text) : Prop :=
  claim.multiline = true → hasBreak span = true

/-- The claim that the round passes announces breaks only if the round passes one. -/
def Round.Founded (round : Round) : Prop :=
  (round.verdict.claim round.start).Founded round.span

/-! ### One move -/

namespace Cursor

variable {cursor moved : Cursor} {span rest : Text}

theorem position_lt_beyond {claim : Claim} (small : cursor.position.column ≤ Word.greatest)
    (some : span ≠ []) (founded : claim.Founded span) (rest : Text) :
    cursor.position < (cursor.beyond claim span rest).position := by
  rw [position_beyond]
  exact Position.lt_past small some founded cursor.tabRule claim.tabs

/-- A claim that is not empty and announces no breaks in vain leads to a later position. -/
theorem position_lt_of_advance {claim : Claim} (small : cursor.position.column ≤ Word.greatest)
    (ran : cursor.advance claim = .ok moved) (some : claim.length ≠ 0)
    (founded : ∀ span rest, cursor.ahead = span ++ rest → size span = claim.length →
      claim.Founded span) : cursor.position < moved.position := by
  obtain ⟨span, rest, ahead, fits, rfl⟩ := exists_beyond_of_advance ran
  have more : span ≠ [] := by
    rintro rfl
    exact some fits.symm
  exact position_lt_beyond small more (founded span rest ahead fits) rest

/-! ### Runs -/

namespace Plays

variable {recognizers : List Recognizer} {run : Run}

/-- No round starts before the run does. -/
theorem position_le_start (plays : Plays recognizers cursor run)
    (small : cursor.position.column ≤ Word.greatest)
    (founded : ∀ round ∈ run.rounds, round.Founded) :
    ∀ round ∈ run.rounds, cursor.position ≤ round.start.position := by
  induction plays using rounds_induction with
  | stop => simp
  | after cursor verdict span rest run plays decided ahead some fits later ih =>
    rw [Run.rounds_after, List.forall_mem_cons] at founded ⊢
    obtain ⟨here, others⟩ := founded
    rw [Round.Founded, span_played ahead] at here
    have forward := position_lt_beyond small some here rest
    have next := ih (Position.column_past_le small ..) others
    exact ⟨.inr rfl, fun round inside => .inl (Position.lt_of_lt_of_le forward (next round inside))⟩

/-- Every round starts at a later position than the rounds before it. -/
theorem pairwise_start (plays : Plays recognizers cursor run)
    (small : cursor.position.column ≤ Word.greatest)
    (founded : ∀ round ∈ run.rounds, round.Founded) :
    run.rounds.Pairwise fun round later => round.start.position < later.start.position := by
  induction plays using rounds_induction with
  | stop => exact .nil
  | after cursor verdict span rest run plays decided ahead some fits later ih =>
    rw [Run.rounds_after, List.forall_mem_cons] at founded
    obtain ⟨here, others⟩ := founded
    rw [Round.Founded, span_played ahead] at here
    have forward := position_lt_beyond small some here rest
    have bound := Position.column_past_le small cursor.tabRule (verdict.claim cursor).multiline
      (verdict.claim cursor).tabs span
    refine .cons (fun round inside => ?_) (ih bound others)
    -- The later rounds do not start before the place that this one leads to.
    exact Position.lt_of_lt_of_le forward (later.position_le_start bound others round inside)

/-- Every token lies at a later position than the tokens before it. -/
theorem pairwise_position (plays : Plays recognizers cursor run)
    (small : cursor.position.column ≤ Word.greatest)
    (founded : ∀ round ∈ run.rounds, round.Founded) :
    run.tokens.Pairwise fun token later => token.origin.position < later.origin.position := by
  rw [Run.tokens, List.pairwise_filterMap]
  refine (plays.pairwise_start small founded).imp_of_mem ?_
  intro round next inside inside' forward token made later made'
  obtain ⟨start, verdict, span, rest, -, rfl⟩ := plays.exists_played_of_mem round inside
  obtain ⟨start', verdict', span', rest', -, rfl⟩ := plays.exists_played_of_mem next inside'
  -- A token lies where its round starts.
  rw [(origin_and_content_of_mem_token made).1, (origin_and_content_of_mem_token made').1]
  exact forward

end Plays

end Cursor

/-- What decides a turn of the language announces no breaks in vain. -/
theorem Lexeme.Turn.founded {span rest : Text} {verdict : Verdict}
    (turn : Turn span rest verdict) (cursor : Cursor) : (verdict.claim cursor).Founded span := by
  intro announced
  rcases turn.quoted_or_announced cursor with ⟨inside, -, -, silent⟩ | ⟨-, telling, -⟩
  · rw [silent] at announced
    contradiction
  · rw [← telling, announced]

namespace Cursor

/-- Every round of the language passes a founded claim. -/
theorem Turns.founded {cursor : Cursor} {run : Run} (turns : Turns cursor run)
    (aligned : Aligned cursor) : ∀ round ∈ run.rounds, round.Founded := by
  intro round inside
  obtain ⟨start, span, rest, verdict, -, -, ahead, turn, rfl⟩ :=
    turns.exists_turn_of_mem aligned round inside
  rw [Round.Founded, span_played ahead]
  exact turn.founded start

/-- Wherever calls lead, every move by a claim that is not empty leads to a later position, in line,
then in column, then in offset, provided that breaks are only announced where there is one; it does
not matter what is announced of tabs, or whether the column can still grow. And of every text, with
every rule for tabs, the recognizers of the language make tokens that lie later and later. -/
theorem positions_ascend (file : String) (rule : TabRule) (text : Text) (calls : List Call) :
    let cursor := (ofText file rule text).afterCalls calls
    (∀ claim moved, cursor.advance claim = .ok moved → claim.length ≠ 0 →
      (∀ span rest, cursor.ahead = span ++ rest → size span = claim.length →
        claim.multiline = true → hasBreak span = true) →
      cursor.position < moved.position) ∧
    ((ofText file rule text).run Lexeme.standard).tokens.Pairwise fun token later =>
      token.origin.position < later.origin.position := by
  intro cursor
  have first : (ofText file rule text).position.column ≤ Word.greatest := by
    exact (by decide : 1 ≤ Word.greatest)
  have small : cursor.position.column ≤ Word.greatest := column_afterCalls_le first calls
  constructor
  · intro claim moved ran some founded
    exact position_lt_of_advance small ran some founded
  · have turns := turns_run (ofText file rule text)
    exact turns.plays.pairwise_position first (turns.founded (aligned_ofText file rule text))

/-- Behind a tab that takes up all columns there are. A letter leads no further on the line, and a
letter with a break leads back to the first column, but both lead to later positions. -/
theorem positions_ascend_from_greatest_column :
    let cursor := (ofText "file" (.more Word.greatest) ['\t', 'a', '\n']).afterCalls
      [.advance ⟨1, false, true⟩]
    cursor.position = ⟨1, Word.greatest, 1⟩ ∧
    ∃ along behind, cursor.advance (.ofLength 1) = .ok along ∧
      along.position = ⟨1, Word.greatest, 2⟩ ∧ cursor.position < along.position ∧
      cursor.advance ⟨2, true, false⟩ = .ok behind ∧
      behind.position = ⟨2, 1, 3⟩ ∧ cursor.position < behind.position := by
  intro cursor
  obtain ⟨forward, -⟩ := positions_ascend "file" (.more Word.greatest) ['\t', 'a', '\n']
    [.advance ⟨1, false, true⟩]
  have ahead : cursor.ahead = ['a', '\n'] := by rfl
  have letter : cursor.advance (.ofLength 1) = .ok (cursor.beyond (.ofLength 1) ['a'] ['\n']) :=
    advance_beyond ahead rfl
  have line : cursor.advance ⟨2, true, false⟩ =
      .ok (cursor.beyond ⟨2, true, false⟩ ['a', '\n'] []) := advance_beyond ahead rfl
  refine ⟨by decide +kernel, _, _, letter, by decide +kernel, ?_, line, by decide +kernel, ?_⟩
  · apply forward _ _ letter (by decide)
    intro span rest whole fits announced
    contradiction
  · apply forward _ _ line (by decide)
    intro span rest whole fits announced
    have same : span ++ rest = ['a', '\n'] ++ [] := whole.symm.trans ahead
    rw [(append_inj_of_size same fits).1]
    rfl

end Cursor

end Lexing
