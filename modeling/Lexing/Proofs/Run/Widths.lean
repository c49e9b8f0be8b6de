import Lexing.Proofs.Run.Plays
import Mathlib.Data.List.Forall2

/-!
# One text under two tab rules

What a tab is worth shows in columns and nowhere else. No recognizer sees a position, and no claim
is refused for its column, so the runs of the same recognizers over the same text play the same
rounds whatever the tab rule. A rule that adds more to a tab never leads to a smaller column, on any
path: past a break, over the edge of a word, or back from where a round starts.

## Main definitions

* `Position.Alike`: positions in the same place, where only the columns tell the rules apart
* `Token.Alike`, `Diagnostic.Alike`, `Cursor.Alike`, `Round.Alike`, `Run.Alike`: what differs in
  such positions only

## Main results

* `Position.Alike.past`: the same span leads from such positions to such positions
* `Cursor.Alike.locate`: so does the same offset, even a negative one
* `Cursor.Alike.exists_plays`: alike cursors play alike runs
* `Cursor.runs_alike`: the tab rule changes the columns of a run and nothing else
-/

namespace Lexing

/-! ### What differs in columns only -/

/-- Positions under two rules that are in the same place. Where the first rule adds no more to a tab
than the second, neither is the column greater. -/
structure Position.Alike (p q : TabRule) (a b : Position) : Prop where
  line : a.line = b.line
  offset : a.offset = b.offset
  column_le : p.extra ≤ q.extra → a.column ≤ b.column

/-- Tokens with the same content and tags. -/
structure Token.Alike (p q : TabRule) (a b : Token) : Prop where
  content : a.content = b.content
  tags : a.tags = b.tags
  file : a.origin.file = b.origin.file
  position : Position.Alike p q a.origin.position b.origin.position

/-- Diagnostics that mark and say the same. -/
structure Diagnostic.Alike (p q : TabRule) (a b : Diagnostic) : Prop where
  highlight : a.highlight = b.highlight
  message : a.message = b.message
  position : Position.Alike p q a.position b.position

/-- Cursors under two rules that divide the same text alike. -/
structure Cursor.Alike (p q : TabRule) (a b : Cursor) : Prop where
  left : a.tabRule = p
  right : b.tabRule = q
  file : a.file = b.file
  behind : a.behind = b.behind
  ahead : a.ahead = b.ahead
  position : Position.Alike p q a.position b.position

/-- Rounds that are decided alike at alike cursors, and yield the like. -/
structure Round.Alike (p q : TabRule) (a b : Round) : Prop where
  start : Cursor.Alike p q a.start b.start
  verdict : a.verdict = b.verdict
  token : Option.Rel (Token.Alike p q) a.token b.token
  diagnostics : List.Forall₂ (Diagnostic.Alike p q) a.diagnostics b.diagnostics

/-- Runs of alike rounds that stop alike. -/
structure Run.Alike (p q : TabRule) (a b : Run) : Prop where
  rounds : List.Forall₂ (Round.Alike p q) a.rounds b.rounds
  ending : a.ending = b.ending
  stop : Cursor.Alike p q a.stop b.stop

variable {p q : TabRule}

/-! ### Positions -/

namespace Position

/-- A rule that adds more to a tab leads to no smaller column, even at the edge of a word. -/
theorem clampedAdd_spanColumns_le (more : p.extra ≤ q.extra) {column other : Nat}
    (le : column ≤ other) (tabs : Bool) (span : Text) :
    Word.clampedAdd column (spanColumns p tabs span) ≤
      Word.clampedAdd other (spanColumns q tabs span) := by
  cases tabs with
  | false =>
    -- Where no tab is announced, the rules play no part.
    change min Word.greatest (column + Text.size span) ≤ min Word.greatest (other + Text.size span)
    omega
  | true =>
    have exact_le : p.exactColumns span ≤ q.exactColumns span :=
      Nat.add_le_add_left (Nat.mul_le_mul_right _ more) _
    have left : Word.clampedAdd column (spanColumns p true span) =
        min Word.greatest (column + p.exactColumns span) := p.clampedAdd_columns column span
    have right : Word.clampedAdd other (spanColumns q true span) =
        min Word.greatest (other + q.exactColumns span) := q.clampedAdd_columns other span
    rw [left, right]
    omega

/-- The same span, with the same flags, leads from alike positions to alike positions. -/
theorem Alike.past {a b : Position} (alike : Alike p q a b) (multiline tabs : Bool)
    (span : Text) : Alike p q (a.past p multiline tabs span) (b.past q multiline tabs span) where
  line := by rw [line_past, line_past, alike.line]
  offset := by rw [offset_past, offset_past, alike.offset]
  column_le := by
    intro more
    unfold Position.past
    by_cases empty : span = []
    · simp only [empty, if_true]
      exact alike.column_le more
    · cases multiline with
      | false =>
        simp only [empty, if_false]
        exact clampedAdd_spanColumns_le more (alike.column_le more) tabs span
      | true =>
        -- Both columns start anew behind the last break.
        have anew := clampedAdd_spanColumns_le more (Nat.le_refl 1) tabs (Text.lastLine span)
        simp only [empty, if_false, if_true]
        simpa only [Word.clampedAdd, Nat.add_comm 1] using anew

end Position

namespace Cursor

namespace Alike

variable {a b : Cursor}

/-! ### One round -/

/-- The same claim leads from alike cursors to alike cursors. -/
theorem beyond (alike : Alike p q a b) (claim : Claim) (span rest : Text) :
    Alike p q (a.beyond claim span rest) (b.beyond claim span rest) where
  left := alike.left
  right := alike.right
  file := alike.file
  behind := by rw [behind_beyond, behind_beyond, alike.behind]
  ahead := rfl
  position := by
    rw [position_beyond, position_beyond, alike.left, alike.right]
    exact alike.position.past ..

/-- The same offset from alike cursors is located alike. -/
theorem locate (alike : Alike p q a b) (offset : Int) :
    Position.Alike p q (a.locate offset) (b.locate offset) := by
  by_cases backward : offset < 0
  · simp only [Cursor.locate, backward, if_true]
    exact {
      line := alike.position.line
      offset := congrArg (· - offset.natAbs) alike.position.offset
      column_le := by
        intro more
        have le := alike.position.column_le more
        dsimp only
        omega }
  · have forward := Int.not_lt.1 backward
    rw [locate_of_nonneg forward, locate_of_nonneg forward, alike.ahead, alike.left, alike.right]
    exact alike.position.past ..

/-- Nothing that a claim is held against is a column. -/
theorem span_eq (alike : Alike p q a b) (length : Nat) : a.span length = b.span length := by
  rw [Cursor.span, Cursor.span, alike.ahead, alike.position.offset]

/-- A verdict claims the same at alike cursors. -/
theorem claim_eq (alike : Alike p q a b) (verdict : Verdict) :
    verdict.claim a = verdict.claim b := by
  have one : a.oneCharacter = b.oneCharacter := by
    rw [oneCharacter, oneCharacter, alike.ahead]
  cases verdict with
  | accepted success => rfl
  | rejected failure =>
    rw [Verdict.claim, Verdict.claim, passed, passed, one]
  | unexpected => exact one

/-- A round that is refused at one cursor is refused for the same reason at the other. -/
theorem round_eq_error (alike : Alike p q a b) {recognizers : List Recognizer}
    {error : ClaimError} (refused : a.round recognizers = .error error) :
    b.round recognizers = .error error := by
  rw [round_eq, alike.ahead, alike.claim_eq, alike.span_eq] at refused
  rw [round_eq]
  generalize b.span _ = covered at *
  cases covered with
  | error => exact refused
  | ok => contradiction

/-- The same verdict at alike cursors makes alike rounds. -/
theorem played (alike : Alike p q a b) (verdict : Verdict) (span rest : Text) :
    Round.Alike p q (a.played verdict span rest) (b.played verdict span rest) where
  start := alike
  verdict := rfl
  token := by
    cases verdict with
    | rejected failure => exact .none
    | unexpected => exact .none
    | accepted success =>
      obtain ⟨claim, tags⟩ := success
      cases tags with
      | none => exact .none
      | some tags =>
        have content : (⟨a.behind, span, rest⟩ : Window) = ⟨b.behind, span, rest⟩ := by
          rw [alike.behind]
        exact .some ⟨content, rfl, alike.file, alike.position⟩
  diagnostics := by
    simp only [Cursor.played, Verdict.diagnostics_eq, List.forall₂_map_left_iff,
      List.forall₂_map_right_iff, List.forall₂_same]
    intro problem _
    exact ⟨rfl, rfl, alike.locate problem.offset⟩

/-! ### A run as a whole -/

/-- Alike cursors play alike runs. -/
theorem exists_plays (alike : Alike p q a b) {recognizers : List Recognizer} {run : Run}
    (plays : Plays recognizers a run) :
    ∃ other, Plays recognizers b other ∧ Run.Alike p q run other := by
  induction plays generalizing b with
  | complete done => exact ⟨_, .complete (alike.ahead ▸ done), .nil, rfl, alike⟩
  | refused more ran =>
    exact ⟨_, .refused (alike.ahead ▸ more) (alike.round_eq_error ran), .nil, rfl, alike⟩
  -- A round is played over the same span under both rules, so it moves both cursors or neither.
  | endless more ran still =>
    obtain ⟨verdict, span, rest, decided, ahead, fits, rfl⟩ := exists_played_of_round ran
    rw [alike.ahead] at more decided ahead
    rw [alike.claim_eq] at fits
    rw [offset_lt_played_iff] at still
    refine ⟨_, .endless more (round_of_fits ahead decided fits) ?_, .nil, rfl, alike⟩
    rw [offset_lt_played_iff]
    exact still
  | after more ran moved later ih =>
    obtain ⟨verdict, span, rest, decided, ahead, fits, rfl⟩ := exists_played_of_round ran
    have next := alike.beyond (verdict.claim b) span rest
    rw [← alike.claim_eq] at next
    obtain ⟨other, plays, others⟩ := ih next
    rw [alike.ahead] at more decided ahead
    rw [alike.claim_eq] at fits plays
    rw [offset_lt_played_iff] at moved
    refine ⟨_, .after more (round_of_fits ahead decided fits) ?_ plays, ?_⟩
    · rw [offset_lt_played_iff]
      exact moved
    · exact ⟨.cons (alike.played verdict span rest) others.rounds, others.ending, others.stop⟩

end Alike

/-- The tab rule changes the columns of a run and nothing else. Under any two rules a list of
recognizers goes through a text to the same ending: to its end, to the same refusal, or to a round
that would be played for ever. There are as many tokens under one rule as under the other, and as
many diagnostics. Each matches the other in all but its column, and so does the place where the run
stops. Under the rule that adds less to a tab no column is greater. -/
theorem runs_alike (recognizers : List Recognizer) (file : String) (text : Text) (p q : TabRule) :
    let run := (ofText file p text).run recognizers
    let other := (ofText file q text).run recognizers
    run.ending = other.ending ∧
    Position.Alike p q run.stop.position other.stop.position ∧
    List.Forall₂ (Token.Alike p q) run.tokens other.tokens ∧
    List.Forall₂ (Diagnostic.Alike p q) run.diagnostics other.diagnostics := by
  intro run other
  have begin : Alike p q (ofText file p text) (ofText file q text) :=
    ⟨rfl, rfl, rfl, rfl, rfl, rfl, rfl, fun _ => Nat.le_refl _⟩
  obtain ⟨_, plays, alike⟩ := begin.exists_plays (plays_run recognizers _)
  rw [← plays.run_eq] at alike
  refine ⟨alike.ending, alike.stop.position, ?_, ?_⟩
  · exact List.rel_filterMap (fun _ _ round => round.token) alike.rounds
  · exact List.rel_flatMap alike.rounds fun _ _ round => round.diagnostics

end Cursor

end Lexing
