import Lexing.Proofs.Cursor.Marker
import Lexing.Proofs.Run.Plays
import Mathlib.Data.List.Forall2

/-!
# What the rounds of a run pass

There are three ways to get on in a round: a success is accepted, a failure is skipped, or a single
character is. In each the cursor moves by what the round is said to pass and by nothing else, so the
spans of the rounds make up the text. A token is cut out of the same text at the same place, and
what one round has passed is out of reach for those after it.

## Main definitions

* `Cursor.Aligned`: the offset of the cursor is where its text is divided
* `Round.span`: what a round has passed
* `Round.Emits`: a token is the one that its round asks for
* `Cursor.Leads`: rounds that lead from one cursor to another

## Main results

* `Cursor.Plays.flatMap_span`: the spans of the rounds, and what is left, are what lay ahead
* `Cursor.Plays.pairwise_rounds`: no round starts before the one before it ends
* `Cursor.Plays.emits`: the tokens of a run are those that its rounds ask for
* `Cursor.tokens_of_complete`: a run to the end loses nothing and passes nothing twice
-/

namespace Lexing

/-- What a round has passed: what lay ahead where it started, and does not where it leads. -/
def Round.span (round : Round) : Text :=
  round.start.ahead.take (round.start.ahead.length - round.next.ahead.length)

/-- Whether the round is won by a success that asks for a token. -/
def Round.asksForToken (round : Round) : Bool :=
  match round.verdict with
  | .accepted success => success.makesToken
  | .rejected _ => false
  | .unexpected => false

/-- A token is the one that a round asks for: it shows the window of the text on what the round has
passed, lies where the round starts, and has the tags of the success that won the round. -/
structure Round.Emits (file : String) (input : Text) (round : Round) (token : Token) : Prop where
  text : token.content.text = round.span
  window : Window.ofRange input token.origin.position.offset
    (token.origin.position.offset + token.content.size) = .ok token.content
  origin : token.origin = ⟨file, round.start.position⟩
  tags : ∃ success tags, round.verdict = .accepted success ∧ success.tags = some tags ∧
    token.tags = .ofList tags

namespace Cursor

/-! ### Cursors whose offset is right -/

/-- The offset of the cursor is where its text is divided. -/
def Aligned (cursor : Cursor) : Prop := cursor.position.offset = Text.size cursor.behind

theorem aligned_ofText (file : String) (rule : TabRule) (text : Text) :
    Aligned (ofText file rule text) := rfl

/-- Every span moves the offset and the division alike. -/
theorem Aligned.beyond {cursor : Cursor} (aligned : Aligned cursor) (claim : Claim)
    (span rest : Text) : Aligned (cursor.beyond claim span rest) := by
  rw [Aligned, position_beyond, Position.offset_past, behind_beyond, Text.size_append,
    Text.size_reverse, aligned, Nat.add_comm]

/-- A span ahead is a window of the text, from where the cursor stands. -/
theorem Aligned.ofRange_eq {cursor : Cursor} (aligned : Aligned cursor) {span rest : Text}
    (ahead : cursor.ahead = span ++ rest) :
    Window.ofRange cursor.input cursor.position.offset
      (cursor.position.offset + Text.size span) = .ok ⟨cursor.behind, span, rest⟩ := by
  have whole : cursor.behind.reverse ++ span ++ rest = cursor.input := by
    rw [input, ahead, List.append_assoc]
  exact Window.ofRange_eq_ok_iff.2 ⟨whole, aligned.symm, congrArg (· + _) aligned.symm⟩

/-! ### One round -/

section Played

variable {cursor : Cursor} {verdict : Verdict} {span rest : Text}

/-- A round that is played over a span has passed that span. -/
theorem span_played (ahead : cursor.ahead = span ++ rest) :
    (cursor.played verdict span rest).span = span := by
  rw [Round.span, played, ahead_beyond, ahead, List.length_append, Nat.add_sub_cancel]
  exact List.take_left

/-- A round yields a token exactly if it asks for one, and then that one. -/
theorem emits_played (aligned : Aligned cursor) (ahead : cursor.ahead = span ++ rest) :
    List.Forall₂ (Round.Emits cursor.file cursor.input)
      ([cursor.played verdict span rest].filter Round.asksForToken)
      (cursor.played verdict span rest).token.toList := by
  cases verdict with
  | rejected failure => exact .nil
  | unexpected => exact .nil
  | accepted success =>
    obtain ⟨claim, tags⟩ := success
    cases tags with
    | none => exact .nil
    | some tags =>
      refine .cons ?_ .nil
      exact {
        text := (span_played ahead).symm
        window := aligned.ofRange_eq ahead
        origin := rfl
        tags := ⟨_, tags, rfl, rfl, rfl⟩ }

/-- The token of a round shows what the round has passed, from where it starts. -/
theorem origin_and_content_of_mem_token {token : Token}
    (made : token ∈ (cursor.played verdict span rest).token) :
    token.origin = cursor.origin ∧ token.content = ⟨cursor.behind, span, rest⟩ := by
  obtain ⟨success, tags, -, -, rfl⟩ := exists_of_mem_token made
  exact ⟨rfl, rfl⟩

end Played

/-! ### A run as a whole -/

/-- Rounds that lead from one cursor to another, each from where the one before it led. -/
inductive Leads (recognizers : List Recognizer) : Cursor → List Round → Cursor → Prop
  | nil (cursor : Cursor) : Leads recognizers cursor [] cursor
  | cons {cursor stop : Cursor} {round : Round} {rounds : List Round}
      (ran : cursor.round recognizers = .ok round)
      (later : Leads recognizers round.next rounds stop) :
      Leads recognizers cursor (round :: rounds) stop

namespace Plays

variable {recognizers : List Recognizer} {cursor : Cursor} {run : Run}

/-- The rounds of a run lead to where it stops. -/
theorem leads (plays : Plays recognizers cursor run) :
    Leads recognizers cursor run.rounds run.stop := by
  induction plays with
  | complete | refused | endless => exact .nil _
  | after more ran moved later ih => exact .cons ran ih

/-- Each round of a run leads behind its span. -/
theorem ahead_start (plays : Plays recognizers cursor run) :
    ∀ round ∈ run.rounds, round.start.ahead = round.span ++ round.next.ahead := by
  intro round member
  obtain ⟨start, verdict, span, rest, ahead, rfl⟩ := plays.exists_played_of_mem round member
  rw [span_played ahead]
  exact ahead

/-- Nothing of what lay ahead is lost, and nothing is passed twice. -/
theorem flatMap_span (plays : Plays recognizers cursor run) :
    run.rounds.flatMap Round.span ++ run.stop.ahead = cursor.ahead := by
  induction plays using rounds_induction with
  | stop => rfl
  | after cursor verdict span rest run plays decided ahead some fits later ih =>
    rw [ahead_beyond] at ih
    rw [Run.rounds_after, List.flatMap_cons, span_played ahead, Run.stop_after, List.append_assoc,
      ih, ahead]

/-- The tokens of a run are those that its rounds ask for, in order. -/
theorem emits (plays : Plays recognizers cursor run) (aligned : Aligned cursor) :
    List.Forall₂ (Round.Emits cursor.file cursor.input)
      (run.rounds.filter Round.asksForToken) run.tokens := by
  induction plays using rounds_induction with
  | stop => exact .nil
  | after cursor verdict span rest run plays decided ahead some fits later ih =>
    -- The text and the file are those of the first cursor all along.
    have others := ih (aligned.beyond _ span rest)
    rw [file_beyond, input_beyond ahead] at others
    rw [Run.rounds_after, Run.tokens_after, ← List.singleton_append, List.filter_append]
    exact List.rel_append (emits_played aligned ahead) others

/-- No round of a run starts before the run does. -/
theorem offset_le_of_mem_rounds (plays : Plays recognizers cursor run) :
    ∀ round ∈ run.rounds, cursor.position.offset ≤ round.start.position.offset := by
  induction plays using rounds_induction with
  | stop => simp
  | after cursor verdict span rest run plays decided ahead some fits later ih =>
    rw [Run.rounds_after]
    refine List.forall_mem_cons.2 ⟨Nat.le_refl _, fun round inside => ?_⟩
    have behind := ih round inside
    rw [position_beyond, Position.offset_past] at behind
    omega

/-- No round of a run starts before the one before it ends. -/
theorem pairwise_rounds (plays : Plays recognizers cursor run) :
    run.rounds.Pairwise fun round later =>
      round.next.position.offset ≤ later.start.position.offset := by
  induction plays using rounds_induction with
  | stop => exact .nil
  | after cursor verdict span rest run plays decided ahead some fits later ih =>
    rw [Run.rounds_after]
    exact .cons later.offset_le_of_mem_rounds ih

/-- The token of a round starts where the round does, and ends where it leads. -/
theorem offset_of_mem_token (plays : Plays recognizers cursor run) {round : Round}
    (inside : round ∈ run.rounds) {token : Token} (made : round.token = some token) :
    token.origin.position.offset = round.start.position.offset ∧
      token.origin.position.offset + token.content.size = round.next.position.offset := by
  obtain ⟨start, verdict, span, rest, -, rfl⟩ := plays.exists_played_of_mem round inside
  obtain ⟨origin, content⟩ := origin_and_content_of_mem_token made
  rw [offset_next_played, origin, content]
  exact ⟨rfl, rfl⟩

/-- Every token ends before the next ones start. -/
theorem pairwise_tokens (plays : Plays recognizers cursor run) :
    run.tokens.Pairwise fun token later =>
      token.origin.position.offset + token.content.size ≤ later.origin.position.offset := by
  rw [Run.tokens, List.pairwise_filterMap]
  refine plays.pairwise_rounds.imp_of_mem ?_
  intro round next inside inside' le token made later made'
  -- Tokens lie in their rounds, and so they keep their order.
  rw [(plays.offset_of_mem_token inside made).2, (plays.offset_of_mem_token inside' made').1]
  exact le

end Plays

/-- A run to the end loses nothing and passes nothing twice. Each round leads behind its span, and
what lay ahead is made up of these spans. The rounds that a success with tags wins, and no others,
make a token each, which shows the window of the text on what the round has passed and lies where
the round starts. No token starts before the one before it ends, and nothing is left at the end. -/
theorem tokens_of_complete {recognizers : List Recognizer} {cursor : Cursor}
    (aligned : Aligned cursor) (complete : (cursor.run recognizers).ending = .complete) :
    let run := cursor.run recognizers
    Leads recognizers cursor run.rounds run.stop ∧
    (∀ round ∈ run.rounds, round.start.ahead = round.span ++ round.next.ahead) ∧
    cursor.ahead = run.rounds.flatMap Round.span ∧
    List.Forall₂ (Round.Emits cursor.file cursor.input)
      (run.rounds.filter Round.asksForToken) run.tokens ∧
    (run.tokens.Pairwise fun token later =>
      token.origin.position.offset + token.content.size ≤ later.origin.position.offset) ∧
    run.stop.atEnd = true := by
  intro run
  have plays : Plays recognizers cursor run := plays_run recognizers cursor
  have done : run.stop.ahead = [] := plays.ahead_stop_of_complete complete
  have passed := plays.flatMap_span
  rw [done, List.append_nil] at passed
  exact ⟨plays.leads, plays.ahead_start, passed.symm, plays.emits aligned, plays.pairwise_tokens,
    atEnd_iff.2 done⟩

/-- A run from inside a text, in which rounds of all kinds make up what lay ahead: two are won by
tokens and one by a blank, one passes what its failure claims, and one passes a character that no
recognizer has any business with. -/
theorem tokens_of_complete_inside :
    let recognizers : List Recognizer := [
      .ofRules "word" [⟨['x'], .success (.tagged 1 ["word"])⟩, ⟨[' '], .success (.skip 1)⟩],
      .ofRules "fault" [⟨['é', '!'], .failure (.single 3 0 "fault")⟩]]
    let cursor : Cursor := ⟨"file", .one, ['x'], ['x', ' ', 'é', '!', '?', 'x'], ⟨1, 2, 1⟩⟩
    let run := cursor.run recognizers
    Aligned cursor ∧ run.ending = .complete ∧
    run.rounds.map Round.span = [['x'], [' '], ['é', '!'], ['?'], ['x']] ∧
    cursor.ahead = run.rounds.flatMap Round.span ∧
    List.Forall₂ (Round.Emits "file" ['x', 'x', ' ', 'é', '!', '?', 'x'])
      (run.rounds.filter Round.asksForToken) run.tokens ∧
    run.tokens.map (·.origin.position.offset) = [1, 7] := by
  intro recognizers cursor run
  have aligned : Aligned cursor := rfl
  have complete : run.ending = .complete := by decide +kernel
  obtain ⟨-, -, whole, emitted, -⟩ := tokens_of_complete aligned complete
  exact ⟨aligned, complete, by decide +kernel, whole, emitted, by decide +kernel⟩

end Cursor

end Lexing
