import Lexing.Proofs.Lexeme.Truthful
import Lexing.Proofs.Round.Decides
import Lexing.Proofs.Run.Spans

/-!
# Runs of reliable recognizers

Truthful claims do not make a run truthful yet. Where nothing is claimed one character is passed and
nothing is announced, so neither a break nor a tab may be left to that. If none is, every position
of a run can be read off the text as a whole, for recognizers of any language.

## Main definitions

* `Recognizer.Reliable`: truthful recognizers that leave no break and no tab unclaimed
* `Lexeme.unquoted`: the recognizers of the language, but for that of literals
* `Cursor.Placed`: the position of the cursor can be read off what it has passed

## Main results

* `Recognizer.Reliable.claim_judge`: what a round passes is claimed truthfully
* `Lexeme.reliable_unquoted`: the recognizers of the language are reliable, but for that of literals
* `Cursor.Plays.placed`: reliable recognizers lead from place to place
* `Cursor.positions_of_reliable`: all that they locate is located at its place
-/

namespace Lexing

open Text Unicode

/-! ### Reliable recognizers -/

namespace Recognizer

/-- Truthful recognizers of which one at least, wherever a break or a tab comes next, succeeds or
claims something. -/
structure Reliable (recognizers : List Recognizer) : Prop where
  truthful : ∀ recognizer ∈ recognizers, recognizer.Truthful
  starts : ∀ c rest, isBreak c = true ∨ c = '\t' → ∃ recognizer ∈ recognizers,
    (recognizer.run (c :: rest)).isSuccess = true ∨
      (recognizer.run (c :: rest)).claim.length ≠ 0

namespace Reliable

variable {recognizers : List Recognizer} {cursor : Cursor} {verdict : Verdict} {span rest : Text}

/-- Where all fail and claim nothing, neither a break nor a tab comes next. -/
theorem plain_of_idle (reliable : Reliable recognizers) {c : Char}
    (idle : ∀ recognizer ∈ recognizers, ∃ failure,
      recognizer.run (c :: rest) = .failure failure ∧ failure.claim.length = 0) :
    c ≠ '\t' ∧ isBreak c = false := by
  have unclaimed : ¬ (isBreak c = true ∨ c = '\t') := by
    intro special
    obtain ⟨recognizer, member, claiming⟩ := reliable.starts c rest special
    obtain ⟨failure, ran, nothing⟩ := idle recognizer member
    rw [ran] at claiming
    rcases claiming with won | some
    · contradiction
    · exact some nothing
  simpa [and_comm] using unclaimed

/-- A character that is passed alone has nothing to announce. -/
theorem oneCharacter (reliable : Reliable recognizers) (ahead : cursor.ahead = span ++ rest)
    (some : span ≠ []) (fits : size span = cursor.oneCharacter.length)
    (idle : ∀ recognizer ∈ recognizers, ∃ failure,
      recognizer.run cursor.ahead = .failure failure ∧ failure.claim.length = 0) :
    cursor.oneCharacter.Truthful span rest := by
  obtain ⟨c, rfl⟩ := Cursor.exists_eq_singleton ahead some fits
  rw [ahead, List.cons_append] at idle
  refine Claim.truthful_of_plain rfl ?_ rest
  intro d inside
  rw [List.mem_singleton.1 inside]
  exact reliable.plain_of_idle idle

/-- Whatever decides a round, what it passes is claimed truthfully. -/
theorem claim_judge (reliable : Reliable recognizers)
    (decided : judge recognizers cursor.ahead = verdict) (ahead : cursor.ahead = span ++ rest)
    (some : span ≠ []) (fits : size span = (verdict.claim cursor).length) :
    (verdict.claim cursor).Truthful span rest := by
  have decides := decides_judge recognizers cursor.ahead
  rw [decided] at decides
  cases decides with
  | @accepted before after recognizer success split ran failed =>
    have member : recognizer ∈ recognizers := by simp [split]
    have claimed := reliable.truthful recognizer member span rest some
    rw [← ahead, ran] at claimed
    exact claimed fits.symm
  | @rejected failure furthest =>
    by_cases nothing : failure.claim.length = 0
    · -- If the failure that got furthest claims nothing, no other does.
      have one : Verdict.claim cursor (.rejected failure) = cursor.oneCharacter := if_pos nothing
      rw [one] at fits ⊢
      refine reliable.oneCharacter ahead some fits fun recognizer member => ?_
      obtain ⟨other, ran, le⟩ := furthest.exists_le_of_mem recognizer member
      exact ⟨other, ran, by omega⟩
    · have own : Verdict.claim cursor (.rejected failure) = failure.claim :=
        Cursor.passed_of_length_ne_zero nothing cursor
      rw [own] at fits ⊢
      obtain ⟨recognizer, member, ran⟩ := furthest.exists_mem
      have claimed := reliable.truthful recognizer member span rest some
      rw [← ahead, ran] at claimed
      exact claimed fits.symm
  | unexpected silent =>
    obtain ⟨silent⟩ := silent
    exact reliable.oneCharacter ahead some fits fun recognizer member =>
      ⟨.none, silent recognizer member, rfl⟩

end Reliable

end Recognizer

namespace Lexeme

/-- The recognizers of the language, but for that of literals. -/
def unquoted : List Recognizer := [blank, comment, number, name, symbol]

/-- Without literals the language is reliable. Its blanks claim all breaks and tabs that come next.
-/
theorem reliable_unquoted : Recognizer.Reliable unquoted where
  truthful := by
    simp only [unquoted, List.forall_mem_cons]
    exact ⟨truthful_blank, truthful_comment, truthful_number, truthful_name, truthful_symbol,
      by simp⟩
  starts := by
    intro c text special
    have white : isWhiteSpace c = true := by
      rcases special with breaking | rfl
      · exact isWhiteSpace_of_isBreak breaking
      · decide
    obtain ⟨space, rest, rfl, front⟩ := exists_isFront_cons white text
    refine ⟨blank, List.mem_cons_self, .inl ?_⟩
    rw [← List.cons_append, blank_run (by simp) front]
    rfl

end Lexeme

namespace Cursor

/-! ### From place to place -/

/-- The position of the cursor can be read off what it has passed of the text, and no pair is cut
there. -/
structure Placed (rule : TabRule) (text : Text) (cursor : Cursor) : Prop where
  tabRule : cursor.tabRule = rule
  input : cursor.input = text
  position : cursor.position = Position.after rule cursor.behind.reverse
  whole : ¬ Splits cursor.behind.reverse cursor.ahead

theorem placed_ofText (file : String) (rule : TabRule) (text : Text) :
    Placed rule text (ofText file rule text) where
  tabRule := rfl
  input := rfl
  position := (Position.after_nil rule).symm
  whole := not_splits_nil_left text

namespace Placed

variable {rule : TabRule} {text span rest : Text} {cursor : Cursor} {claim : Claim}

/-- A truthful claim leads from place to place. -/
theorem beyond (placed : Placed rule text cursor) (ahead : cursor.ahead = span ++ rest)
    (some : span ≠ []) (truthful : claim.Truthful span rest) :
    Placed rule text (cursor.beyond claim span rest) where
  tabRule := placed.tabRule
  input := (input_beyond ahead claim).trans placed.input
  position := by
    have apart : ¬ Splits cursor.behind.reverse span := by
      have whole := placed.whole
      rw [ahead] at whole
      exact not_splits_of_append whole
    rw [position_beyond, passed_beyond, placed.position, placed.tabRule, truthful.multiline]
    exact Position.past_after truthful.tabs apart rule
  whole := by
    rw [passed_beyond, ahead_beyond, splits_append_iff some]
    exact truthful.whole

theorem isPlaceOf (placed : Placed rule text cursor) : cursor.position.IsPlaceOf rule text :=
  ⟨_, _, placed.input.symm, placed.position⟩

/-- What lies ahead of a cursor at its place is located at its place. -/
theorem isPlaceOf_locate (placed : Placed rule text cursor) {offset : Int} (forward : 0 ≤ offset) :
    (cursor.locate offset).IsPlaceOf rule text := by
  have position := placed.position
  rw [← placed.tabRule] at position
  have whole : text = (cursor.behind.reverse ++ (fit offset.toNat cursor.ahead).1) ++
      (fit offset.toNat cursor.ahead).2 := by
    rw [List.append_assoc, fit_append]
    exact placed.input.symm
  refine ⟨_, _, whole, ?_⟩
  rw [locate_eq_after position placed.whole forward, placed.tabRule]

end Placed

/-! ### A run as a whole -/

namespace Plays

variable {recognizers : List Recognizer} {cursor : Cursor} {run : Run}

/-- Reliable recognizers lead from place to place. -/
theorem placed (plays : Plays recognizers cursor run) {rule : TabRule} {text : Text}
    (reliable : Recognizer.Reliable recognizers) (placed : Placed rule text cursor) :
    (∀ round ∈ run.rounds, Placed rule text round.start) ∧ Placed rule text run.stop := by
  induction plays using rounds_induction with
  | stop => exact ⟨by simp, placed⟩
  | after cursor verdict span rest run plays decided ahead some fits later ih =>
    have claimed := reliable.claim_judge decided ahead some fits
    obtain ⟨others, stop⟩ := ih (placed.beyond ahead some claimed)
    rw [Run.rounds_after, Run.stop_after]
    exact ⟨List.forall_mem_cons.2 ⟨placed, others⟩, stop⟩

end Plays

/-- Reliable recognizers locate everything at its place, whatever the text and the tab rule, and
however the run ends. Each token lies at a position that can be read off the text in front of it,
and so does the end. Each problem of a round becomes one diagnostic. If its offset is not negative,
the diagnostic lies at such a position too. It is as far behind the start of the round as the offset
says, rounded down to the last place between two characters. -/
theorem positions_of_reliable {recognizers : List Recognizer}
    (reliable : Recognizer.Reliable recognizers) (file : String) (rule : TabRule) (text : Text) :
    let run := (ofText file rule text).run recognizers
    (∀ token ∈ run.tokens, token.origin.position.IsPlaceOf rule text) ∧
    run.stop.position.IsPlaceOf rule text ∧
    ∀ round ∈ run.rounds,
      round.diagnostics = round.verdict.problems.map round.start.diagnose ∧
      ∀ problem ∈ round.verdict.problems, 0 ≤ problem.offset →
        (round.start.diagnose problem).position.IsPlaceOf rule text ∧
        ∃ distance : Nat, (round.start.diagnose problem).position.offset =
            round.start.position.offset + distance ∧
          IsGreatest {n : Nat | IsBoundary round.start.ahead n ∧ (n : Int) ≤ problem.offset}
            distance := by
  intro run
  have plays : Plays recognizers (ofText file rule text) run := plays_run recognizers _
  obtain ⟨rounds, stop⟩ := plays.placed reliable (placed_ofText file rule text)
  refine ⟨?_, stop.isPlaceOf, ?_⟩
  · intro token made
    obtain ⟨round, member, yielded⟩ := List.mem_filterMap.1 made
    have placed := rounds round member
    obtain ⟨start, verdict, span, rest, -, rfl⟩ := plays.exists_played_of_mem round member
    rw [(origin_and_content_of_mem_token yielded).1]
    exact placed.isPlaceOf
  · intro round member
    have placed := rounds round member
    obtain ⟨start, verdict, span, rest, -, rfl⟩ := plays.exists_played_of_mem round member
    refine ⟨verdict.diagnostics_eq start, fun problem reported forward => ?_⟩
    exact ⟨placed.isPlaceOf_locate forward, isGreatest_offset_locate forward start⟩

/-- A name and a number that went wrong, on either side of a tab and a break of two characters, and
at the end a character that starts nothing. -/
theorem positions_of_unquoted :
    let text : Text := ['a', '\t', '\r', '\n', '\t', '9', 'z', '@']
    let run := (ofText "file" (.ofWidth 4) text).run Lexeme.unquoted
    Recognizer.Reliable Lexeme.unquoted ∧ run.ending = .complete ∧
    run.tokens.map (·.origin.position) = [⟨1, 1, 0⟩] ∧
    run.diagnostics.map (·.position) = [⟨2, 6, 6⟩, ⟨2, 7, 7⟩] ∧
    (∀ token ∈ run.tokens, token.origin.position.IsPlaceOf (.ofWidth 4) text) ∧
    run.stop.position.IsPlaceOf (.ofWidth 4) text := by
  intro text run
  have reliable := Lexeme.reliable_unquoted
  obtain ⟨tokens, stop, -⟩ := positions_of_reliable reliable "file" (.ofWidth 4) text
  exact ⟨reliable, by decide +kernel, by decide +kernel, by decide +kernel, tokens, stop⟩

end Cursor

end Lexing
