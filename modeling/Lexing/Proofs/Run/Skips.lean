import Lexing.Proofs.Run.Silence
import Lexing.Proofs.Run.Stalls
import Lexing.Proofs.Run.Total
import Lexing.Proofs.Lexeme.Truthful

/-!
# Where a skip leads and where its end is located

There are two ways to the end of a span that no success has claimed. A problem there is located by
looking at the span for breaks and tabs. The cursor goes there by what is claimed of the span, and
the next token lies where the cursor comes to. If the claim is true the two agree. But a character
that is passed alone is passed with nothing announced, whatever it is: past a break the cursor stays
on the line that the problem has left, and past a tab it falls behind.

## Main definitions

* `Claim.Announces`: the flags of a claim tell what a span holds
* `Recognizer.Candid`: failures that claim something claim a piece of the text and announce it
* `Cursor.PlainAhead`: the next character needs no announcement

## Main results

* `Cursor.beyond_oneCharacter_iff`: where a character passed alone leads to its located end
* `Cursor.Plays.exists_accepted_of_short`: only a success cuts a run of candid recognizers short
* `Cursor.next_eq_locate_iff`: which rounds without a success lead to the place they are located at
* `Cursor.names_behind_unannounced`: past a tab and past a break the two places differ
-/

namespace Lexing

open Text

/-! ### Claims that announce what a span holds -/

/-- The flags of a claim tell what the span holds: breaks exactly if there are some, and tabs at
least if there are some. -/
structure Claim.Announces (claim : Claim) (span : Text) : Prop where
  multiline : claim.multiline = hasBreak span
  tabs : '\t' ∈ span → claim.tabs = true

/-- A character is passed unannounced to the same position as with all that there is to announce,
exactly if it breaks no line and is no tab that adds a column. -/
theorem Position.past_singleton_iff (position : Position) (rule : TabRule) (c : Char) :
    position.past rule false false [c] = position.past rule (hasBreak [c]) true [c] ↔
      isBreak c = false ∧
        (c = '\t' → rule.extra = 0 ∨ Word.greatest ≤ position.column + 1) := by
  cases breaking : isBreak c with
  | true =>
    -- The break is counted only where it is announced.
    refine iff_of_false (fun same => ?_) (by simp)
    have line := congrArg Position.line same
    rw [line_past_of_announced, line_past, breaks_of_single breaking (by simp)] at line
    simp at line
  | false =>
    have unbroken : hasBreak [c] = false := by simp [breaking]
    have bytes : (position.past rule false false [c]).column =
        min Word.greatest (position.column + size [c]) := rfl
    have columns : (position.past rule false true [c]).column =
        min Word.greatest (position.column + (size [c] + rule.extra * TabRule.tabs [c])) :=
      rule.clampedAdd_columns position.column [c]
    have same : position.past rule false false [c] = position.past rule false true [c] ↔
        (position.past rule false false [c]).column =
          (position.past rule false true [c]).column := by
      refine ⟨congrArg Position.column, fun column => eq_of_fields ?_ column ?_⟩
      · rw [line_past, line_past]
      · rw [offset_past, offset_past]
    rw [unbroken, same, bytes, columns]
    by_cases tab : c = '\t'
    · subst tab
      have one : size ['\t'] = 1 ∧ TabRule.tabs ['\t'] = 1 := by decide
      simp only [one.1, one.2, true_and, forall_const]
      omega
    · have none : TabRule.tabs [c] = 0 := List.count_eq_zero.2 (by simpa using Ne.symm tab)
      simp [none, tab]

namespace Recognizer

/-- Where the recognizer fails, it claims nothing, or it claims a piece of the text and announces
what that holds. -/
def Candid (recognizer : Recognizer) : Prop :=
  ∀ text failure, recognizer.run text = .failure failure → failure.claim.length ≠ 0 →
    ∃ span rest, text = span ++ rest ∧ size span = failure.claim.length ∧
      failure.claim.Announces span

/-- A recognizer that finds what fits, and tells the truth of it, is candid where it fails. -/
theorem candid_of_truthful {recognizer : Recognizer} (truthful : recognizer.Truthful)
    (fits : ∀ text, (recognizer.run text).Fits text) : recognizer.Candid := by
  intro text failure ran claiming
  have found := fits text
  rw [ran] at found
  cases found with
  | none => exact absurd rfl claiming
  | failure whole some length telling =>
    subst whole
    have claimed := truthful _ _ some (by rw [ran]; exact length)
    rw [ran] at claimed
    exact ⟨_, _, rfl, length.symm, claimed.multiline, claimed.tabs⟩

end Recognizer

namespace Cursor

open Recognizer

variable {recognizers : List Recognizer} {cursor : Cursor} {verdict : Verdict}
  {span rest : Text} {claim : Claim} {c : Char}

/-! ### The two ways over one span -/

/-- A claim that announces its span leads to the place where the end of the span is located. -/
theorem position_beyond_of_announces (ahead : cursor.ahead = span ++ rest)
    (announces : claim.Announces span) :
    (cursor.beyond claim span rest).position = cursor.locate (size span) := by
  rw [locate_size ahead, position_beyond, announces.multiline]
  exact Position.past_of_announced announces.tabs ..

/-- Whether the next character leads on as one of which there is nothing to announce: it breaks no
line, and if it is a tab, then a tab adds nothing to the column, or nothing can be added to it. -/
def PlainAhead (cursor : Cursor) : Prop :=
  ∀ c ∈ cursor.ahead.head?, isBreak c = false ∧
    (c = '\t' → cursor.tabRule.extra = 0 ∨ Word.greatest ≤ cursor.position.column + 1)

/-- Where a character that is passed alone leads to, and where its end is located, is the same place
exactly if the character needs no announcement. -/
theorem beyond_oneCharacter_iff (ahead : cursor.ahead = c :: rest) :
    (cursor.beyond cursor.oneCharacter [c] rest).position = cursor.locate (size [c]) ↔
      cursor.PlainAhead := by
  have located : cursor.locate (size [c]) = _ := @locate_size cursor [c] rest ahead
  rw [PlainAhead, ahead, List.head?_cons, located, position_beyond]
  simp only [Option.mem_some_iff, forall_eq']
  exact Position.past_singleton_iff ..

/-! ### One round -/

/-- What the failure that got furthest claims is ahead, and announced, if it claims something. -/
theorem exists_claimed (candid : ∀ recognizer ∈ recognizers, recognizer.Candid)
    {failure : Failure} (furthest : Furthest cursor.ahead recognizers (some failure))
    (claiming : failure.claim.length ≠ 0) : ∃ span rest, cursor.ahead = span ++ rest ∧
      size span = failure.claim.length ∧ failure.claim.Announces span := by
  obtain ⟨recognizer, member, ran⟩ := furthest.exists_mem
  exact candid recognizer member _ _ ran claiming

/-- Where candid recognizers fail, there is a span for what the round passes. -/
theorem exists_fits_of_lost (candid : ∀ recognizer ∈ recognizers, recognizer.Candid)
    (decides : Decides cursor.ahead recognizers verdict)
    (lost : ∀ success, verdict ≠ .accepted success) :
    ∃ span rest, cursor.ahead = span ++ rest ∧ size span = (verdict.claim cursor).length := by
  -- One character can always be passed alone.
  have alone : ∃ span rest, cursor.ahead = span ++ rest ∧
      size span = cursor.oneCharacter.length :=
    ⟨_, _, (List.take_append_drop 1 cursor.ahead).symm, rfl⟩
  cases decides with
  | accepted split ran failed => exact absurd rfl (lost _)
  | unexpected silent => exact alone
  | @rejected failure furthest =>
    by_cases nothing : failure.claim.length = 0
    · rw [Verdict.claim, passed, if_pos nothing]
      exact alone
    · obtain ⟨span, rest, whole, size, -⟩ := exists_claimed candid furthest nothing
      rw [Verdict.claim, passed_of_length_ne_zero nothing]
      exact ⟨span, rest, whole, size⟩

/-- A round without a success leads to the place where the end of its span is located, if what it
passes was claimed, or if it passes a character that needs no announcement. Otherwise it does
not. -/
theorem next_played_iff (candid : ∀ recognizer ∈ recognizers, recognizer.Candid)
    (decides : Decides cursor.ahead recognizers verdict)
    (lost : ∀ success, verdict ≠ .accepted success) (ahead : cursor.ahead = span ++ rest)
    (some : span ≠ []) (fits : size span = (verdict.claim cursor).length) :
    (cursor.played verdict span rest).next.position = cursor.locate (size span) ↔
      (∃ failure, verdict = .rejected failure ∧ failure.claim.length ≠ 0) ∨ cursor.PlainAhead := by
  have alone (one : verdict.claim cursor = cursor.oneCharacter) :
      (cursor.played verdict span rest).next.position = cursor.locate (size span) ↔
        cursor.PlainAhead := by
    rw [one] at fits
    obtain ⟨c, rfl⟩ := exists_eq_singleton ahead some fits
    rw [played, one]
    exact beyond_oneCharacter_iff ahead
  cases decides with
  | accepted split ran failed => exact absurd rfl (lost _)
  | unexpected silent => simpa using alone rfl
  | @rejected failure furthest =>
    by_cases nothing : failure.claim.length = 0
    · simpa [nothing] using alone (if_pos nothing)
    · obtain ⟨piece, left, whole, length, announces⟩ := exists_claimed candid furthest nothing
      have claimed : Verdict.claim cursor (.rejected failure) = failure.claim :=
        passed_of_length_ne_zero nothing cursor
      rw [claimed] at fits
      -- What was claimed is the span that the round passes.
      obtain ⟨rfl, rfl⟩ := append_inj_of_size (ahead.symm.trans whole) (fits.trans length.symm)
      refine iff_of_true ?_ (.inl ⟨failure, rfl, nothing⟩)
      rw [played, claimed]
      exact position_beyond_of_announces ahead announces

/-! ### A run as a whole -/

namespace Plays

variable {run : Run}

/-- A run of recognizers that are candid where they fail stops short of the end only at a round that
a success decides. -/
theorem exists_accepted_of_short (plays : Plays recognizers cursor run)
    (candid : ∀ recognizer ∈ recognizers, recognizer.Candid) (short : run.ending ≠ .complete) :
    ∃ success, Decides run.stop.ahead recognizers (.accepted success) := by
  induction plays with
  | complete done => exact absurd rfl short
  | @refused cursor error more ran =>
    by_contra none
    have decides := decides_judge recognizers cursor.ahead
    obtain ⟨span, rest, ahead, fits⟩ := exists_fits_of_lost candid decides
      fun success won => none ⟨success, won ▸ decides⟩
    rw [round_of_fits ahead rfl fits] at ran
    contradiction
  | @endless cursor round more ran still =>
    by_contra none
    exact still (offset_lt_of_not_stall more (fun ⟨success, won, _⟩ => none ⟨success, won⟩) ran)
  | after more ran moved later ih => exact ih short

/-- The rounds of a run without a success, one by one. -/
theorem next_iff_of_mem (plays : Plays recognizers cursor run)
    (candid : ∀ recognizer ∈ recognizers, recognizer.Candid) :
    ∀ round ∈ run.rounds, ¬ round.Won →
      (round.next.position = round.start.locate (size round.span) ↔
        (∃ failure, round.verdict = .rejected failure ∧ failure.claim.length ≠ 0) ∨
          round.start.PlainAhead) := by
  induction plays using rounds_induction with
  | stop => simp
  | after cursor verdict span rest run plays decided ahead some fits later ih =>
    rw [Run.rounds_after]
    refine List.forall_mem_cons.2 ⟨fun lost => ?_, ih⟩
    rw [span_played ahead]
    exact next_played_iff candid (judge_eq_iff.1 decided) (fun success won => lost ⟨success, won⟩)
      ahead some fits

end Plays

/-- Let the recognizers be candid where they fail. Then a run stops short of the end of the text
only at a round that a success decides, so every round without a success is played. Such a round
leads to the place where a problem at the end of its span is located, if a failure has claimed the
span, or if the one character passed is no break and no tab that adds to the column. In all other
rounds without a success the two places differ. -/
theorem next_eq_locate_iff (candid : ∀ recognizer ∈ recognizers, recognizer.Candid)
    (cursor : Cursor) :
    let run := cursor.run recognizers
    (run.ending ≠ .complete →
      ∃ success, Decides run.stop.ahead recognizers (.accepted success)) ∧
    ∀ round ∈ run.rounds, ¬ round.Won →
      (round.next.position = round.start.locate (size round.span) ↔
        (∃ failure, round.verdict = .rejected failure ∧ failure.claim.length ≠ 0) ∨
          round.start.PlainAhead) := by
  intro run
  have plays : Plays recognizers cursor run := plays_run recognizers cursor
  exact ⟨plays.exists_accepted_of_short candid, plays.next_iff_of_mem candid⟩

/-- A number that went wrong is claimed, and the round leads where a problem behind it is located.
The break and the tab that follow are passed one by one: the next round starts on the line before
the break, and three columns short behind the tab. -/
theorem next_of_stray_number :
    let recognizers := [Lexeme.number, Lexeme.name]
    let run := (ofText "file" (.ofWidth 4) ['9', 'z', '\n', '\t', 'a']).run recognizers
    (∀ recognizer ∈ recognizers, recognizer.Candid) ∧ run.ending = .complete ∧
    run.rounds.map (fun round => (round.next.position, round.start.locate (size round.span))) =
      [(⟨1, 3, 2⟩, ⟨1, 3, 2⟩), (⟨1, 4, 3⟩, ⟨2, 1, 3⟩), (⟨1, 5, 4⟩, ⟨1, 8, 4⟩),
        (⟨1, 6, 5⟩, ⟨1, 6, 5⟩)] ∧
    ∀ round ∈ run.rounds, ¬ round.Won →
      (round.next.position = round.start.locate (size round.span) ↔
        (∃ failure, round.verdict = .rejected failure ∧ failure.claim.length ≠ 0) ∨
          round.start.PlainAhead) := by
  intro recognizers run
  have candid : ∀ recognizer ∈ recognizers, recognizer.Candid := by
    simp only [recognizers, List.forall_mem_cons]
    exact ⟨candid_of_truthful Lexeme.truthful_number Lexeme.fits_number,
      candid_of_truthful Lexeme.truthful_name Lexeme.fits_name, by simp⟩
  obtain ⟨-, rounds⟩ := next_eq_locate_iff candid (ofText "file" (.ofWidth 4) _)
  exact ⟨candid, by decide +kernel, by decide +kernel, rounds⟩

/-- Names with a tab and a break between them, which no recognizer claims. Both are passed alone,
and neither time does the round lead to the place where a problem behind the character is located.
The names that follow lie where the rounds have led. -/
theorem names_behind_unannounced :
    let recognizers := [Lexeme.name]
    let run := (ofText "file" (.ofWidth 4) ['a', '\t', 'b', '\n', 'c']).run recognizers
    (∀ recognizer ∈ recognizers, recognizer.Candid) ∧ run.ending = .complete ∧
    run.tokens.map (·.origin.position) = [⟨1, 1, 0⟩, ⟨1, 3, 2⟩, ⟨1, 5, 4⟩] ∧
    (run.rounds.filter (·.verdict = .unexpected)).map
        (fun round => (round.next.position, round.start.locate (size round.span))) =
      [(⟨1, 3, 2⟩, ⟨1, 6, 2⟩), (⟨1, 5, 4⟩, ⟨2, 1, 4⟩)] ∧
    ¬ ∀ round ∈ run.rounds, ¬ round.Won →
      round.next.position = round.start.locate (size round.span) := by
  intro recognizers run
  have candid : ∀ recognizer ∈ recognizers, recognizer.Candid :=
    List.forall_mem_singleton.2 (candid_of_truthful Lexeme.truthful_name Lexeme.fits_name)
  refine ⟨candid, by decide +kernel, by decide +kernel, by decide +kernel, fun agree => ?_⟩
  obtain ⟨round, member, lost, apart⟩ : ∃ round ∈ run.rounds, round.verdict = .unexpected ∧
      round.next.position ≠ round.start.locate (size round.span) := by decide +kernel
  refine apart (agree round member ?_)
  rintro ⟨success, won⟩
  rw [lost] at won
  contradiction

end Cursor

end Lexing
