import Lexing.Proofs.Round.Decides
import Lexing.Proofs.Round.Played
import Mathlib.Data.List.MinMax

/-!
# The rule of a round

A round stops at the first success, and up to there it keeps the failure that got furthest. Neither
the stopping nor the keeping matters to what comes out: with all outcomes at hand, the first success
is looked up, and if there is none, the leftmost of the longest failures among those that have
something to say. All that the round yields follows from the one that is found.

## Main definitions

* `Outcome.success?`, `Outcome.telling?`: what an outcome can decide a round with
* `Recognizer.rule`: the verdict on a list of outcomes

## Main results

* `Recognizer.furthest_argmax`: the leftmost of the longest failures got furthest
* `Recognizer.judge_eq_rule`: trying in order comes to the verdict of the rule
* `Cursor.round_eq_rule`: all that a round yields, by the rule
-/

namespace Lexing

namespace Outcome

/-- The success of an attempt that succeeded. -/
def success? : Outcome → Option Success
  | success found => some found
  | failure _ => Option.none

/-- The failure of an attempt that failed with something to say: a length, a flag or a problem. -/
def telling? : Outcome → Option Failure
  | success _ => Option.none
  | failure failed => if failed = .none then Option.none else some failed

theorem success?_eq_some_iff {outcome : Outcome} {found : Success} :
    outcome.success? = some found ↔ outcome = .success found := by
  cases outcome <;> simp [success?]

theorem success?_eq_none_iff {outcome : Outcome} :
    outcome.success? = Option.none ↔ ∃ failed, outcome = .failure failed := by
  cases outcome <;> simp [success?]

end Outcome

namespace Recognizer

variable {text : Text} {tried : List Recognizer}

/-- The first success, or else the leftmost of the longest failures that have something to say. -/
def rule (outcomes : List Outcome) : Verdict :=
  match outcomes.findSome? Outcome.success?,
      (outcomes.filterMap Outcome.telling?).argmax (·.claim.length) with
  | some success, _ => .accepted success
  | none, some failure => .rejected failure
  | none, none => .unexpected

/-- One more failure is compared with the longest of those before it as the rule compares them. -/
theorem further_argmax (failures : List Failure) (failure : Failure) :
    further (failures.argmax (·.claim.length)) failure =
      (failures ++ (Outcome.failure failure).telling?.toList).argmax (·.claim.length) := by
  by_cases silent : failure = .none
  · have kept : further (failures.argmax (·.claim.length)) failure =
        failures.argmax (·.claim.length) := if_pos (Failure.isNone_iff.2 silent)
    rw [kept, Outcome.telling?, if_pos silent, Option.toList_none, List.append_nil]
  · unfold further
    rw [if_neg (mt Failure.isNone_iff.1 silent), Outcome.telling?, if_neg silent,
      Option.toList_some, List.argmax_concat]
    cases failures.argmax (·.claim.length) <;> rfl

/-- Among recognizers that all fail, the leftmost of the longest failures got furthest. -/
theorem furthest_argmax
    (failed : ∀ recognizer ∈ tried, ∃ failure, recognizer.run text = .failure failure) :
    Furthest text tried (((tried.map (·.run text)).filterMap Outcome.telling?).argmax
      (·.claim.length)) := by
  -- The longest failure is kept from left to right, so the list grows at its end.
  induction tried using List.reverseRecOn with
  | nil => exact .silent (by simp)
  | append_singleton tried recognizer ih =>
    obtain ⟨earlier, last⟩ := List.forall_mem_append.1 failed
    obtain ⟨failure, ran⟩ := List.forall_mem_singleton.1 last
    have step := (ih earlier).snoc ran
    rw [further_argmax, ← ran] at step
    rw [List.map_append, List.filterMap_append]
    exact step

/-- The rule decides the recognizers whose outcomes it is given. -/
theorem decides_rule (recognizers : List Recognizer) (text : Text) :
    Decides text recognizers (rule (recognizers.map (·.run text))) := by
  rw [rule]
  cases first : (recognizers.map (·.run text)).findSome? Outcome.success? with
  | some success =>
    rw [List.findSome?_map, List.findSome?_eq_some_iff] at first
    obtain ⟨before, recognizer, after, split, found, others⟩ := first
    refine .accepted split (Outcome.success?_eq_some_iff.1 found) fun other member => ?_
    exact Outcome.success?_eq_none_iff.1 (others other member)
  | none =>
    rw [List.findSome?_map, List.findSome?_eq_none_iff] at first
    have furthest := furthest_argmax fun recognizer member =>
      Outcome.success?_eq_none_iff.1 (first recognizer member)
    cases longest : ((recognizers.map (·.run text)).filterMap Outcome.telling?).argmax
        (·.claim.length) with
    | some failure =>
      rw [longest] at furthest
      exact .rejected furthest
    | none =>
      rw [longest] at furthest
      exact .unexpected furthest

/-- Trying recognizers in order comes to the verdict of the rule. -/
theorem judge_eq_rule (recognizers : List Recognizer) (text : Text) :
    judge recognizers text = rule (recognizers.map (·.run text)) :=
  judge_eq_iff.2 (decides_rule recognizers text)

end Recognizer

namespace Cursor

variable {cursor : Cursor} {c : Char} {text : Text}

/-- A round by its rule. The first success passes its span, makes a token if it has tags, and
reports nothing, whatever failed before it. Without a success, the leftmost of the longest failures
that have something to say reports all its problems, located from the start of the round, and passes
its span with its own flags, or the character ahead if its length is zero. If no failure has
anything to say, the character ahead is reported and passed. -/
theorem round_eq_rule (recognizers : List Recognizer) (ahead : cursor.ahead = c :: text) :
    let outcomes := recognizers.map (·.run cursor.ahead)
    let behindOne := cursor.beyond (.ofLength c.utf8Size) [c] text
    cursor.round recognizers =
      match outcomes.findSome? Outcome.success?,
          (outcomes.filterMap Outcome.telling?).argmax (·.claim.length) with
      | some success, _ => (cursor.span success.claim.length).map fun (span, rest) =>
          ⟨cursor, .accepted success,
            success.tags.map (.ofTags cursor.origin ⟨cursor.behind, span, rest⟩), [],
            cursor.beyond success.claim span rest⟩
      | none, some failure =>
          let located := failure.problems.map fun problem =>
            ⟨cursor.locate problem.offset, problem.highlight, problem.message⟩
          if failure.claim.length = 0 then
            .ok ⟨cursor, .rejected failure, none, located, behindOne⟩
          else (cursor.span failure.claim.length).map fun (span, rest) =>
            ⟨cursor, .rejected failure, none, located, cursor.beyond failure.claim span rest⟩
      | none, none =>
          .ok ⟨cursor, .unexpected, none, [⟨cursor.position, 1, "unexpected character"⟩],
            behindOne⟩ := by
  intro outcomes behindOne
  have one := oneCharacter_eq ahead
  -- The one character is whole, so its claim is never refused.
  have covered : cursor.span c.utf8Size = .ok ([c], text) := span_eq_ok_iff.2 ⟨ahead, rfl⟩
  rw [round_eq, Recognizer.judge_eq_rule, Recognizer.rule]
  cases outcomes.findSome? Outcome.success? with
  | some success => rfl
  | none =>
    cases (outcomes.filterMap Outcome.telling?).argmax (·.claim.length) with
    | some failure =>
      by_cases still : failure.claim.length = 0
      · simp only [Verdict.claim, passed, if_pos still, played, one, Claim.ofLength, covered]
        rfl
      · simp only [Verdict.claim, passed, if_neg still, played]
        rfl
    | none =>
      simp only [Verdict.claim, played, one, Claim.ofLength, covered]
      rfl

/-- A flag alone is something to say. The later failure gets no further, so its problem is not
reported, and the whole character ahead is passed. -/
theorem round_of_flag_alone :
    (ofText "file" .flat ['é', '!']).ahead = 'é' :: ['!'] ∧
      ((ofText "file" .flat ['é', '!']).round [⟨"mute", fun _ => .none⟩,
        ⟨"flag", fun _ => .failure ⟨⟨0, true, false⟩, []⟩⟩,
        ⟨"late", fun _ => .failure (.single 0 0 "late")⟩]).map
          (fun round => (round.diagnostics, round.next.position)) = .ok ([], ⟨1, 3, 2⟩) := by
  refine ⟨rfl, ?_⟩
  rw [round_eq_rule _ rfl]
  rfl

end Cursor

end Lexing
