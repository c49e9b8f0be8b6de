import Lexing.Proofs.Cursor.Beyond
import Lexing.Proofs.Cursor.Locate
import Lexing.Round

/-!
# The round that a verdict decides

Three kinds of verdicts decide a round, and each takes its own way through the cursor. Here a round
is one thing whatever its verdict: the verdict names a claim, the claim covers a span, and all that
the round yields is read off these.

## Main definitions

* `Verdict.claim`, `Verdict.token`, `Verdict.diagnostics`: what a verdict asks for
* `Verdict.problems`: what a verdict reports, before it is located
* `Cursor.played`: the round that a verdict decides over a span

## Main results

* `Cursor.round_eq`: a round covers the claim of its verdict, and is refused where that is
* `Cursor.exists_eq_singleton`: what is passed as one character is one
* `Cursor.exists_played_of_round`: a round that is not refused is played over a span
* `Cursor.exists_of_mem_token`: the token of a round is made of that span
* `Verdict.diagnostics_eq`: all that a round reports is located from where it starts
-/

namespace Lexing

namespace Verdict

/-- What the cursor moves by. -/
def claim (cursor : Cursor) : Verdict → Claim
  | accepted success => success.claim
  | rejected failure => cursor.passed failure
  | unexpected => cursor.oneCharacter

/-- The token of the round, where its window is given. -/
def token (cursor : Cursor) (content : Window) : Verdict → Option Token
  | accepted success => Token.ofSuccess? cursor.origin content success
  | rejected _ => none
  | unexpected => none

/-- What the round reports. -/
def diagnostics (cursor : Cursor) : Verdict → List Diagnostic
  | accepted _ => []
  | rejected failure => failure.problems.map cursor.diagnose
  | unexpected => [cursor.unexpected]

/-- What the round reports, with offsets from where it starts. An unexpected character is the first
one there. -/
def problems : Verdict → List Problem
  | accepted _ => []
  | rejected failure => failure.problems
  | unexpected => [⟨0, 1, "unexpected character"⟩]

end Verdict

namespace Cursor

/-- The round that a verdict decides, where the claim of the verdict covers `span`. -/
def played (cursor : Cursor) (verdict : Verdict) (span rest : Text) : Round where
  start := cursor
  verdict := verdict
  token := verdict.token cursor ⟨cursor.behind, span, rest⟩
  diagnostics := verdict.diagnostics cursor
  next := cursor.beyond (verdict.claim cursor) span rest

/-- A failure that claims something passes what it claims. -/
theorem passed_of_length_ne_zero {failure : Failure} (claiming : failure.claim.length ≠ 0)
    (cursor : Cursor) : cursor.passed failure = failure.claim := if_neg claiming

/-- The one character ahead is claimed by its bytes. -/
theorem oneCharacter_eq {cursor : Cursor} {c : Char} {rest : Text}
    (ahead : cursor.ahead = c :: rest) : cursor.oneCharacter = .ofLength c.utf8Size := by
  rw [oneCharacter, ahead]
  rfl

/-- What the claim of one character covers is one character. -/
theorem exists_eq_singleton {cursor : Cursor} {span rest : Text}
    (ahead : cursor.ahead = span ++ rest) (some : span ≠ [])
    (fits : Text.size span = cursor.oneCharacter.length) : ∃ c, span = [c] := by
  obtain ⟨c, more, rfl⟩ := List.exists_cons_of_ne_nil some
  have none : Text.size more = 0 := by
    rw [oneCharacter_eq ahead, Text.size_cons] at fits
    exact Nat.left_eq_add.1 fits.symm
  exact ⟨c, by rw [Text.size_eq_zero_iff.1 none]⟩

/-- Moving is covering a span and going behind it. -/
theorem advance_eq (cursor : Cursor) (claim : Claim) : cursor.advance claim =
    (cursor.span claim.length).map fun (span, rest) => cursor.beyond claim span rest := by
  rw [advance]
  cases cursor.span claim.length <;> rfl

/-- Moving for a token is covering a span once and for all. -/
theorem accept_eq (cursor : Cursor) (success : Success) : cursor.accept success =
    (cursor.span success.claim.length).map fun (span, rest) =>
      (Token.ofSuccess? cursor.origin ⟨cursor.behind, span, rest⟩ success,
        cursor.beyond success.claim span rest) := by
  rw [accept, peek, advance_eq]
  cases cursor.span success.claim.length <;> rfl

/-- Every round covers the claim of its verdict and is played over what is covered. It is refused
where the claim is. -/
theorem round_eq (cursor : Cursor) (recognizers : List Recognizer) :
    let verdict := Recognizer.judge recognizers cursor.ahead
    cursor.round recognizers = (cursor.span (verdict.claim cursor).length).map fun (span, rest) =>
      cursor.played verdict span rest := by
  intro verdict
  rw [round]
  cases decided : Recognizer.judge recognizers cursor.ahead with
  | accepted success =>
    simp only [verdict, decided, accept_eq, Verdict.claim]
    cases cursor.span success.claim.length <;> rfl
  | rejected failure =>
    simp only [verdict, decided, advance_eq, Verdict.claim]
    cases cursor.span (cursor.passed failure).length <;> rfl
  | unexpected =>
    simp only [verdict, decided, advance_eq, Verdict.claim]
    cases cursor.span cursor.oneCharacter.length <;> rfl

/-- A verdict whose claim fits a span is played over it. -/
theorem round_of_fits {cursor : Cursor} {recognizers : List Recognizer} {verdict : Verdict}
    {span rest : Text} (ahead : cursor.ahead = span ++ rest)
    (decided : Recognizer.judge recognizers cursor.ahead = verdict)
    (fits : Text.size span = (verdict.claim cursor).length) :
    cursor.round recognizers = .ok (cursor.played verdict span rest) := by
  have covered : cursor.span (verdict.claim cursor).length = .ok (span, rest) :=
    span_eq_ok_iff.2 ⟨ahead, fits⟩
  rw [round_eq, decided, covered]
  rfl

/-- A round that is not refused is played over the span that the claim of its verdict fits. -/
theorem exists_played_of_round {cursor : Cursor} {recognizers : List Recognizer} {round : Round}
    (ran : cursor.round recognizers = .ok round) :
    ∃ verdict span rest, Recognizer.judge recognizers cursor.ahead = verdict ∧
      cursor.ahead = span ++ rest ∧ Text.size span = (verdict.claim cursor).length ∧
      round = cursor.played verdict span rest := by
  rw [round_eq] at ran
  cases covered : cursor.span ((Recognizer.judge recognizers cursor.ahead).claim cursor).length with
  | error refused =>
    rw [covered] at ran
    contradiction
  | ok pieces =>
    obtain ⟨ahead, size⟩ := span_eq_ok_iff.1 covered
    rw [covered] at ran
    exact ⟨_, pieces.1, pieces.2, rfl, ahead, size, (Except.ok.inj ran).symm⟩

/-- Only a success with tags makes a token, of what the round has passed. -/
theorem exists_of_mem_token {cursor : Cursor} {verdict : Verdict} {span rest : Text} {token : Token}
    (made : token ∈ (cursor.played verdict span rest).token) : ∃ success tags,
      verdict = .accepted success ∧ success.tags = some tags ∧
        token = .ofTags cursor.origin ⟨cursor.behind, span, rest⟩ tags := by
  cases verdict with
  | rejected failure => simp [played, Verdict.token] at made
  | unexpected => simp [played, Verdict.token] at made
  | accepted success =>
    obtain ⟨tags, tagged, rfl⟩ : ∃ tags, success.tags = some tags ∧
        Token.ofTags cursor.origin ⟨cursor.behind, span, rest⟩ tags = token := by
      simpa [played, Verdict.token, Token.ofSuccess?] using made
    exact ⟨success, tags, rfl, tagged, rfl⟩

/-- A round moves the offset by what it passes. -/
theorem offset_next_played (cursor : Cursor) (verdict : Verdict) (span rest : Text) :
    (cursor.played verdict span rest).next.position.offset =
      cursor.position.offset + Text.size span := by
  rw [played, position_beyond, Position.offset_past]

/-- A round moves the offset exactly if it passes something. -/
theorem offset_lt_played_iff {cursor : Cursor} {verdict : Verdict} {span rest : Text} :
    cursor.position.offset < (cursor.played verdict span rest).next.position.offset ↔
      span ≠ [] := by
  rw [offset_next_played, Ne, ← Text.size_eq_zero_iff]
  omega

end Cursor

/-- All that a round reports is located from where the round starts. -/
theorem Verdict.diagnostics_eq (cursor : Cursor) (verdict : Verdict) :
    verdict.diagnostics cursor = verdict.problems.map cursor.diagnose := by
  cases verdict with
  | accepted success => rfl
  | rejected failure => rfl
  | unexpected => simp [diagnostics, problems, Cursor.diagnose, Cursor.unexpected]

end Lexing
