import Lexing.Proofs.Lexeme.Turn
import Lexing.Proofs.Round.Played
import Lexing.Proofs.Text.LineBreak

/-!
# What turns claim

The claim of a turn fits its span, and whoever moves over it takes its flags at their word. Every
turn announces its tabs. Every turn but one announces its breaks, and no turn but that one ends
inside a pair: only a literal can hold a break without telling, behind a backslash. Problems are
reported at characters that break no line.

## Main results

* `Lexeme.Turn.size_span`: the claim of a turn fits
* `Lexeme.Turn.tabs_announced`: no turn hides a tab
* `Lexeme.Turn.quoted_or_announced`: no turn but a literal hides a break
* `Lexeme.Turn.exists_of_mem_problems`: where the problems of a turn lie
-/

namespace Lexing

open Text Unicode

namespace Lexeme.Turn

variable {span rest : Text} {verdict : Verdict} {cursor : Cursor}

/-- A turn passes what its failure claims, which is never nothing. -/
theorem claim_rejected {failure : Failure} (turn : Turn span rest (.rejected failure))
    (cursor : Cursor) :
    Verdict.claim cursor (.rejected failure) = failure.claim ∧
      failure.claim.length = size span := by
  have some_bytes : size span ≠ 0 := fun none => turn.span_ne_nil (size_eq_zero_iff.1 none)
  -- Both kinds of failures claim all that they have read.
  have length : failure.claim.length = size span := by cases turn <;> rfl
  refine ⟨Cursor.passed_of_length_ne_zero ?_ cursor, length⟩
  rw [length]
  exact some_bytes

/-- The claim of a turn fits its span. -/
theorem size_span (turn : Turn span rest verdict) (ahead : cursor.ahead = span ++ rest) :
    size span = (verdict.claim cursor).length := by
  cases verdict with
  | accepted success => cases turn <;> rfl
  | rejected failure =>
    obtain ⟨claim, length⟩ := turn.claim_rejected cursor
    rw [claim, length]
  | unexpected =>
    cases turn
    rw [Verdict.claim, Cursor.oneCharacter_eq ahead]
    rfl

/-! ### Flags -/

/-- A number that runs on into a name consists of characters of names. -/
theorem isPart_of_mem_stray {digits stray : Text} (digit : ∀ c ∈ digits, c.isDigit = true)
    (part : ∀ c ∈ stray, Name.isPart c = true) : ∀ c ∈ digits ++ stray, Name.isPart c = true := by
  intro c inside
  rcases List.mem_append.1 inside with early | late
  · exact Name.isPart_of_isDigit (digit c early)
  · exact part c late

/-- A turn whose flag for tabs is down has none. -/
theorem tabs_announced (turn : Turn span rest verdict) (cursor : Cursor) (inside : '\t' ∈ span) :
    (verdict.claim cursor).tabs = true := by
  cases turn with
  | blank | comment | literal => rfl
  | brokenLiteral broken =>
    rw [((brokenLiteral broken).claim_rejected cursor).1]
    rfl
  | number some front apart =>
    exact absurd rfl (Name.ne_tab_of_isPart (Name.isPart_of_isDigit (front.inside _ inside)))
  | strayNumber some digit front joined =>
    exact absurd rfl (Name.ne_tab_of_isPart (isPart_of_mem_stray digit front.inside _ inside))
  | name start front => exact absurd rfl (Name.ne_tab_of_isPart (front.inside _ inside))
  | symbol slashless first =>
    exact absurd rfl (Symbol.plain_of_mem (List.mem_of_find?_eq_some first) _ inside).1
  | unexpected dark =>
    rw [← List.mem_singleton.1 inside] at dark
    exact absurd dark (by decide)

/-- A turn tells whether it has breaks, and does not end inside a pair. -/
def Announced (multiline : Bool) (span rest : Text) : Prop :=
  multiline = hasBreak span ∧ ¬ Splits span rest

/-- Without breaking characters the flag is right if it is down, and there is no pair to split. -/
theorem announced_of_forall (plain : ∀ c ∈ span, isBreak c = false) (rest : Text) :
    Announced false span rest :=
  ⟨(not_hasBreak_of_forall plain).symm, not_splits_of_forall plain rest⟩

/-- What belongs to a name starts with no quote and has no breaks. -/
theorem announced_of_isPart (some : span ≠ []) (part : ∀ c ∈ span, Name.isPart c = true)
    (rest : Text) : (∀ c ∈ (span ++ rest).head?, c ≠ '"') ∧ Announced false span rest := by
  obtain ⟨c, more, rfl⟩ := List.exists_cons_of_ne_nil some
  have quoteless := Name.ne_quote_of_isPart (part c List.mem_cons_self)
  have plain := fun d inside => Name.not_isBreak_of_isPart (part d inside)
  exact ⟨forall_head_ne quoteless _, announced_of_forall plain rest⟩

/-- The span of a turn is what a literal takes in after a quote, or the turn announces its breaks
and does not end inside a pair. -/
theorem quoted_or_announced (turn : Turn span rest verdict) (cursor : Cursor) :
    (∃ inside, span = '"' :: (Literal.divide inside).1 ∧ rest = (Literal.divide inside).2 ∧
      (verdict.claim cursor).multiline = false) ∨
    ((∀ c ∈ (span ++ rest).head?, c ≠ '"') ∧
      Announced (verdict.claim cursor).multiline span rest) := by
  cases turn with
  | blank some front =>
    obtain ⟨c, space, rfl⟩ := List.exists_cons_of_ne_nil some
    have quoteless : c ≠ '"' := by
      rintro rfl
      exact absurd (front.inside _ List.mem_cons_self) (by decide)
    exact .inr ⟨forall_head_ne quoteless _, rfl, not_splits_blank front⟩
  | @comment body rest front =>
    have plain := not_isBreak_of_mem_comment front
    exact .inr ⟨forall_head_ne (by decide) _, announced_of_forall plain rest⟩
  | @literal body rest proper =>
    have divided := Literal.divide_body proper rest
    -- A proper literal ends at its quote, as its reading does.
    exact .inl ⟨body ++ '"' :: rest, by rw [divided]; rfl, by rw [divided], rfl⟩
  | @brokenLiteral text broken =>
    refine .inl ⟨text, rfl, rfl, ?_⟩
    rw [((brokenLiteral broken).claim_rejected cursor).1]
    rfl
  | number some front apart =>
    have part := fun c inside => Name.isPart_of_isDigit (front.inside c inside)
    exact .inr (announced_of_isPart some part rest)
  | strayNumber some digit front joined =>
    have part := isPart_of_mem_stray digit front.inside
    rw [((strayNumber some digit front joined).claim_rejected cursor).1]
    exact .inr (announced_of_isPart (strayNumber some digit front joined).span_ne_nil part rest)
  | name start front => exact .inr (announced_of_isPart (by simp) front.inside rest)
  | symbol slashless first =>
    have member := List.mem_of_find?_eq_some first
    have plain := fun c inside => (Symbol.plain_of_mem member c inside).2
    obtain ⟨c, more, shape, -, -, quote⟩ := Symbol.exists_cons_of_mem member
    refine .inr ⟨?_, announced_of_forall plain rest⟩
    rw [shape]
    exact forall_head_ne quote _
  | @unexpected c rest dark quoteless =>
    have plain : ∀ d ∈ [c], isBreak d = false := by
      simpa using not_isBreak_of_not_isWhiteSpace dark
    exact .inr ⟨forall_head_ne quoteless rest, announced_of_forall plain rest⟩

/-! ### Where turns report -/

/-- Only a turn that succeeds reports nothing. -/
theorem exists_accepted (turn : Turn span rest verdict) {cursor : Cursor}
    (silent : verdict.diagnostics cursor = []) : ∃ success, verdict = .accepted success := by
  cases turn with
  | brokenLiteral broken => exact absurd (List.map_eq_nil_iff.1 silent) broken
  | strayNumber => simp [Verdict.diagnostics, Failure.withHighlight, Failure.single] at silent
  | unexpected => simp [Verdict.diagnostics] at silent
  | blank | comment | literal | number | name | symbol => exact ⟨_, rfl⟩

/-- A turn that is not silent starts with no white space. -/
theorem not_isWhiteSpace_of_head (turn : Turn span rest verdict)
    (telling : ∀ success, verdict = .accepted success → success.tags ≠ none) :
    ∀ c ∈ (span ++ rest).head?, isWhiteSpace c = false := by
  cases turn with
  | blank | comment => exact absurd rfl (telling _ rfl)
  | literal | brokenLiteral => exact forall_head_cons (by decide) _
  | number some front apart =>
    obtain ⟨c, digits, rfl⟩ := List.exists_cons_of_ne_nil some
    have part := Name.isPart_of_isDigit (front.inside c List.mem_cons_self)
    exact forall_head_cons (Name.not_isWhiteSpace_of_isPart part) _
  | strayNumber some digit front joined =>
    obtain ⟨c, digits, rfl⟩ := List.exists_cons_of_ne_nil some
    have part := Name.isPart_of_isDigit (digit c List.mem_cons_self)
    exact forall_head_cons (Name.not_isWhiteSpace_of_isPart part) _
  | name start front =>
    exact forall_head_cons (Name.not_isWhiteSpace_of_isPart (Name.isPart_of_isStart start)) _
  | symbol slashless first =>
    have member := List.mem_of_find?_eq_some first
    obtain ⟨c, more, shape, -, dark, -⟩ := Symbol.exists_cons_of_mem member
    rw [shape]
    exact forall_head_cons dark _
  | unexpected dark => exact forall_head_cons dark _

/-- A turn that is not silent starts with a character that breaks no line. -/
theorem not_isBreak_of_head (turn : Turn span rest verdict)
    (telling : ∀ success, verdict = .accepted success → success.tags ≠ none) :
    ∀ c ∈ (span ++ rest).head?, isBreak c = false := by
  intro c first
  exact not_isBreak_of_not_isWhiteSpace (turn.not_isWhiteSpace_of_head telling c first)

/-- The problems of a turn lie inside its span, before characters that break no line, and mark
nothing behind the span. -/
theorem exists_of_mem_problems (turn : Turn span rest verdict) {problem : Problem}
    (reported : problem ∈ verdict.problems) :
    ∃ before after, span = before ++ after ∧ problem.offset = size before ∧ after ≠ [] ∧
      (∀ c ∈ after.head?, isBreak c = false) ∧ problem.highlight ≤ size after := by
  cases turn with
  | blank | comment | literal | number | name | symbol => simp [Verdict.problems] at reported
  | @brokenLiteral text broken =>
    have quote : Char.utf8Size '"' = 1 := rfl
    rcases List.mem_append.1 reported with escape | missing
    · obtain ⟨before, c, after, taken, -, rfl⟩ := Literal.exists_of_mem_unknown escape
      have slash : Char.utf8Size '\\' = 1 := rfl
      refine ⟨'"' :: before, '\\' :: c :: after, by simp [taken], ?_, by simp,
        forall_head_cons (by decide) _, ?_⟩
      · rw [size_cons, quote]
        rfl
      · simp only [Literal.unknownEscape, size_cons, slash]
        omega
    · -- A missing quote is reported at the opening one.
      split at missing
      · simp at missing
      · rw [List.mem_singleton.1 missing]
        refine ⟨[], _, rfl, rfl, by simp, forall_head_cons (by decide) _, ?_⟩
        rw [size_cons, quote]
        exact Nat.le_add_right ..
  | @strayNumber digits stray rest some digit front joined =>
    obtain ⟨c, first, start⟩ := joined
    obtain ⟨more, rfl⟩ := List.head?_eq_some_iff.1 first
    have plain := Name.not_isBreak_of_isPart (Name.isPart_of_isStart start)
    simp only [Verdict.problems, Failure.withHighlight, Failure.single, List.map_cons, List.map_nil,
      List.mem_singleton] at reported
    rw [reported]
    exact ⟨digits, c :: more, rfl, rfl, by simp, forall_head_cons plain _, Nat.le_refl _⟩
  | @unexpected c rest dark =>
    simp only [Verdict.problems, List.mem_singleton] at reported
    rw [reported]
    refine ⟨[], [c], rfl, rfl, by simp,
      forall_head_cons (not_isBreak_of_not_isWhiteSpace dark) [], ?_⟩
    have positive := c.utf8Size_pos
    simp only [size_cons, size_nil]
    omega

end Lexeme.Turn

end Lexing
