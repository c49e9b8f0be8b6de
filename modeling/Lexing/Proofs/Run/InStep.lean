import Lexing.Proofs.Run.Turns
import Mathlib.Data.List.Forall2

/-!
# Two runs in step

What a run yields depends on where it starts, but only by so much: a turn that is taken somewhere
else makes the same token and reports the same problems there, and the positions of these are as far
apart as the two cursors are. Two runs that take such turns one after the other stay in step to the
end.

## Main definitions

* `Position.Moved`: a position and the same one some lines and bytes later
* `Token.Moved`, `Diagnostic.Moved`: tokens and diagnostics that differ in such positions only
* `Cursor.InStep`: a relation of cursors that turns keep

## Main results

* `Position.Moved.past`: a span leads from positions some way apart to positions as far apart
* `Cursor.token_moved`, `Cursor.diagnose_moved`: what a turn yields is moved as far as its cursor
* `Cursor.InStep.run`: runs from related cursors yield what is related
-/

namespace Lexing

open Text Lexeme

/-! ### What is moved -/

/-- The second position lies in the same column, a number of lines and of bytes behind the first. -/
structure Position.Moved (lines bytes : Nat) (a b : Position) : Prop where
  line : b.line = a.line + lines
  column : b.column = a.column
  offset : b.offset = a.offset + bytes

/-- The same token at a moved position. -/
structure Token.Moved (lines bytes : Nat) (a b : Token) : Prop where
  text : b.content.text = a.content.text
  tags : b.tags = a.tags
  file : b.origin.file = a.origin.file
  position : Position.Moved lines bytes a.origin.position b.origin.position

/-- The same diagnostic at a moved position. -/
structure Diagnostic.Moved (lines bytes : Nat) (a b : Diagnostic) : Prop where
  highlight : b.highlight = a.highlight
  message : b.message = a.message
  position : Position.Moved lines bytes a.position b.position

/-- The same span leads as far from a position as from a moved one. -/
theorem Position.Moved.past {lines bytes : Nat} {a b : Position} (moved : Moved lines bytes a b)
    (rule : TabRule) (multiline tabs : Bool) (span : Text) :
    Moved lines bytes (a.past rule multiline tabs span) (b.past rule multiline tabs span) where
  line := by
    rw [line_past, line_past, moved.line]
    omega
  column := by
    have column := moved.column
    unfold Position.past
    split
    · exact column
    · split
      · rfl
      · rw [column]
  offset := by
    rw [offset_past, offset_past, moved.offset]
    omega

namespace Cursor

variable {lines bytes : Nat} {a b : Cursor} {span rest other : Text} {verdict : Verdict}

/-! ### What a turn yields in two places -/

/-- The same verdict over the same span makes a token at both cursors or at neither. -/
theorem forall₂_token {P : Token → Token → Prop} (verdict : Verdict)
    (made : ∀ tags, P (.ofTags a.origin ⟨a.behind, span, rest⟩ tags)
      (.ofTags b.origin ⟨b.behind, span, other⟩ tags)) :
    List.Forall₂ P (a.played verdict span rest).token.toList
      (b.played verdict span other).token.toList := by
  cases verdict with
  | rejected failure => exact .nil
  | unexpected => exact .nil
  | accepted success =>
    obtain ⟨claim, tags⟩ := success
    cases tags with
    | none => exact .nil
    | some tags => exact .cons (made tags) .nil

/-- A token is the same at a moved cursor. -/
theorem token_moved (file : b.file = a.file)
    (moved : Position.Moved lines bytes a.position b.position) (tags : List String) :
    Token.Moved lines bytes
      (.ofTags a.origin ⟨a.behind, span, rest⟩ tags)
      (.ofTags b.origin ⟨b.behind, span, other⟩ tags) where
  text := rfl
  tags := rfl
  file := file
  position := moved

/-- The same verdict reports at both cursors, problem by problem. -/
theorem forall₂_diagnostics {Q : Diagnostic → Diagnostic → Prop}
    (each : ∀ problem ∈ verdict.problems, Q (a.diagnose problem) (b.diagnose problem)) :
    List.Forall₂ Q (a.played verdict span rest).diagnostics
      (b.played verdict span other).diagnostics := by
  simpa only [played, Verdict.diagnostics_eq, List.forall₂_map_left_iff,
    List.forall₂_map_right_iff, List.forall₂_same] using each

/-- A turn claims the same at both cursors. -/
theorem claim_eq_of_turn (turn : Turn span rest verdict) (left : a.ahead = span ++ rest)
    (right : b.ahead = span ++ other) : verdict.claim a = verdict.claim b := by
  cases verdict with
  | accepted success => rfl
  | rejected failure => rw [(turn.claim_rejected a).1, (turn.claim_rejected b).1]
  | unexpected =>
    -- Both cursors stand before the one character of the span.
    cases turn
    rw [Verdict.claim, Verdict.claim, oneCharacter_eq left, oneCharacter_eq right]

/-- A problem of a turn is located inside the span, from both cursors alike. -/
theorem diagnose_moved (rule : b.tabRule = a.tabRule)
    (moved : Position.Moved lines bytes a.position b.position) (turn : Turn span rest verdict)
    (left : a.ahead = span ++ rest) (right : b.ahead = span ++ other) {problem : Problem}
    (reported : problem ∈ verdict.problems) :
    Diagnostic.Moved lines bytes (a.diagnose problem) (b.diagnose problem) ∧
      ∃ before after, span = before ++ after ∧
        (a.diagnose problem).position.offset = a.position.offset + size before := by
  obtain ⟨before, after, rfl, place, -, -⟩ := turn.exists_of_mem_problems reported
  rw [List.append_assoc] at left right
  have here := (congrArg a.locate place).trans (locate_size left)
  have there := (congrArg b.locate place).trans (locate_size right)
  refine ⟨⟨rfl, rfl, ?_⟩, before, after, rfl, ?_⟩
  · rw [diagnose, diagnose, here, there, rule]
    exact moved.past ..
  · rw [diagnose, here, Position.offset_past]

/-! ### Runs -/

/-- A relation of cursors that turns keep: whatever turn stands at the first cursor, one stands at
the second that yields what is related and leads to related cursors. -/
structure InStep (R : Cursor → Cursor → Prop) (P : Token → Token → Prop)
    (Q : Diagnostic → Diagnostic → Prop) : Prop where
  done : ∀ {a b}, R a b → a.ahead = [] → b.ahead = []
  turn : ∀ {a b span rest verdict}, R a b → a.ahead = span ++ rest → Turn span rest verdict →
    ∃ span' rest' verdict', b.ahead = span' ++ rest' ∧ Turn span' rest' verdict' ∧
      List.Forall₂ P (a.played verdict span rest).token.toList
        (b.played verdict' span' rest').token.toList ∧
      List.Forall₂ Q (a.played verdict span rest).diagnostics
        (b.played verdict' span' rest').diagnostics ∧
      R (a.beyond (verdict.claim a) span rest) (b.beyond (verdict'.claim b) span' rest')

/-- Runs from related cursors yield what is related, one by one, and stop at related cursors. -/
theorem InStep.run {R : Cursor → Cursor → Prop} {P : Token → Token → Prop}
    {Q : Diagnostic → Diagnostic → Prop} (inStep : InStep R P Q) {a b : Cursor} {run : Run}
    (turns : Turns a run) (related : R a b) :
    List.Forall₂ P run.tokens (b.run standard).tokens ∧
      List.Forall₂ Q run.diagnostics (b.run standard).diagnostics ∧
      R run.stop (b.run standard).stop := by
  -- The second run is built along the first, one turn at a time.
  induction turns generalizing b with
  | complete done =>
    rw [run_of_ahead_eq_nil (inStep.done related done)]
    exact ⟨.nil, .nil, related⟩
  | after ahead turn later ih =>
    obtain ⟨span', rest', verdict', ahead', turn', token, diagnostics, next⟩ :=
      inStep.turn related ahead turn
    obtain ⟨tokens, others, stop⟩ := ih next
    rw [run_of_turn ahead' turn', Run.tokens_after, Run.tokens_after, Run.diagnostics_after,
      Run.diagnostics_after]
    exact ⟨List.rel_append token tokens, List.rel_append diagnostics others, stop⟩

end Cursor

end Lexing
