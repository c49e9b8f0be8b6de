import Lexing.Proofs.Lexeme.Hidden
import Lexing.Proofs.Position.After
import Lexing.Proofs.Run.Turns

/-!
# Where a run of the language locates things

Positions are moved from turn to turn, and each must be the place that its offset has in the text as
a whole. One kind of turn breaks this: a literal that fails may hold a break behind a backslash and
does not announce it, so that the break is missing from every later line. Nothing else makes a
position drift, and the breaks that are missing in the end are those that literals hide.

## Main definitions

* `Run.locations`: all positions that a run yields
* `Cursor.Settled`: what holds at a cursor of a run in which no literal hides a break

## Main results

* `Cursor.Turns.line_stop`: the line where a run stops, and what literals hide, are the breaks
* `Cursor.locations_run_iff`: a run locates everything right if and only if no literal hides a break
-/

namespace Lexing

open Text

/-! ### What is located -/

/-- The positions that a round yields: where its token starts and where its diagnostics lie. -/
def Round.locations (round : Round) : List Position :=
  (round.token.map (·.origin.position)).toList ++ round.diagnostics.map (·.position)

/-- The positions that a run yields: those of its tokens, those of its diagnostics, and the last. -/
def Run.locations (run : Run) : List Position :=
  run.tokens.map (·.origin.position) ++ run.diagnostics.map (·.position) ++ [run.stop.position]

theorem Run.mem_locations_after {round : Round} {run : Run} {position : Position} :
    position ∈ (run.after round).locations ↔
      position ∈ round.locations ∨ position ∈ run.locations := by
  simp only [locations, Round.locations, tokens_after, diagnostics_after, stop_after,
    List.map_append, List.mem_append]
  cases round.token <;> simp <;> grind

theorem Run.stop_mem_locations (run : Run) : run.stop.position ∈ run.locations := by
  simp [locations]

namespace Cursor

open Lexeme

/-! ### The line -/

/-- A turn adds to the line what it takes from the breaks ahead, as far as no literal hides it. -/
theorem line_beyond_turn {cursor : Cursor} {span rest : Text} {verdict : Verdict}
    (ahead : cursor.ahead = span ++ rest) (turn : Turn span rest verdict) :
    (cursor.beyond (verdict.claim cursor) span rest).position.line + breaks rest +
      Literal.hidden cursor.ahead = cursor.position.line + breaks cursor.ahead := by
  rw [position_beyond, Position.line_past, ahead]
  rcases turn.quoted_or_announced cursor with
    ⟨inside, rfl, rfl, unannounced⟩ | ⟨quoteless, announced, whole⟩
  -- A literal adds nothing to the line, so the breaks it holds are those it hides.
  · have total := Literal.breaks_eq_hidden_add inside
    rw [List.cons_append, Literal.divide_append, unannounced,
      breaks_cons_of_not_isBreak Literal.not_isBreak_quote inside, total]
    simp only [Literal.hidden, Bool.false_eq_true, if_false]
    omega
  · rw [Literal.hidden_of_head quoteless, announced, breaks_append_of_not_splits whole]
    -- Any other turn tells whether it has breaks.
    cases breaking : hasBreak span with
    | true =>
      rw [if_pos rfl]
      omega
    | false =>
      rw [breaks_eq_zero_of_not_hasBreak breaking]
      simp only [Bool.false_eq_true, if_false]
      omega

/-- The breaks that the literals of some rounds hide. -/
def hiddenBreaks : List Round → Nat
  | [] => 0
  | round :: rounds => Literal.hidden round.start.ahead + hiddenBreaks rounds

/-- If no break is hidden in all, none is in any round. -/
theorem hidden_eq_zero_of_mem {rounds : List Round} (none : hiddenBreaks rounds = 0) :
    ∀ round ∈ rounds, Literal.hidden round.start.ahead = 0 := by
  induction rounds with
  | nil => simp
  | cons round rounds ih =>
    rw [hiddenBreaks] at none
    exact List.forall_mem_cons.2 ⟨by omega, ih (by omega)⟩

/-- Where a run stops, every break that lay ahead is in the line, or a literal hid it. -/
theorem Turns.line_stop {cursor : Cursor} {run : Run} (turns : Turns cursor run) :
    run.stop.position.line + hiddenBreaks run.rounds =
      cursor.position.line + breaks cursor.ahead := by
  induction turns with
  | complete done => simp [hiddenBreaks, done]
  | @after cursor span rest verdict run ahead turn later ih =>
    have step := line_beyond_turn ahead turn
    rw [ahead_beyond] at ih
    have total : hiddenBreaks (run.after (cursor.played verdict span rest)).rounds =
        Literal.hidden cursor.ahead + hiddenBreaks run.rounds := rfl
    rw [total, Run.stop_after]
    omega

/-! ### The column -/

/-- What holds at a cursor of a run as long as no literal hides a break: the line has every break
passed, and so has the column, unless a break is next. -/
structure Settled (rule : TabRule) (text : Text) (cursor : Cursor) : Prop where
  tabRule : cursor.tabRule = rule
  input : cursor.input = text
  offset : cursor.position.offset = size cursor.behind.reverse
  line : cursor.position.line + breaks cursor.ahead = 1 + breaks text
  column : cursor.position.column = Position.columnAfter rule cursor.behind.reverse ∨
    ∃ d ∈ cursor.ahead.head?, isBreak d = true

namespace Settled

variable {rule : TabRule} {text span rest : Text} {cursor : Cursor} {verdict : Verdict}

/-- At a settled cursor that stands before no break, the column is right. -/
theorem column_eq (settled : Settled rule text cursor)
    (plain : ∀ d ∈ cursor.ahead.head?, isBreak d = false) :
    cursor.position.column = Position.columnAfter rule cursor.behind.reverse := by
  rcases settled.column with right | ⟨d, first, breaking⟩
  · exact right
  · rw [plain d first] at breaking
    contradiction

/-- A settled cursor that stands before no break stands at its place. -/
theorem position_eq (settled : Settled rule text cursor)
    (plain : ∀ d ∈ cursor.ahead.head?, isBreak d = false) :
    cursor.position = Position.after rule cursor.behind.reverse := by
  -- No pair is cut here, so the breaks passed and those ahead are all there are.
  have total : breaks text = breaks cursor.behind.reverse + breaks cursor.ahead := by
    rw [← settled.input]
    exact breaks_append_of_not_splits (not_splits_of_head plain)
  have line := settled.line
  refine Position.eq_of_fields ?_ (settled.column_eq plain) settled.offset
  rw [Position.line_after]
  omega

/-- The column behind a turn is right, unless a break is next. -/
theorem column_beyond_turn (settled : Settled rule text cursor)
    (ahead : cursor.ahead = span ++ rest) (turn : Turn span rest verdict)
    (unhidden : Literal.hidden cursor.ahead = 0) :
    (cursor.position.past cursor.tabRule (verdict.claim cursor).multiline
      (verdict.claim cursor).tabs span).column =
        Position.columnAfter rule (cursor.behind.reverse ++ span) ∨
      ∃ d ∈ rest.head?, isBreak d = true := by
  have tabs := turn.tabs_announced cursor
  rw [settled.tabRule]
  rcases turn.quoted_or_announced cursor with
    ⟨inside, rfl, rfl, unannounced⟩ | ⟨-, announced, -⟩
  · have plain : ∀ d ∈ cursor.ahead.head?, isBreak d = false := by
      rw [ahead]
      exact forall_head_cons Literal.not_isBreak_quote _
    rw [ahead, List.cons_append, Literal.divide_append] at unhidden
    -- The literal hides nothing, but it may hold the first half of a pair. Then its column is
    -- wrong, and the second half is next.
    rcases Literal.not_hasBreak_or_isBreak unhidden with unbroken | follows
    · have unbroken_span : hasBreak ('"' :: (Literal.divide inside).1) = false := by
        simp [Literal.not_isBreak_quote, unbroken]
      rw [unannounced]
      exact .inl (Position.column_past_of_not_hasBreak unbroken_span tabs (settled.column_eq plain))
    · exact .inr follows
  · rw [announced]
    cases breaking : hasBreak span with
    | true => exact .inl (Position.column_past_of_hasBreak breaking tabs _ _ _)
    | false =>
      -- The span starts where the cursor stands, so no break is next there.
      have plain : ∀ d ∈ cursor.ahead.head?, isBreak d = false := by
        obtain ⟨c, more, rfl⟩ := List.exists_cons_of_ne_nil turn.span_ne_nil
        rw [ahead]
        exact forall_head_cons (Bool.or_eq_false_iff.1 breaking).1 _
      exact .inl (Position.column_past_of_not_hasBreak breaking tabs (settled.column_eq plain))

/-- A turn that hides no break leads from a settled cursor to a settled one. -/
theorem beyond_turn (settled : Settled rule text cursor) (ahead : cursor.ahead = span ++ rest)
    (turn : Turn span rest verdict) (unhidden : Literal.hidden cursor.ahead = 0) :
    Settled rule text (cursor.beyond (verdict.claim cursor) span rest) where
  tabRule := settled.tabRule
  input := (input_beyond ahead _).trans settled.input
  offset := by
    rw [position_beyond, Position.offset_past, settled.offset, passed_beyond, size_append]
  line := by
    have step := line_beyond_turn ahead turn
    have before := settled.line
    rw [ahead_beyond]
    omega
  column := by
    rw [passed_beyond, position_beyond]
    exact settled.column_beyond_turn ahead turn unhidden

/-- Whatever a turn at a settled cursor locates is a place of the text. -/
theorem isPlaceOf_of_turn (settled : Settled rule text cursor) (ahead : cursor.ahead = span ++ rest)
    (turn : Turn span rest verdict) :
    ∀ position ∈ (cursor.played verdict span rest).locations, position.IsPlaceOf rule text := by
  have whole : text = cursor.behind.reverse ++ (span ++ rest) := by
    rw [← ahead]
    exact settled.input.symm
  -- A turn that locates something does not start at a break.
  have here : (∀ success, verdict = .accepted success → success.tags ≠ none) →
      cursor.position = Position.after rule cursor.behind.reverse := by
    intro telling
    apply settled.position_eq
    rw [ahead]
    exact turn.not_isBreak_of_head telling
  intro position located
  rw [Round.locations, List.mem_append] at located
  cases verdict with
  | accepted success =>
    cases tags : success.tags with
    | none => simp [played, Verdict.token, Verdict.diagnostics, Token.ofSuccess?, tags] at located
    | some tags =>
      have start : position = cursor.position := by
        simpa [played, Verdict.token, Verdict.diagnostics, Token.ofSuccess?, tags, Token.ofTags,
          Cursor.origin] using located
      refine ⟨_, _, whole, ?_⟩
      rw [start]
      apply here
      rintro success ⟨⟩
      simp [tags]
  | rejected failure =>
    have there : ∃ problem ∈ failure.problems, cursor.locate problem.offset = position := by
      simpa [played, Verdict.token, Verdict.diagnostics, Cursor.diagnose] using located
    obtain ⟨problem, reported, rfl⟩ := there
    obtain ⟨before, after, -, place, -, -⟩ := turn.exists_of_mem_problems reported
    have forward : 0 ≤ problem.offset := by omega
    have placed := here (by simp)
    rw [← settled.tabRule] at placed
    -- The walk starts where the turn does, which is at no break.
    have apart : ¬ Splits cursor.behind.reverse cursor.ahead := by
      apply not_splits_of_head
      rw [ahead]
      exact turn.not_isBreak_of_head (by simp)
    rw [locate_eq_after placed apart forward, settled.tabRule]
    exact ⟨_, _, by rw [whole, ← ahead, List.append_assoc, fit_append], rfl⟩
  | unexpected =>
    have start : position = cursor.position := by
      simpa [played, Verdict.token, Verdict.diagnostics, Cursor.unexpected] using located
    rw [start]
    exact ⟨_, _, whole, here (by simp)⟩

end Settled

/-! ### A run as a whole -/

theorem settled_ofText (file : String) (rule : TabRule) (text : Text) :
    Settled rule text (ofText file rule text) where
  tabRule := rfl
  input := rfl
  offset := rfl
  line := rfl
  column := .inl (congrArg Position.column (Position.after_nil rule)).symm

/-- From a settled cursor on, a run in which no literal hides a break locates everything right. -/
theorem Turns.isPlaceOf {rule : TabRule} {text : Text} {cursor : Cursor} {run : Run}
    (turns : Turns cursor run) (settled : Settled rule text cursor)
    (unhidden : ∀ round ∈ run.rounds, Literal.hidden round.start.ahead = 0) :
    ∀ position ∈ run.locations, position.IsPlaceOf rule text := by
  induction turns with
  | @complete cursor done =>
    have stop : cursor.position = _ := settled.position_eq (by simp [done])
    have whole := settled.input
    rw [Cursor.input, done] at whole
    simp only [Run.locations, Run.tokens, Run.diagnostics, List.filterMap_nil, List.flatMap_nil,
      List.map_nil, List.nil_append, List.mem_singleton, forall_eq]
    rw [stop]
    exact ⟨_, [], whole.symm, rfl⟩
  | after ahead turn later ih =>
    rw [Run.rounds_after] at unhidden
    have first := unhidden _ List.mem_cons_self
    have others := ih (settled.beyond_turn ahead turn first) fun round inside =>
      unhidden round (List.mem_cons_of_mem _ inside)
    intro position located
    rcases Run.mem_locations_after.1 located with here | there
    · exact settled.isPlaceOf_of_turn ahead turn position here
    · exact others position there

/-- If a run stops on the right line, its literals hide no break. -/
theorem Turns.hidden_eq_zero {rule : TabRule} {file : String} {text : Text} {run : Run}
    (turns : Turns (ofText file rule text) run)
    (offset : run.stop.position.offset = size text)
    (placed : run.stop.position.IsPlaceOf rule text) :
    ∀ round ∈ run.rounds, Literal.hidden round.start.ahead = 0 := by
  have total := turns.line_stop
  -- The run stops at the end of the text, so its place there has all breaks in the line.
  have line : run.stop.position.line = 1 + breaks text := by
    have whole := fit_of_size text []
    rw [List.append_nil] at whole
    rw [Position.isPlaceOf_iff.1 placed, offset, whole]
    rfl
  have start : (ofText file rule text).position.line + breaks (ofText file rule text).ahead =
      1 + breaks text := rfl
  exact hidden_eq_zero_of_mem (by omega)

/-- The language passes every text to its end, whatever the tab width. Tokens, diagnostics and the
end are all located where their offsets lie in the text as a whole, if and only if no literal that
the run comes to hides a break. -/
theorem locations_run_iff (file : String) (width : Int) (text : Text) :
    let rule := TabRule.ofWidth width
    let run := (ofText file rule text).run standard
    run.ending = .complete ∧
    ((∀ position ∈ run.locations, position.IsPlaceOf rule text) ↔
      ∀ round ∈ run.rounds, Literal.hidden round.start.ahead = 0) := by
  intro rule run
  have turns : Turns (ofText file rule text) run := turns_run _
  refine ⟨turns.ending_eq, ?_, ?_⟩
  · intro placed
    have offset : run.stop.position.offset = 0 + size text := turns.offset_stop
    rw [Nat.zero_add] at offset
    exact turns.hidden_eq_zero offset (placed _ run.stop_mem_locations)
  · exact turns.isPlaceOf (settled_ofText file rule text)

/-- A literal with an escaped line feed, and a name behind it. The name stands in the first column
but one of the second line, and is located on the first line. -/
theorem tokens_behind_hidden_break :
    let text : Text := ['"', '\\', '\n', '"', 'x']
    ((ofText "file" (.ofWidth 4) text).run standard).tokens.map (·.origin.position) =
      [⟨1, 5, 4⟩] ∧ ¬ Position.IsPlaceOf (.ofWidth 4) text ⟨1, 5, 4⟩ := by
  intro text
  have literal : Turn ['"', '\\', '\n', '"'] ['x'] _ :=
    @Turn.brokenLiteral ['\\', '\n', '"', 'x'] (by decide)
  have part : Name.isPart 'x' = true := by decide
  have name : Turn ['x'] [] _ := .name (by decide) ⟨by simpa using part, by simp⟩
  refine ⟨?_, by decide⟩
  rw [run_of_turn rfl literal, run_of_turn rfl name, run_of_ahead_eq_nil rfl]
  rfl

end Cursor

end Lexing
