import Lexing.Movement
import Lexing.Proofs.Text.LineBreak

/-!
# The position after a text

Where a text ends can be read off the text as a whole: its breaks give the line, what follows the
last break gives the column, and its bytes give the offset. Moving span by span must arrive at the
same position, as long as each span announces what it holds and no cut falls inside a pair.

## Main definitions

* `TabRule.exactColumns`: the columns of a text, without a limit
* `Position.after`: the position after a text, read off the text as a whole
* `Position.IsPlaceOf`: the positions between the characters of a text

## Main results

* `Position.past_after`: a span whose flags are right leads from one such position to the next
* `Position.column_past_after`: the column is right wherever the cuts fall
* `Position.column_past_of_hasBreak`: a span with a break sets a wrong column right
-/

namespace Lexing

/-! ### Columns without a limit -/

namespace TabRule

/-- The columns that a text takes up: its bytes, and for each tab what the rule adds. -/
def exactColumns (rule : TabRule) (text : Text) : Nat := Text.size text + rule.extra * tabs text

@[simp] theorem exactColumns_append (rule : TabRule) (a b : Text) :
    rule.exactColumns (a ++ b) = rule.exactColumns a + rule.exactColumns b := by
  rw [exactColumns, exactColumns, exactColumns, Text.size_append, tabs_append, Nat.mul_add]
  omega

/-- Without tabs a text takes up its bytes. -/
theorem exactColumns_of_not_mem {text : Text} (tabless : '\t' ∉ text) (rule : TabRule) :
    rule.exactColumns text = Text.size text := by
  rw [exactColumns, tabs, List.count_eq_zero.2 tabless, Nat.mul_zero, Nat.add_zero]

/-- Whatever the rule clamps on the way, the clamped sum is the exact one cut off at the end. -/
theorem clampedAdd_columns (rule : TabRule) (column : Nat) (text : Text) :
    Word.clampedAdd column (rule.columns text) =
      min Word.greatest (column + rule.exactColumns text) := by
  cases rule with
  | flat => simp [columns, exactColumns, extra, Word.clampedAdd]
  | one => simp [columns, exactColumns, extra, Word.clampedAdd]
  | more extra =>
    have product : extra * tabs text = tabs text * extra := Nat.mul_comm ..
    simp only [columns, exactColumns, TabRule.extra, Word.clampedAdd, Word.clampedMul, product]
    omega

end TabRule

namespace Position

/-- A span that announces its tabs adds its exact columns. -/
theorem clampedAdd_spanColumns {tabs : Bool} {span : Text} (announced : '\t' ∈ span → tabs = true)
    (rule : TabRule) (column : Nat) :
    Word.clampedAdd column (spanColumns rule tabs span) =
      min Word.greatest (column + rule.exactColumns span) := by
  cases tabs with
  | true => exact rule.clampedAdd_columns column span
  | false =>
    -- A flag that is down is right here, so there is nothing to widen.
    have tabless : '\t' ∉ span := fun inside => absurd (announced inside) (by decide)
    rw [rule.exactColumns_of_not_mem tabless]
    rfl

/-- A span that announces its tabs adds the same columns as one that announces some in any case. -/
theorem clampedAdd_spanColumns_of_announced {tabs : Bool} {span : Text}
    (announced : '\t' ∈ span → tabs = true) (rule : TabRule) (column : Nat) :
    Word.clampedAdd column (spanColumns rule tabs span) =
      Word.clampedAdd column (spanColumns rule true span) := by
  rw [clampedAdd_spanColumns announced, clampedAdd_spanColumns fun _ => rfl]

/-! ### Reading a position off a text -/

/-- The column after a text: one more than its last line takes up, as far as a word can count. -/
def columnAfter (rule : TabRule) (passed : Text) : Nat :=
  min Word.greatest (1 + rule.exactColumns (Text.lastLine passed))

/-- The column starts anew behind every breaking character. -/
theorem columnAfter_append_cons {c : Char} (breaking : Text.isBreak c = true) (rule : TabRule)
    (passed text : Text) : columnAfter rule (passed ++ c :: text) = columnAfter rule text := by
  have inside : Text.hasBreak (c :: text) = true := by simp [breaking]
  rw [columnAfter, Text.lastLine_append_of_hasBreak inside, Text.lastLine_cons_of_isBreak breaking,
    columnAfter]

/-- The position after a text that is read as a whole. -/
def after (rule : TabRule) (passed : Text) : Position where
  line := 1 + Text.breaks passed
  column := columnAfter rule passed
  offset := Text.size passed

/-- The positions of a text are those after the pieces at its front. -/
def IsPlaceOf (rule : TabRule) (text : Text) (position : Position) : Prop :=
  ∃ passed ahead, text = passed ++ ahead ∧ position = after rule passed

/-- The offset of a position tells which piece it comes after. -/
theorem isPlaceOf_iff {rule : TabRule} {text : Text} {position : Position} :
    IsPlaceOf rule text position ↔ position = after rule (Text.fit position.offset text).1 := by
  constructor
  · rintro ⟨passed, ahead, rfl, rfl⟩
    -- A piece is found again by its size.
    rw [after, Text.fit_of_size, after]
  · intro read
    exact ⟨_, _, (Text.fit_append position.offset text).symm, read⟩

instance (rule : TabRule) (text : Text) (position : Position) :
    Decidable (IsPlaceOf rule text position) :=
  decidable_of_iff' _ isPlaceOf_iff

@[simp] theorem line_after (rule : TabRule) (passed : Text) :
    (after rule passed).line = 1 + Text.breaks passed := rfl

@[simp] theorem offset_after (rule : TabRule) (passed : Text) :
    (after rule passed).offset = Text.size passed := rfl

theorem after_nil (rule : TabRule) : after rule [] = start := by
  simp [after, columnAfter, start, Text.lastLine, TabRule.exactColumns, TabRule.tabs, Word.greatest]

/-- Positions are equal that agree in line, column and offset. -/
theorem eq_of_fields {a b : Position} (line : a.line = b.line) (column : a.column = b.column)
    (offset : a.offset = b.offset) : a = b := by
  cases a
  cases b
  simp_all

/-! ### Moving from one position to the next -/

theorem line_past (position : Position) (rule : TabRule) (multiline tabs : Bool) (span : Text) :
    (position.past rule multiline tabs span).line =
      position.line + if multiline then Text.breaks span else 0 := by
  by_cases empty : span = []
  · simp [empty]
  · cases multiline <;> simp [past, empty]

/-- No span leads to a column before the first. -/
theorem column_past_pos {position : Position} (positive : 1 ≤ position.column) (rule : TabRule)
    (multiline tabs : Bool) (span : Text) :
    1 ≤ (position.past rule multiline tabs span).column := by
  unfold past Word.clampedAdd Word.greatest
  split
  · exact positive
  · split <;> dsimp only <;> omega

/-- It does not matter whether tabs are looked for in a span that announces its tabs. -/
theorem past_of_announced {tabs : Bool} {span : Text} (announced : '\t' ∈ span → tabs = true)
    (position : Position) (rule : TabRule) (multiline : Bool) :
    position.past rule multiline tabs span = position.past rule multiline true span := by
  -- Only what follows the last break counts in a span with breaks, and its tabs are announced too.
  have last : '\t' ∈ Text.lastLine span → tabs = true := fun inside =>
    announced ((Text.lastLine_suffix span).subset inside)
  have along := clampedAdd_spanColumns_of_announced announced rule position.column
  have anew := clampedAdd_spanColumns_of_announced last rule 1
  rw [Word.clampedAdd_comm, Word.clampedAdd_comm 1] at anew
  simp only [past, along, anew]

/-- A span with a break leaves nothing of the column it started at. -/
theorem column_past_of_hasBreak {tabs : Bool} {span : Text} (breaking : Text.hasBreak span = true)
    (announced : '\t' ∈ span → tabs = true) (position : Position) (rule : TabRule)
    (passed : Text) :
    (position.past rule true tabs span).column = columnAfter rule (passed ++ span) := by
  have some_span : span ≠ [] := by
    rintro rfl
    simp at breaking
  -- The column starts anew, so only what follows the last break counts.
  have inside_last : '\t' ∈ Text.lastLine span → tabs = true := fun inside =>
    announced ((Text.lastLine_suffix span).subset inside)
  have moved := clampedAdd_spanColumns inside_last rule 1
  rw [columnAfter, Text.lastLine_append_of_hasBreak breaking, ← moved]
  simp [past, some_span, Word.clampedAdd, Nat.add_comm]

/-- A span without a break goes on from the column it starts at. -/
theorem column_past_of_not_hasBreak {tabs : Bool} {span : Text}
    (unbroken : Text.hasBreak span = false) (announced : '\t' ∈ span → tabs = true)
    {position : Position} {rule : TabRule} {passed : Text}
    (right : position.column = columnAfter rule passed) :
    (position.past rule false tabs span).column = columnAfter rule (passed ++ span) := by
  have moved := clampedAdd_spanColumns announced rule position.column
  rw [columnAfter, Text.lastLine_append_of_not_hasBreak unbroken, TabRule.exactColumns_append]
  by_cases empty : span = []
  · rw [empty, past_nil, right, columnAfter]
    simp [TabRule.exactColumns, TabRule.tabs]
  · rw [right, columnAfter] at moved
    simp only [past, empty, if_false, Bool.false_eq_true, right, columnAfter, moved]
    omega

/-- The column is right after every span whose flags are right, wherever the cuts fall. -/
theorem column_past_after {tabs : Bool} {span : Text} (announced : '\t' ∈ span → tabs = true)
    {position : Position} {rule : TabRule} {passed : Text}
    (right : position.column = columnAfter rule passed) :
    (position.past rule (Text.hasBreak span) tabs span).column =
      columnAfter rule (passed ++ span) := by
  cases breaking : Text.hasBreak span with
  | true => exact column_past_of_hasBreak breaking announced position rule passed
  | false => exact column_past_of_not_hasBreak breaking announced right

/-- A span that tells whether it has breaks adds exactly these to the line. -/
theorem line_past_of_announced (position : Position) (rule : TabRule) (tabs : Bool)
    (span : Text) :
    (position.past rule (Text.hasBreak span) tabs span).line =
      position.line + Text.breaks span := by
  rw [line_past]
  cases breaking : Text.hasBreak span with
  | true => rfl
  | false => rw [Text.breaks_eq_zero_of_not_hasBreak breaking]; rfl

/-- Spans whose flags are right lead from position to position, where no cut falls inside a pair. -/
theorem past_after {tabs : Bool} {passed span : Text} (announced : '\t' ∈ span → tabs = true)
    (whole : ¬ Text.Splits passed span) (rule : TabRule) :
    (after rule passed).past rule (Text.hasBreak span) tabs span = after rule (passed ++ span) := by
  have line := line_past_of_announced (after rule passed) rule tabs span
  have column : _ = columnAfter rule (passed ++ span) :=
    column_past_after announced (rfl : (after rule passed).column = _)
  have offset := offset_past (after rule passed) rule (Text.hasBreak span) tabs span
  refine eq_of_fields ?_ column ?_
  · rw [line, line_after, line_after, Text.breaks_append_of_not_splits whole, Nat.add_assoc]
  · rw [offset, offset_after, offset_after, Text.size_append]

end Position

end Lexing
