import Lexing.Proofs.Position.After

/-!
# Positions in the order of the text

The further a text is read, the later is the position, though neither the line nor the column always
tells: a piece that ends between the halves of a pair has as many breaks as the one that ends behind
it, and then only the offset grows. Columns start anew on a later line, and stop growing at the
greatest word.

## Main results

* `Position.le_of_fields`: later in line, in column on the same line, and in offset
* `Position.past_le_past_append`: no longer piece leads to an earlier position
* `Position.lt_past`: a span leads to a later position, unless it announces breaks in vain
-/

namespace Lexing.Position

open Text

theorem le_trans {a b c : Position} (first : a ≤ b) (second : b ≤ c) : a ≤ c := by
  rcases first with less | rfl
  · rcases second with more | rfl
    · exact .inl (lt_trans less more)
    · exact .inl less
  · exact second

theorem lt_of_lt_of_le {a b c : Position} (first : a < b) (second : b ≤ c) : a < c := by
  rcases second with more | rfl
  · exact lt_trans first more
  · exact first

/-- The column counts only between positions on one line. -/
theorem le_of_fields {a b : Position} (line : a.line ≤ b.line)
    (column : a.line = b.line → a.column ≤ b.column) (offset : a.offset ≤ b.offset) : a ≤ b := by
  rcases lt_or_eq_or_gt a b with less | same | more
  · exact .inl less
  · exact .inr same
  · rw [lt_iff] at more
    omega

variable {position : Position} {span a b : Text}

/-- No span leads past the greatest column. -/
theorem column_past_le (small : position.column ≤ Word.greatest) (rule : TabRule)
    (multiline tabs : Bool) (span : Text) :
    (position.past rule multiline tabs span).column ≤ Word.greatest := by
  unfold past
  split
  · exact small
  · split
    · exact Word.clampedAdd_le ..
    · exact Word.clampedAdd_le ..

/-- Within a line the column grows by what the span takes up, as far as a word can count. -/
theorem column_past_of_unbroken (small : position.column ≤ Word.greatest)
    (unbroken : hasBreak span = false) (rule : TabRule) :
    (position.past rule (hasBreak span) true span).column =
      min Word.greatest (position.column + rule.exactColumns span) := by
  by_cases empty : span = []
  · rw [empty, past_nil]
    simp [TabRule.exactColumns, TabRule.tabs, small]
  · rw [unbroken, ← rule.clampedAdd_columns]
    simp [past, empty, spanColumns]

/-- A longer piece that goes on within the line does not lead to an earlier column. -/
theorem column_past_le_append (small : position.column ≤ Word.greatest)
    (unbroken : hasBreak b = false) (rule : TabRule) :
    (position.past rule (hasBreak a) true a).column ≤
      (position.past rule (hasBreak (a ++ b)) true (a ++ b)).column := by
  cases breaking : hasBreak a with
  | false =>
    have still : hasBreak (a ++ b) = false := by rw [hasBreak_append, breaking, unbroken]; rfl
    have short := column_past_of_unbroken small breaking rule
    have long := column_past_of_unbroken small still rule
    rw [breaking] at short
    rw [short, long, TabRule.exactColumns_append]
    omega
  | true =>
    have still : hasBreak (a ++ b) = true := by rw [hasBreak_append, breaking]; rfl
    have short := column_past_of_hasBreak breaking (fun _ => rfl) position rule []
    have long := column_past_of_hasBreak still (fun _ => rfl) position rule []
    rw [still, short, long, List.nil_append, List.nil_append, columnAfter, columnAfter,
      lastLine_append_of_not_hasBreak unbroken, TabRule.exactColumns_append]
    omega

/-- A piece that ends inside a pair leads to the first column. -/
theorem column_past_of_splits (split : Splits a b) (position : Position) (rule : TabRule) :
    (position.past rule (hasBreak a) true a).column = 1 := by
  have breaking : hasBreak a = true := by
    obtain ⟨c, last, d, -, pair⟩ := split
    exact List.any_eq_true.2 ⟨c, List.mem_of_getLast? last, (isBreak_of_isPair pair).1⟩
  rw [breaking, column_past_of_hasBreak breaking (fun _ => rfl) position rule [], List.nil_append,
    columnAfter, lastLine_eq_nil_of_splits split]
  rfl

/-- No longer piece leads to an earlier position. -/
theorem past_le_past_append (positive : 1 ≤ position.column)
    (small : position.column ≤ Word.greatest) (rule : TabRule) (a b : Text) :
    position.past rule (hasBreak a) true a ≤
      position.past rule (hasBreak (a ++ b)) true (a ++ b) := by
  have more := breaks_le_append a b
  apply le_of_fields
  · rw [line_past_of_announced, line_past_of_announced]
    omega
  · rw [line_past_of_announced, line_past_of_announced]
    intro same
    cases breaking : hasBreak b with
    | false => exact column_past_le_append small breaking rule
    | true =>
      -- The breaks of the second piece would count, did they not complete a pair.
      have split := splits_of_breaks_append_eq breaking (by omega : breaks (a ++ b) = breaks a)
      rw [column_past_of_splits split]
      exact column_past_pos positive ..
  · rw [offset_past, offset_past, size_append]
    omega

/-- Without a new line no span leads to an earlier column. -/
theorem column_le_past (small : position.column ≤ Word.greatest) (rule : TabRule) (tabs : Bool)
    (span : Text) : position.column ≤ (position.past rule false tabs span).column := by
  unfold past
  split
  · exact Nat.le_refl _
  · exact Nat.le_min.2 ⟨small, Nat.le_add_right ..⟩

/-- A span leads to a later position, unless it announces breaks and holds none: then the column
starts anew on the same line. -/
theorem lt_past (small : position.column ≤ Word.greatest) (some : span ≠ []) {multiline : Bool}
    (founded : multiline = true → hasBreak span = true) (rule : TabRule) (tabs : Bool) :
    position < position.past rule multiline tabs span := by
  have bytes : 0 < size span := Nat.pos_of_ne_zero (mt size_eq_zero_iff.1 some)
  rw [lt_iff, line_past, offset_past]
  cases multiline with
  | true =>
    have more := breaks_pos (founded rfl)
    left
    rw [if_pos rfl]
    omega
  | false =>
    -- At the greatest column only the offset grows.
    have column := column_le_past small rule tabs span
    right
    refine ⟨rfl, ?_⟩
    omega

-- What is announced in vain leads back on its line.
example : past ⟨1, 5, 4⟩ .flat true false ['x'] < ⟨1, 5, 4⟩ := by decide +kernel

end Lexing.Position
