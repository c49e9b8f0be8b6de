import Lexing.Diagnostic
import Lexing.Proofs.Position.After
import Lexing.Proofs.Text.Boundary

/-!
# Where an offset from a cursor lies

An offset ahead of a cursor is located by walking over the text up to it, with a walk that looks for
line breaks and tabs itself. So it comes to the right place from a cursor at the right place,
whatever the flags were that led there.

## Main results

* `Cursor.locate_of_nonneg`, `Cursor.locate_size`: an offset ahead is one span away
* `Cursor.isGreatest_offset_locate`: it is rounded down to the last place between characters
* `Cursor.locate_eq_after`: from its place a cursor locates what lies ahead at its place
-/

namespace Lexing.Cursor

open Text

variable {offset : Int}

/-- An offset ahead lies behind the span that fits into it. -/
theorem locate_of_nonneg (forward : 0 ≤ offset) (cursor : Cursor) :
    let span := (fit offset.toNat cursor.ahead).1
    cursor.locate offset = cursor.position.past cursor.tabRule (hasBreak span) true span :=
  if_neg (Int.not_lt.2 forward)

/-- An offset back is taken off the column and the offset, each as far as it goes. -/
theorem locate_of_neg (backward : offset < 0) (cursor : Cursor) :
    cursor.locate offset = ⟨cursor.position.line,
      max 1 (cursor.position.column - offset.natAbs),
      cursor.position.offset - offset.natAbs⟩ := if_pos backward

/-- The offset of a piece ahead lies behind that piece. -/
theorem locate_size {cursor : Cursor} {before after : Text}
    (ahead : cursor.ahead = before ++ after) : cursor.locate (size before) =
      cursor.position.past cursor.tabRule (hasBreak before) true before := by
  have piece : (fit (size before : Int).toNat cursor.ahead).1 = before := by
    rw [Int.toNat_natCast, ahead, fit_of_size]
  rw [locate_of_nonneg (Int.natCast_nonneg _), piece]

/-- The position of no offset is the cursor's own. -/
@[simp] theorem locate_zero (cursor : Cursor) : cursor.locate 0 = cursor.position :=
  @locate_size cursor [] cursor.ahead rfl

/-- An offset ahead is rounded down to the last place between two characters, which is the end of
the text if the offset lies past that. -/
theorem isGreatest_offset_locate (forward : 0 ≤ offset) (cursor : Cursor) :
    ∃ distance : Nat, (cursor.locate offset).offset = cursor.position.offset + distance ∧
      IsGreatest {n : Nat | IsBoundary cursor.ahead n ∧ (n : Int) ≤ offset} distance := by
  refine ⟨_, by rw [locate_of_nonneg forward, Position.offset_past], ?_⟩
  have greatest := isGreatest_size_fit offset.toNat cursor.ahead
  simpa only [Int.le_toNat forward] using greatest

/-- From its place a cursor locates what lies ahead at its place. -/
theorem locate_eq_after {cursor : Cursor} {passed : Text}
    (placed : cursor.position = Position.after cursor.tabRule passed)
    (whole : ¬ Splits passed cursor.ahead) (forward : 0 ≤ offset) :
    cursor.locate offset =
      Position.after cursor.tabRule (passed ++ (fit offset.toNat cursor.ahead).1) := by
  have apart : ¬ Splits passed (fit offset.toNat cursor.ahead).1 := by
    rw [← fit_append offset.toNat cursor.ahead] at whole
    exact not_splits_of_append whole
  rw [locate_of_nonneg forward, placed]
  exact Position.past_after (fun _ => rfl) apart cursor.tabRule

end Lexing.Cursor
