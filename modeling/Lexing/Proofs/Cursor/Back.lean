import Lexing.Proofs.Cursor.Cuts
import Lexing.Proofs.Cursor.Locate

/-!
# Going back from a cursor

A problem may lie before the place where its attempt started. Then the text is not looked at: as
many columns are gone back as bytes, to the first column at most, and as many bytes, to the start of
the text at most. This is the place that many bytes back, or the start of the line where that is
nearer, only as long as each of the bytes has one column. A tab has more, and where the line ends
before the bytes do the column stops at its start and the offset does not.

## Main definitions

* `Position.Retraces`: no byte that is gone back over has more than a column

## Main results

* `Position.after_lastLine`: the places on the last line
* `Position.columnAfter_eq_add_iff`: only widened tabs take more columns than bytes
* `Cursor.locate_neg_iff`: when going back comes to the right place
* `Cursor.back_over_tab_and_break`: where it comes to another
-/

namespace Lexing

open Text

namespace Position

variable {rule : TabRule} {passed near far : Text} {back : Nat}

/-- Going back by some bytes from the end of a text stays on the last line, the columns of the bytes
can all be counted, and no tab among them is widened (the widening is not seen where it is cut off).
From the first line it may also go back past the start of the text, by as many bytes as there are
columns at least. -/
inductive Retraces (rule : TabRule) (passed : Text) (back : Nat) : Prop
  | within {near far : Text} (line : lastLine passed = near ++ far) (bytes : size far = back)
      (room : 1 + rule.exactColumns near + back ≤ Word.greatest)
      (flat : rule.extra = 0 ∨ '\t' ∉ far ∨ 1 + rule.exactColumns near + back = Word.greatest)
  | past (unbroken : hasBreak passed = false) (before : size passed < back)
      (columns : rule.exactColumns passed ≤ back)

/-- The last line starts behind all breaks, so the places on it are on one line, and their columns
are told by what is in front of them on the line. -/
theorem after_lastLine {front : Text} (whole : passed = front ++ lastLine passed)
    (line : lastLine passed = near ++ far) :
    after rule (front ++ near) =
      ⟨1 + breaks passed, columnAfter rule near, size front + size near⟩ := by
  have unbroken := hasBreak_lastLine passed
  rw [line, hasBreak_append, Bool.or_eq_false_iff] at unbroken
  have same : breaks passed = breaks front := by
    rw [whole, breaks_append_of_not_hasBreak (hasBreak_lastLine passed)]
  have anew : lastLine front = [] := by
    have split := lastLine_append_of_not_hasBreak (hasBreak_lastLine passed) front
    rw [← whole] at split
    exact List.append_left_eq_self.1 split.symm
  refine eq_of_fields ?_ ?_ (size_append ..)
  · rw [line_after, breaks_append_of_not_hasBreak unbroken.1, same]
  · change columnAfter rule (front ++ near) = _
    rw [columnAfter, lastLine_append_of_not_hasBreak unbroken.1, anew, List.nil_append, columnAfter,
      lastLine_of_not_hasBreak unbroken.1]

/-- Going back over a part of the last line takes as many columns as bytes exactly if there are as
many columns to count and no tab is seen to be widened. -/
theorem columnAfter_eq_add_iff (line : lastLine passed = near ++ far) (bytes : size far = back)
    (some : 0 < back) : columnAfter rule passed = columnAfter rule near + back ↔
      1 + rule.exactColumns near + back ≤ Word.greatest ∧
        (rule.extra = 0 ∨ '\t' ∉ far ∨ 1 + rule.exactColumns near + back = Word.greatest) := by
  have unbroken := hasBreak_lastLine passed
  rw [line, hasBreak_append, Bool.or_eq_false_iff] at unbroken
  have bytes_and_tabs : rule.exactColumns far = back + rule.extra * TabRule.tabs far := by
    rw [TabRule.exactColumns, bytes]
  have no_tab : TabRule.tabs far = 0 ↔ '\t' ∉ far := List.count_eq_zero
  rw [columnAfter, columnAfter, line, lastLine_of_not_hasBreak unbroken.1,
    TabRule.exactColumns_append, ← no_tab, ← or_assoc, ← Nat.mul_eq_zero]
  omega

theorem columnAfter_pos (rule : TabRule) (passed : Text) : 1 ≤ columnAfter rule passed := by
  unfold columnAfter Word.greatest
  omega

end Position

namespace Cursor

open Position

variable {cursor : Cursor} {passed rest : Text} {back : Nat}

/-- From its place, going back by some bytes. -/
theorem locate_neg (placed : cursor.position = after cursor.tabRule passed) (some : 0 < back) :
    cursor.locate (-back) = ⟨1 + breaks passed,
      max 1 (columnAfter cursor.tabRule passed - back), size passed - back⟩ := by
  rw [locate_of_neg (by omega), placed, Int.natAbs_neg, Int.natAbs_natCast]
  rfl

/-- Going back over bytes that have a column each comes to the place in front of them. -/
theorem locate_neg_of_retraces (placed : cursor.position = after cursor.tabRule passed)
    (some : 0 < back) (retraces : Retraces cursor.tabRule passed back) :
    (cursor.locate (-back)).IsPlaceOf cursor.tabRule (passed ++ rest) ∧
      (cursor.locate (-back)).offset =
        max (size passed - size (lastLine passed)) (size passed - back) := by
  rw [locate_neg placed some]
  cases retraces with
  | @within near far line bytes room flat =>
    have columns := (columnAfter_eq_add_iff line bytes some).2 ⟨room, flat⟩
    obtain ⟨front, whole⟩ := lastLine_suffix passed
    have place := @after_lastLine cursor.tabRule _ _ _ _ whole.symm line
    have total := congrArg size whole
    have positive := columnAfter_pos cursor.tabRule near
    rw [line, size_append, size_append] at total
    rw [line, size_append]
    have column : max 1 (columnAfter cursor.tabRule passed - back) =
        columnAfter cursor.tabRule near := by omega
    have offset : size passed - back = size front + size near := by omega
    rw [column, offset]
    refine ⟨⟨front ++ near, far ++ rest, ?_, place.symm⟩, ?_⟩
    · rw [← whole, line]
      simp
    · change size front + size near = _
      omega
  | past unbroken before columns =>
    have column : max 1 (columnAfter cursor.tabRule passed - back) = 1 := by
      rw [columnAfter, lastLine_of_not_hasBreak unbroken]
      omega
    have offset : size passed - back = 0 := Nat.sub_eq_zero_of_le (Nat.le_of_lt before)
    rw [column, offset, breaks_eq_zero_of_not_hasBreak unbroken, lastLine_of_not_hasBreak unbroken]
    refine ⟨⟨[], passed ++ rest, rfl, (after_nil _).symm⟩, ?_⟩
    change 0 = _
    omega

/-- Going back comes to the place of that offset only where each byte has a column. -/
theorem retraces_of_locate_neg (placed : cursor.position = after cursor.tabRule passed)
    (some : 0 < back) (counted : 1 + back < Word.greatest)
    (place : (cursor.locate (-back)).IsPlaceOf cursor.tabRule (passed ++ rest))
    (offset : (cursor.locate (-back)).offset =
      max (size passed - size (lastLine passed)) (size passed - back)) :
    Retraces cursor.tabRule passed back := by
  rw [locate_neg placed some] at place offset
  obtain ⟨before, ahead, same, place⟩ := place
  have columns : max 1 (columnAfter cursor.tabRule passed - back) =
      columnAfter cursor.tabRule before := congrArg column place
  have bytes : size passed - back = size before := congrArg Position.offset place
  change size passed - back = _ at offset
  obtain ⟨front, whole⟩ := lastLine_suffix passed
  have total := congrArg size whole
  rw [size_append] at total
  by_cases within : back ≤ size (lastLine passed)
  · -- The place cuts the last line in two.
    obtain ⟨far, split, -⟩ := exists_append_of_size_le same.symm (by omega)
    obtain ⟨near, longer, line⟩ :=
      exists_append_of_size_le (whole.trans split) (by omega : size front ≤ size before)
    have back_eq : size far = back := by
      have sizes := congrArg size split
      rw [size_append] at sizes
      omega
    have column : columnAfter cursor.tabRule before = columnAfter cursor.tabRule near := by
      rw [longer]
      exact congrArg Position.column (after_lastLine whole.symm line)
    -- The first column stands in for none only where it is too far to the left.
    have enough : back < columnAfter cursor.tabRule passed := by
      have wide : size far ≤ cursor.tabRule.exactColumns far := Nat.le_add_right ..
      rw [columnAfter, line, TabRule.exactColumns_append]
      omega
    have taken : columnAfter cursor.tabRule passed = columnAfter cursor.tabRule near + back := by
      omega
    obtain ⟨room, flat⟩ := (columnAfter_eq_add_iff line back_eq some).1 taken
    exact .within line back_eq room flat
  · -- No line but the first lets the offset go on to where the text starts.
    have first : size front = 0 := by omega
    rw [size_eq_zero_iff] at first
    rw [first, List.nil_append] at whole
    have start : before = [] := size_eq_zero_iff.1 (by omega)
    rw [start] at columns
    have one : columnAfter cursor.tabRule [] = 1 := congrArg column (after_nil cursor.tabRule)
    refine .past ?_ ?_ ?_
    · rw [← whole]
      exact hasBreak_lastLine passed
    · rw [whole] at within
      omega
    · rw [columnAfter, whole] at columns
      omega

/-- Stretches that leave all pairs whole lead to the place behind them. -/
theorem exists_advanceAll_of_whole (file : String) (rule : TabRule) {stretches : List Stretch}
    (whole : Stretch.splits [] stretches = 0) (rest : Text) :
    ∃ cursor, advanceAll (stretches.map Stretch.claim)
        (ofText file rule (Stretch.text stretches ++ rest)) = .ok cursor ∧
      cursor.tabRule = rule ∧ cursor.position = after rule (Stretch.text stretches) := by
  have begin : Counts [] 0 (ofText file rule (Stretch.text stretches ++ rest)) := by
    have start := after_nil rule
    constructor
    · rfl
    · exact (congrArg column start).symm
    · rfl
    · exact Nat.le_of_eq (congrArg line start)
    · exact Nat.le_of_eq (congrArg line start).symm
  obtain ⟨cursor, ran, -, same, counts⟩ := begin.advanceAll rfl
  rw [whole, List.nil_append] at counts
  refine ⟨cursor, ran, same, eq_of_fields ?_ ?_ counts.offset⟩
  · exact Nat.le_antisymm counts.line_le counts.line_ge
  · rw [counts.column, same]
    rfl

/-- From any cursor that was moved truthfully and over whole pairs, going back by some bytes comes
to the place of an offset that stops at the start of the line exactly if it takes as many columns
as bytes. No offset of a signed word goes further back than half of all words. -/
theorem locate_neg_iff (file : String) (rule : TabRule) {stretches : List Stretch}
    (whole : Stretch.splits [] stretches = 0) (rest : Text) {back : Nat} (some : 0 < back)
    (word : back ≤ 0x8000_0000_0000_0000) :
    let passed := Stretch.text stretches
    ∃ cursor, advanceAll (stretches.map Stretch.claim) (ofText file rule (passed ++ rest)) =
        .ok cursor ∧
      cursor.position = after rule passed ∧
      let position := cursor.locate (-back)
      (position.IsPlaceOf rule (passed ++ rest) ∧
        position.offset = max (size passed - size (lastLine passed)) (size passed - back) ↔
          Retraces rule passed back) := by
  intro passed
  obtain ⟨cursor, ran, same, placed⟩ := exists_advanceAll_of_whole file rule whole rest
  refine ⟨cursor, ran, placed, ?_⟩
  rw [← same] at placed ⊢
  have counted : 1 + back < Word.greatest := by
    unfold Word.greatest
    omega
  constructor
  · rintro ⟨place, offset⟩
    exact retraces_of_locate_neg placed some counted place offset
  · exact locate_neg_of_retraces placed some

/-- A stretch that announces its tabs. -/
private def openly (span : Text) : Stretch := ⟨span, true, fun _ => rfl⟩

/-- On a later line, two bytes back over two letters behind a tab. -/
theorem locate_neg_over_letter :
    Stretch.splits [] [openly ['a', '\n', '\t'], openly ['b', 'c']] = 0 ∧ 0 < 2 ∧
      2 ≤ 0x8000_0000_0000_0000 ∧
      ∃ cursor, advanceAll ([openly ['a', '\n', '\t'], openly ['b', 'c']].map Stretch.claim)
          (ofText "file" (.more 3) ['a', '\n', '\t', 'b', 'c', 'd']) = .ok cursor ∧
        (cursor.locate (-2)).IsPlaceOf (.more 3) ['a', '\n', '\t', 'b', 'c', 'd'] := by
  have whole : Stretch.splits [] [openly ['a', '\n', '\t'], openly ['b', 'c']] = 0 := by decide
  refine ⟨whole, by decide, by decide, ?_⟩
  obtain ⟨cursor, ran, -, coherent⟩ :=
    locate_neg_iff "file" (.more 3) whole ['d'] (by decide : 0 < 2) (by decide)
  have line : lastLine ['a', '\n', '\t', 'b', 'c'] = ['\t'] ++ ['b', 'c'] := by decide
  have retraces : Retraces (.more 3) ['a', '\n', '\t', 'b', 'c'] 2 :=
    .within line rfl (by decide) (.inr (.inl (by decide)))
  exact ⟨cursor, ran, (coherent.2 retraces).1⟩

/-- One byte back over a tab lies the start of the line, which is the first column. Going back comes
to the fourth instead, and one byte further to the line before, without going to that line. -/
theorem back_over_tab_and_break :
    Stretch.splits [] [openly ['a', '\n'], openly ['\t']] = 0 ∧
    (advanceAll ([openly ['a', '\n'], openly ['\t']].map Stretch.claim)
        (ofText "file" (.ofWidth 4) ['a', '\n', '\t', 'b'])).map
      (fun cursor => (cursor.position, cursor.locate (-1), cursor.locate (-2))) =
        .ok (⟨2, 5, 3⟩, ⟨2, 4, 2⟩, ⟨2, 3, 1⟩) ∧
    after (.ofWidth 4) ['a', '\n'] = ⟨2, 1, 2⟩ ∧
    ¬ IsPlaceOf (.ofWidth 4) ['a', '\n', '\t', 'b'] ⟨2, 4, 2⟩ ∧
    ¬ IsPlaceOf (.ofWidth 4) ['a', '\n', '\t', 'b'] ⟨2, 3, 1⟩ ∧
    max (size ['a', '\n', '\t'] - size (lastLine ['a', '\n', '\t']))
      (size ['a', '\n', '\t'] - 2) = 2 := by
  decide

end Cursor

end Lexing
