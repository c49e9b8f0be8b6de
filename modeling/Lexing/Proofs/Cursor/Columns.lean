import Lexing.Proofs.Cursor.Cuts
import Lexing.Proofs.Cursor.Sound

/-!
# Columns in words

A column is a word that sticks at its greatest value, and the width of a span gets there in three
ways: one rule adds nothing, one adds two counts and checks the sum, and one clamps a product, then
a sum. Whoever passes a span in pieces clamps once more behind each piece. What a word has cut off
is lost, so it is not plain that the order of all this clamping does not matter.

It does not, since nothing is ever taken away: the clamped sum of clamped sums is the exact sum, cut
off once at the end. The one sum that is checked stays far below the greatest word, as no text has
more than half as many bytes as a word can count.

## Main definitions

* `Marker.difference`, `Marker.ruleOfWidth`: the rule for a tab width, worked out in signed words
* `Claim.withTabsOf`: the claim that passes a span as a part of one line, with its tabs widened

## Main results

* `TabRule.columns_eq_min`, `TabRule.columns_append`: the width of a span and of two of them
* `Position.past_past`: two spans of one line are passed as one
* `Marker.ruleOfWidth_eq`: the rule for a width does not depend on the size of words
* `Cursor.columns_clamped_once`: widths, columns behind any pieces, and widths of a tab
-/

namespace Lexing

/-! ### Widths -/

namespace TabRule

variable {text a b : Text}

/-- The columns of a short text fit into a word under every rule. -/
theorem columns_le_greatest (fits : 2 * Text.size text ≤ Word.greatest) (rule : TabRule) :
    rule.columns text ≤ Word.greatest := by
  have few := tabs_le_size text
  cases rule with
  | flat =>
    change Text.size text ≤ _
    omega
  | one =>
    change Text.size text + tabs text ≤ _
    omega
  | more extra => exact Word.clampedAdd_le ..

/-- The columns of a short text are its exact columns, cut off at the greatest word. -/
theorem columns_eq_min (fits : 2 * Text.size text ≤ Word.greatest) (rule : TabRule) :
    rule.columns text = min Word.greatest (rule.exactColumns text) := by
  have clamped := rule.clampedAdd_columns 0 text
  have word := columns_le_greatest fits rule
  rw [Word.clampedAdd, Nat.zero_add, Nat.zero_add, Nat.min_eq_right word] at clamped
  exact clamped

/-- The columns of two texts together are those of both, clamped. -/
theorem columns_append (fits : 2 * Text.size (a ++ b) ≤ Word.greatest) (rule : TabRule) :
    rule.columns (a ++ b) = min Word.greatest (rule.columns a + rule.columns b) := by
  have first : rule.columns a = min Word.greatest (rule.exactColumns a) := by
    rw [Text.size_append] at fits
    exact columns_eq_min (by omega) rule
  -- Only the columns of `a` are cut off on the way, and they are cut off again at the end.
  calc rule.columns (a ++ b)
      = min Word.greatest (rule.exactColumns a + rule.exactColumns b) := by
        rw [columns_eq_min fits, exactColumns_append]
    _ = min Word.greatest (rule.columns a + rule.exactColumns b) := by
        rw [first]
        omega
    _ = Word.clampedAdd (rule.columns a) (rule.columns b) := (rule.clampedAdd_columns ..).symm

end TabRule

/-! ### Columns behind pieces of a line -/

/-- Passing two spans of one line with their tabs is passing both at once. -/
theorem Position.past_past (position : Position) (rule : TabRule) (a b : Text) :
    (position.past rule false true a).past rule false true b =
      position.past rule false true (a ++ b) := by
  by_cases first : a = []
  · rw [first, past_nil, List.nil_append]
  by_cases second : b = []
  · rw [second, past_nil, List.append_nil]
  have joined : a ++ b ≠ [] := List.append_ne_nil_of_left_ne_nil first b
  have columns : Word.clampedAdd (Word.clampedAdd position.column (rule.columns a))
      (rule.columns b) = Word.clampedAdd position.column (rule.columns (a ++ b)) := by
    rw [rule.clampedAdd_columns, rule.clampedAdd_columns, rule.clampedAdd_columns,
      TabRule.exactColumns_append]
    omega
  simp only [past, first, second, joined, if_false, if_true, spanColumns, Bool.false_eq_true,
    columns, Text.size_append, Nat.add_assoc]

/-- The claim that passes a span without looking for line breaks, and widens its tabs. -/
def Claim.withTabsOf (span : Text) : Claim := ⟨Text.size span, false, true⟩

namespace Cursor

variable {cursor : Cursor} {span rest : Text}

theorem advance_withTabsOf (ahead : cursor.ahead = span ++ rest) :
    cursor.advance (.withTabsOf span) = .ok (cursor.beyond (.withTabsOf span) span rest) :=
  advance_beyond ahead rfl

/-- The cursor behind two spans of one line is the cursor behind both at once. -/
theorem beyond_beyond (cursor : Cursor) (a b rest : Text) :
    (cursor.beyond (.withTabsOf a) a (b ++ rest)).beyond (.withTabsOf b) b rest =
      cursor.beyond (.withTabsOf (a ++ b)) (a ++ b) rest := by
  have moved := cursor.position.past_past cursor.tabRule a b
  simp only [beyond, Claim.withTabsOf, moved, List.reverse_append, List.append_assoc]

/-- The pieces of a line lead where the line as a whole does. -/
theorem advanceAll_withTabsOf {pieces : List Text} (ahead : cursor.ahead = pieces.flatten ++ rest) :
    advanceAll (pieces.map Claim.withTabsOf) cursor =
      .ok (cursor.beyond (.withTabsOf pieces.flatten) pieces.flatten rest) := by
  induction pieces generalizing cursor with
  | nil =>
    -- Where there are no pieces, nothing is passed, and the position stays as it is.
    obtain ⟨file, rule, behind, text, position⟩ := cursor
    obtain rfl : text = rest := ahead
    rfl
  | cons piece pieces ih =>
    rw [List.flatten_cons, List.append_assoc] at ahead
    rw [List.map_cons, advanceAll, List.foldlM_cons, advance_withTabsOf ahead]
    have later := ih (ahead_beyond cursor (.withTabsOf piece) piece (pieces.flatten ++ rest))
    rw [beyond_beyond] at later
    exact later

end Cursor

/-! ### The rule for a width -/

namespace Marker

/-- The difference of two signed words. -/
def difference (a b : Int64) : Except Fault Int64 :=
  if (a - b).toInt = a.toInt - b.toInt then .ok (a - b) else .error .underflow

/-- The rule for a tab width, worked out in words. What is left of the width must count columns; if
it does not, the greatest word is taken. -/
def ruleOfWidth (width : Int64) : Except Fault TabRule := do
  if width ≤ 1 then return .flat
  else if width = 2 then return .one
  else
    let extra ← difference width 1
    return .more (if extra < 0 then Word.greatest else extra.toInt.toNat)

/-- A width that is greater than one can be made smaller by one. -/
theorem difference_one {width : Int64} (wide : 1 < width.toInt) :
    difference width 1 = .ok (width - 1) ∧ (width - 1).toInt = width.toInt - 1 := by
  have most := width.toInt_lt
  have exact : (width - 1).toInt = width.toInt - 1 := by
    rw [Int64.toInt_sub, Int64.toInt_one, Int.bmod_eq_of_le (by omega) (by omega)]
  exact ⟨by rw [difference, Int64.toInt_one, if_pos exact], exact⟩

/-- No width faults, and the rule is that for the width as a number. -/
theorem ruleOfWidth_eq (width : Int64) : ruleOfWidth width = .ok (.ofWidth width.toInt) := by
  unfold ruleOfWidth TabRule.ofWidth
  have small : width ≤ 1 ↔ width.toInt ≤ 1 := by rw [Int64.le_iff_toInt_le, Int64.toInt_one]
  have two : width = 2 ↔ width.toInt = 2 := by rw [← Int64.toInt_inj]; rfl
  simp only [small, two]
  split
  · rfl
  · next wide =>
    split
    · rfl
    · obtain ⟨made, exact⟩ := difference_one (Int.not_le.1 wide)
      have counts : ¬ width - 1 < 0 := by
        rw [Int64.lt_iff_toInt_lt, exact, Int64.toInt_zero]
        omega
      rw [made]
      simp only [bind, Except.bind, pure, Except.pure, counts, if_false, exact]

end Marker

namespace TabRule

/-- What a tab adds is one less than its width, where widths below one count as one. -/
theorem extra_ofWidth (width : Int) : ((ofWidth width).extra : Int) = max width 1 - 1 := by
  unfold ofWidth
  split
  · simp only [extra]
    omega
  · split <;> simp only [extra] <;> omega

/-- The width of a tab can be read back from the rule for a width that fits into a signed word. -/
theorem tabWidth_ofWidth {width : Int} (fits : width ≤ Text.mostBytes) :
    (ofWidth width).tabWidth = .ok (max width 1).toNat := by
  have exact := extra_ofWidth width
  unfold Text.mostBytes at fits
  have word : (ofWidth width).extra + 1 ≤ Word.greatest := by
    unfold Word.greatest
    omega
  rw [tabWidth, Word.add, if_pos word]
  congr 1
  omega

end TabRule

namespace Cursor

/-- Under every rule, the width of a span that a text can have is worked out without a fault and is
the exact one, cut off at the greatest word; that of two spans together is the sum of theirs, cut
off in the same way. So a span whose tabs are announced and whose line breaks are not can be passed
in any pieces, from any column: the cursor ends where it does when the span is passed at once, in
the column that is the exact sum cut off at the end. And for every width in a signed word there is a
rule, found without a fault, whose tab adds one less than that width and is as wide, where all
widths below one count as one. -/
theorem columns_clamped_once (rule : TabRule) :
    (∀ span, Text.size span ≤ Text.mostBytes →
      Marker.columns rule span = .ok (rule.columns span) ∧
      rule.columns span =
        min Word.greatest (Text.size span + TabRule.tabs span * rule.extra)) ∧
    (∀ a b, Text.size (a ++ b) ≤ Text.mostBytes →
      rule.columns (a ++ b) = min Word.greatest (rule.columns a + rule.columns b)) ∧
    (∀ (cursor : Cursor) (pieces : List Text) (rest : Text), cursor.tabRule = rule →
      cursor.ahead = pieces.flatten ++ rest → cursor.position.column ≤ Word.greatest →
      ∃ moved, advanceAll (pieces.map Claim.withTabsOf) cursor = .ok moved ∧
        cursor.advance (.withTabsOf pieces.flatten) = .ok moved ∧
        moved.position.column = min Word.greatest (cursor.position.column +
          (Text.size pieces.flatten + TabRule.tabs pieces.flatten * rule.extra))) ∧
    ∀ width : Int64, ∃ made, Marker.ruleOfWidth width = .ok made ∧
      made = TabRule.ofWidth width.toInt ∧
      (made.extra : Int) = max width.toInt 1 - 1 ∧
      made.tabWidth = .ok (max width.toInt 1).toNat := by
  have twice : ∀ {span}, Text.size span ≤ Text.mostBytes → 2 * Text.size span ≤ Word.greatest := by
    intro span fits
    unfold Text.mostBytes at fits
    unfold Word.greatest
    omega
  refine ⟨fun span fits => ?_, fun a b fits => ?_, ?_, fun width => ?_⟩
  · have exact := TabRule.columns_eq_min (twice fits) rule
    rw [TabRule.exactColumns, Nat.mul_comm] at exact
    exact ⟨Marker.columns_of_le (twice fits), exact⟩
  · exact TabRule.columns_append (twice fits) rule
  · rintro cursor pieces rest rfl ahead word
    refine ⟨_, advanceAll_withTabsOf ahead, advance_withTabsOf ahead, ?_⟩
    rw [position_beyond, Claim.withTabsOf, Nat.mul_comm, ← TabRule.exactColumns,
      ← TabRule.clampedAdd_columns]
    by_cases none : pieces.flatten = []
    · -- Nothing is passed, so nothing is clamped; but the column is a word already.
      rw [none, Position.past_nil, TabRule.clampedAdd_columns]
      simpa [TabRule.exactColumns, TabRule.tabs] using word
    · simp [Position.past, none, Position.spanColumns]
  · have most : width.toInt ≤ Text.mostBytes := by
      have below := width.toInt_lt
      unfold Text.mostBytes
      omega
    exact ⟨_, Marker.ruleOfWidth_eq width, rfl, TabRule.extra_ofWidth _,
      TabRule.tabWidth_ofWidth most⟩

/-- A tab that adds as much as a word can hold, passed two columns before the last one, in pieces of
which one is empty; and the widest and the narrowest tab that can be asked for. -/
theorem columns_clamped_near_greatest :
    let rule : TabRule := .more Word.greatest
    let cursor : Cursor := ⟨"file", rule, [], ['a', '\t', 'é'], ⟨1, Word.greatest - 2, 0⟩⟩
    Text.size ['a', '\t'] ≤ Text.mostBytes ∧
    Marker.columns rule ['a', '\t'] = .ok Word.greatest ∧
    Text.size (['a', '\t'] ++ ['é']) ≤ Text.mostBytes ∧
    rule.columns (['a', '\t'] ++ ['é']) = Word.greatest ∧
    (∃ moved, advanceAll ([['a'], [], ['\t']].map Claim.withTabsOf) cursor = .ok moved ∧
      cursor.advance (.withTabsOf ['a', '\t']) = .ok moved ∧
      moved.position.column = Word.greatest) ∧
    (∃ made, Marker.ruleOfWidth Int64.maxValue = .ok made ∧ made.tabWidth = .ok Text.mostBytes) ∧
    ∃ made, Marker.ruleOfWidth Int64.minValue = .ok made ∧ made.tabWidth = .ok 1 := by
  intro rule cursor
  obtain ⟨widths, sums, pieces, rules⟩ := columns_clamped_once rule
  have short : Text.size ['a', '\t'] ≤ Text.mostBytes := by decide
  have long : Text.size (['a', '\t'] ++ ['é']) ≤ Text.mostBytes := by decide +kernel
  obtain ⟨moved, piecewise, whole, column⟩ := pieces cursor [['a'], [], ['\t']] ['é'] rfl rfl
    (by decide)
  obtain ⟨wide, made, -, -, widest⟩ := rules Int64.maxValue
  obtain ⟨narrow, found, -, -, narrowest⟩ := rules Int64.minValue
  have width : rule.columns ['a', '\t'] = Word.greatest := by decide +kernel
  have sum : min Word.greatest (rule.columns ['a', '\t'] + rule.columns ['é']) = Word.greatest := by
    decide +kernel
  exact ⟨short, width ▸ (widths _ short).1, long, (sums _ _ long).trans sum,
    ⟨moved, piecewise, whole, column.trans (by decide +kernel)⟩,
    ⟨wide, made, widest.trans (by decide +kernel)⟩,
    ⟨narrow, found, narrowest.trans (by decide +kernel)⟩⟩

end Cursor

end Lexing
