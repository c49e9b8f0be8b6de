import Lexing.Text.Basic
import Lexing.Word

/-!
# Tabs

A tab is one byte and may be worth several columns. A rule says how many columns each tab adds to
the one that its byte counts for anyway. Tab stops play no part: every tab is worth the same.

## Main definitions

* `TabRule`: what a tab adds
* `TabRule.ofWidth`: the rule for a tab width
* `TabRule.extra`, `TabRule.tabWidth`: what a tab adds, and what it is worth
* `TabRule.columns`: how many columns a piece of text takes up
-/

namespace Lexing

/-- How many columns a tab adds beyond its own byte. -/
inductive TabRule where
  /-- A tab is a byte like any other. -/
  | flat
  /-- A tab adds one column. -/
  | one
  /-- A tab adds the given number of columns. -/
  | more (extra : Nat)
  deriving DecidableEq, Repr

namespace TabRule

/-- The tab width where none is given. -/
def defaultWidth : Int := 4

/-- The rule for a tab width. A width of one or less leaves tabs alone. -/
def ofWidth (width : Int) : TabRule :=
  if width ≤ 1 then .flat
  else if width = 2 then .one
  else .more (width - 1).toNat

instance : Inhabited TabRule := ⟨ofWidth defaultWidth⟩

/-- The columns that a tab adds. -/
def extra : TabRule → Nat
  | flat => 0
  | one => 1
  | more extra => extra

/-- The columns that a tab is worth, if they can be counted in a word. -/
def tabWidth (rule : TabRule) : Except Overflow Nat := Word.add rule.extra 1

/-- The number of tabs in a text. -/
def tabs (text : Text) : Nat := text.count '\t'

/-- The columns that a text takes up: its bytes, and what its tabs add. The general rule is clamped
to a word; the sum for single columns is at most twice the size of the text. -/
def columns (rule : TabRule) (text : Text) : Nat :=
  match rule with
  | flat => Text.size text
  | one => Text.size text + tabs text
  | more extra => Word.clampedAdd (Text.size text) (Word.clampedMul (tabs text) extra)

@[simp] theorem tabs_append (a b : Text) : tabs (a ++ b) = tabs a + tabs b :=
  List.count_append

/-- A text has at most as many tabs as bytes. -/
theorem tabs_le_size (text : Text) : tabs text ≤ Text.size text :=
  Nat.le_trans List.count_le_length (Text.length_le_size text)

end TabRule

end Lexing
