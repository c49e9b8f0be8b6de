/-!
# Clamped 64-bit words

Columns and widths live in 64-bit words. Sums and products that would leave the word stick at its
greatest value, so a column never wraps around to a small one. The one sum that is checked instead
of clamped reports its overflow.

## Main definitions

* `Word.greatest`: the greatest 64-bit word
* `Word.clampedAdd`, `Word.clampedMul`: arithmetic that stops at `Word.greatest`
* `Word.add`: the sum, or `Overflow` when it does not fit
-/

namespace Lexing

/-- A checked sum left the 64-bit word. -/
inductive Overflow where
  | add
  deriving DecidableEq, Repr

/-- The wording of an overflow. -/
def Overflow.message : Overflow → String
  | .add => "attempt to add with overflow"

namespace Word

/-- The greatest 64-bit word. -/
def greatest : Nat := 0xFFFF_FFFF_FFFF_FFFF

/-- The sum, stopped at the greatest word. -/
def clampedAdd (a b : Nat) : Nat := min greatest (a + b)

/-- The product, stopped at the greatest word. -/
def clampedMul (a b : Nat) : Nat := min greatest (a * b)

/-- The sum of two words if it is a word. -/
def add (a b : Nat) : Except Overflow Nat :=
  if a + b ≤ greatest then .ok (a + b) else .error .add

theorem clampedAdd_le (a b : Nat) : clampedAdd a b ≤ greatest := Nat.min_le_left ..

theorem clampedAdd_comm (a b : Nat) : clampedAdd a b = clampedAdd b a := by
  unfold clampedAdd; omega

end Word

end Lexing
