import Lexing.Text.Basic

/-!
# Signed numerals

The numerals of signed 64-bit numbers: an optional sign and at least one ASCII digit, nothing else.
Leading zeros are allowed. A numeral whose value does not fit is none.

## Main definitions

* `Text.readDigits?`: the value of a run of digits
* `Text.readInt64?`: the value of a signed numeral that fits into 64 bits
-/

namespace Lexing.Text

/-- The value of a text that consists of one or more ASCII digits. -/
def readDigits? (text : Text) : Option Nat :=
  if text ≠ [] ∧ text.all Char.isDigit then
    some (text.foldl (fun value digit => 10 * value + (digit.toNat - '0'.toNat)) 0)
  else none

/-- The value of a signed numeral, whatever its size. -/
def readInt? : Text → Option Int
  | '-' :: digits => (readDigits? digits).map fun value => -(value : Int)
  | '+' :: digits => (readDigits? digits).map Int.ofNat
  | digits => (readDigits? digits).map Int.ofNat

/-- The value of a signed numeral that fits into 64 bits. -/
def readInt64? (text : Text) : Option Int :=
  (readInt? text).filter fun value =>
    -0x8000_0000_0000_0000 ≤ value ∧ value < 0x8000_0000_0000_0000

end Lexing.Text
