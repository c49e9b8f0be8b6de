import Lexing.Text.Basic
import Lexing.Unicode.ExtendingMark
import Lexing.Unicode.Unprintable

/-!
# Quoted texts

A text is shown in double quotes. The quote, the backslash and five controls have short escapes.
A character that cannot be seen, or that would join the character before it, is shown by its code
point in braces. Everything else stands for itself, the single quote included.

## Main definitions

* `Text.escape`: how one character is shown
* `Text.quote`: a text in quotes
-/

namespace Lexing.Text

/-- A code point in lower-case hexadecimal digits, without padding, in braces. -/
def codePointEscape (c : Char) : Text :=
  ['\\', 'u', '{'] ++ Nat.toDigits 16 c.toNat ++ ['}']

/-- How a character is shown inside quotes. -/
def escape : Char → Text
  | '"' => ['\\', '"']
  | '\\' => ['\\', '\\']
  | '\t' => ['\\', 't']
  | '\n' => ['\\', 'n']
  | '\r' => ['\\', 'r']
  | '\x00' => ['\\', '0']
  | c =>
    if Unicode.isExtendingMark c || Unicode.isUnprintable c then codePointEscape c else [c]

/-- A text in double quotes. -/
def quote (text : Text) : String :=
  String.ofList ('"' :: text.flatMap escape ++ ['"'])

end Lexing.Text
