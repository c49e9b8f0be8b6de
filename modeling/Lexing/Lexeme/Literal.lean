import Lexing.Recognizer
import Lexing.Text.LineBreak

/-!
# String literals

A string literal stands between double quotes on one line. Inside it a backslash takes the next
character with it, whatever that is, but only four of these escapes are known. A literal that the
line break or the end of the text cuts short, or that has an unknown escape, fails as a whole, and
all that is wrong with it is reported.

## Main definitions

* `Literal.Reading`, `Literal.read`: what stands after the opening quote
* `Lexeme.literal`: the recognizer of string literals
-/

namespace Lexing

namespace Literal

/-- The characters that may follow a backslash. -/
def isKnownEscape (c : Char) : Bool := c == '"' || c == '\\' || c == 'n' || c == 't'

/-- An escape that is not known, marked from its backslash on. -/
def unknownEscape (offset : Nat) (c : Char) : Problem where
  offset := offset
  highlight := 1 + c.utf8Size
  message := "unknown escape `\\" ++ c.toString ++ "`"

/-- A literal without a closing quote, marked at its opening quote. -/
def unterminated : Problem := ⟨0, 1, "unterminated string"⟩

/-- What a literal looks like from its opening quote on. -/
structure Reading where
  /-- The unknown escapes, in order. -/
  unknown : List Problem
  /-- The bytes of the literal, with its quotes. -/
  length : Nat
  /-- Whether a closing quote ends the literal. -/
  closed : Bool

/-- Reads a literal on from inside, where `offset` bytes of it have been read. -/
def read (offset : Nat) : Text → Reading
  | [] => ⟨[], offset, false⟩
  -- A backslash at the very end has no character to take with it.
  | ['\\'] => ⟨[], offset + 1, false⟩
  | '\\' :: c :: text =>
    if isKnownEscape c then read (offset + 1 + c.utf8Size) text
    else
      let rest := read (offset + 1 + c.utf8Size) text
      { rest with unknown := unknownEscape offset c :: rest.unknown }
  -- From here on the first character is no backslash.
  | c :: text =>
    if c = '"' then ⟨[], offset + 1, true⟩
    -- The line break itself is left for what follows the literal.
    else if Text.isBreak c then ⟨[], offset, false⟩
    else read (offset + c.utf8Size) text

/-- Everything wrong with a literal: its unknown escapes, then a missing quote. -/
def Reading.problems (reading : Reading) : List Problem :=
  reading.unknown ++ if reading.closed then [] else [unterminated]

end Literal

namespace Lexeme

/-- Recognizes string literals. -/
def literal : Recognizer where
  name := "string"
  run
    | '"' :: text =>
      let reading := Literal.read 1 text
      if reading.problems.isEmpty then
        .success ((Success.tagged reading.length ["string"]).withTabs true)
      else .failure ⟨(Claim.ofLength reading.length).withTabs true, reading.problems⟩
    | _ => .none

end Lexeme

end Lexing
