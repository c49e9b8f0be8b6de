import Lexing.Recognizer
import Lexing.Unicode.Alphabetic
import Lexing.Unicode.Numeric

/-!
# Names

A name starts with an alphabetic character or an underscore and goes on with these and numerals, of
any script.

## Main definitions

* `Name.isStart`, `Name.isPart`: the characters of names
* `Lexeme.name`: the recognizer of names
-/

namespace Lexing

namespace Name

/-- The characters that a name starts with. -/
def isStart (c : Char) : Bool := Unicode.isAlphabetic c || c == '_'

/-- The characters that a name consists of. -/
def isPart (c : Char) : Bool := Unicode.isAlphabetic c || Unicode.isNumeric c || c == '_'

end Name

namespace Lexeme

/-- Recognizes names. -/
def name : Recognizer where
  name := "identifier"
  run
    | c :: text =>
      if Name.isStart c then
        .success (Success.tagged (Text.size ((c :: text).takeWhile Name.isPart)) ["identifier"])
      else .none
    | [] => .none

end Lexeme

end Lexing
