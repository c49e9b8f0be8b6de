import Lexing.Lexeme.Name

/-!
# Numbers

A number is a run of the ten ASCII digits. One that runs on into a name is no number, and the part
that does not belong to it is reported.

## Main definitions

* `Lexeme.number`: the recognizer of numbers
-/

namespace Lexing.Lexeme

/-- Recognizes numbers. -/
def number : Recognizer where
  name := "number"
  run text :=
    let digits := text.takeWhile Char.isDigit
    let rest := text.dropWhile Char.isDigit
    if digits.isEmpty then .none
    else if rest.head?.any Name.isStart then
      let stray := rest.takeWhile Name.isPart
      .failure ((Failure.single (Text.size digits + Text.size stray) (Text.size digits)
        "invalid digit in number").withHighlight (Text.size stray))
    else .success (Success.tagged (Text.size digits) ["number"])

end Lexing.Lexeme
