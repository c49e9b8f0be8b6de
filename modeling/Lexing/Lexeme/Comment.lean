import Lexing.Recognizer
import Lexing.Text.LineBreak

/-!
# Comments

Two slashes start a comment, which lasts to the end of the line and makes no token.

## Main definitions

* `Lexeme.comment`: the recognizer of comments
-/

namespace Lexing.Lexeme

/-- Passes over a comment in silence, up to the line break. -/
def comment : Recognizer where
  name := "line-comment"
  run
    | '/' :: '/' :: text =>
      let body := text.takeWhile (!Text.isBreak ·)
      .success ((Success.skip (Text.size ('/' :: '/' :: body))).withTabs true)
    | _ => .none

end Lexing.Lexeme
