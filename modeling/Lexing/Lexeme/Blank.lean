import Lexing.Recognizer
import Lexing.Text.LineBreak
import Lexing.Unicode.WhiteSpace

/-!
# Blanks

A run of white space separates tokens and makes none.

## Main definitions

* `Lexeme.blank`: the recognizer of white space
-/

namespace Lexing.Lexeme

/-- Passes over the white space at the front of a text in silence. -/
def blank : Recognizer where
  name := "whitespace"
  run text :=
    match text.takeWhile Unicode.isWhiteSpace with
    | [] => .none
    | space =>
      .success ((Success.skip (Text.size space)).withMultiline (Text.hasBreak space)
        |>.withTabs true)

end Lexing.Lexeme
