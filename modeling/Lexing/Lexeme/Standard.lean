import Lexing.Lexeme.Blank
import Lexing.Lexeme.Comment
import Lexing.Lexeme.Literal
import Lexing.Lexeme.Number
import Lexing.Lexeme.Symbol

/-!
# The standard lexemes

The recognizers of the language in the order they are tried. Comments come before symbols, because a
comment starts with what would otherwise be a symbol.
-/

namespace Lexing.Lexeme

/-- The recognizers of the language. -/
def standard : List Recognizer := [blank, comment, literal, number, name, symbol]

end Lexing.Lexeme
