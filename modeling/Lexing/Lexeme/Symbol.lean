import Lexing.Recognizer

/-!
# Symbols

The operators, brackets and separators. Longer symbols are tried first, so an arrow is not read as a
minus.

## Main definitions

* `Symbol`, `Symbol.Kind`, `Symbol.all`: the symbols and what they are for
* `Lexeme.symbol`: the recognizer of symbols
-/

namespace Lexing

/-- What a symbol is for. -/
inductive Symbol.Kind where
  | operator
  | arrow
  | opening
  | closing
  | separator
  deriving DecidableEq, Repr

/-- The tag of each kind of symbol. -/
def Symbol.Kind.tag : Symbol.Kind → String
  | operator => "operator"
  | arrow => "arrow"
  | opening => "open"
  | closing => "close"
  | separator => "separator"

/-- A symbol and what it is for. -/
structure Symbol where
  text : Text
  kind : Symbol.Kind
  deriving DecidableEq, Repr

/-- All symbols, longer ones first. -/
def Symbol.all : List Symbol :=
  [⟨['=', '='], .operator⟩, ⟨['!', '='], .operator⟩, ⟨['<', '='], .operator⟩,
   ⟨['>', '='], .operator⟩, ⟨['-', '>'], .arrow⟩,
   ⟨['='], .operator⟩, ⟨['<'], .operator⟩, ⟨['>'], .operator⟩, ⟨['+'], .operator⟩,
   ⟨['-'], .operator⟩, ⟨['*'], .operator⟩, ⟨['/'], .operator⟩,
   ⟨['('], .opening⟩, ⟨[')'], .closing⟩, ⟨['{'], .opening⟩, ⟨['}'], .closing⟩,
   ⟨[','], .separator⟩, ⟨[';'], .separator⟩]

namespace Lexeme

/-- Recognizes symbols. -/
def symbol : Recognizer where
  name := "punctuation"
  run text :=
    match Symbol.all.find? (·.text.isPrefixOf text) with
    | some symbol =>
      .success (Success.tagged (Text.size symbol.text) ["punctuation", symbol.kind.tag])
    | none => .none

end Lexeme

end Lexing
