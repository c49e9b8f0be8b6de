import Lexing.Token

/-!
# Keywords

Keywords are names of the language itself. They are told apart from other names in a pass over the
finished tokens.

## Main definitions

* `Token.isKeyword`, `Token.promote`: a token whose name is a keyword becomes one
* `Token.promoteAll`: the pass over all tokens
-/

namespace Lexing.Token

/-- The names that the language keeps for itself. -/
def keywords : List String := ["fn", "let", "if", "else", "while", "return"]

/-- Whether the text of a token is a keyword. -/
def spellsKeyword (token : Token) : Bool :=
  keywords.contains (String.ofList token.content.text)

/-- A name that spells a keyword becomes a keyword and stops being a name. -/
def promote (token : Token) : Token :=
  if token.has "identifier" && token.spellsKeyword then
    (token.delete "identifier").add "keyword"
  else token

/-- Promotes every token that spells a keyword. -/
def promoteAll (tokens : List Token) : List Token := tokens.map promote

end Lexing.Token
