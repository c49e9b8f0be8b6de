import Lexing.Outcome
import Lexing.Position
import Lexing.TagSet
import Lexing.Text.Quoted
import Lexing.Window

/-!
# Tokens

A token is a piece of text, where it starts, and a set of tags. Its place and text are fixed when it
is made; later passes may change its tags.

## Main definitions

* `Token`, `Token.ofTags`, `Token.ofSuccess?`: tokens and how they are made
* `Token.has`, `Token.add`, `Token.delete`, `Token.clear`: its tags
* `Token.display`: its written form
-/

namespace Lexing

/-- A tagged piece of text. -/
structure Token where
  origin : Origin
  content : Window
  tags : TagSet

namespace Token

/-- The token with the given tags, where repeated tags count once. -/
def ofTags (origin : Origin) (content : Window) (tags : List String) : Token :=
  ⟨origin, content, .ofList tags⟩

/-- The token that a success asks for, if it asks for one. -/
def ofSuccess? (origin : Origin) (content : Window) (success : Success) : Option Token :=
  success.tags.map (ofTags origin content)

/-- Tokens are equal when they start in the same place, show the same text and have the same
tags. -/
instance : BEq Token :=
  ⟨fun a b => a.origin == b.origin && a.content == b.content && a.tags == b.tags⟩

theorem beq_iff {a b : Token} :
    (a == b) = true ↔ a.origin = b.origin ∧ a.content.text = b.content.text ∧ a.tags = b.tags := by
  change (a.origin == b.origin && a.content == b.content && a.tags == b.tags) = true ↔ _
  simp [Window.beq_iff, and_assoc]

/-- Whether the token has a tag. -/
def has (token : Token) (tag : String) : Bool := token.tags.contains tag

/-- Adds a tag, unless the token has it already. -/
def add (token : Token) (tag : String) : Token := { token with tags := token.tags.insert tag }

/-- Takes a tag away, if the token has it. -/
def delete (token : Token) (tag : String) : Token := { token with tags := token.tags.erase tag }

/-- Takes all tags away. -/
def clear (token : Token) : Token := { token with tags := .empty }

/-- The written form of a token: where it starts, its text in quotes, its tags in order. -/
def display (token : Token) : String :=
  token.origin.display ++ " " ++ Text.quote token.content.text ++ " " ++ token.tags.display

end Token

end Lexing
