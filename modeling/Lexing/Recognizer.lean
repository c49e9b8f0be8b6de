import Lexing.Outcome
import Lexing.Text.Quoted

/-!
# Recognizers

A recognizer is a named function from texts to outcomes: it looks for one kind of lexeme at the
front of a text. The same text always gets the same outcome.

## Main definitions

* `Recognizer`, `Recognizer.display`
* `Recognizer.ofRules`: a recognizer that goes through a list of openings
-/

namespace Lexing

/-- A named attempt at the front of a text. -/
structure Recognizer where
  name : String
  run : Text → Outcome

namespace Recognizer

/-- The written form of a recognizer shows its name only. -/
def display (recognizer : Recognizer) : String :=
  "FnMatcher \x7b id: " ++ Text.quote recognizer.name.toList ++ " \x7d"

/-- A text that opens in a certain way has a fixed outcome. -/
structure Rule where
  opening : Text
  outcome : Outcome

/-- The first rule whose opening stands at the front of the text decides. -/
def ofRules (name : String) (rules : List Rule) : Recognizer where
  name := name
  run text :=
    match rules.find? (·.opening.isPrefixOf text) with
    | some rule => rule.outcome
    | none => .none

end Recognizer

end Lexing
