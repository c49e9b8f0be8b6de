/-!
# Failed readings

Why an input could not be read, and how that is worded. A refusal of the system is worded with the
number that the system gives it.

## Main definitions

* `ReadError`: the causes
* `ReadError.message`: their wording
-/

namespace Lexing

/-- Why nothing could be read. -/
inductive ReadError where
  /-- A refusal of the system, with its wording and number. -/
  | system (wording : String) (code : Nat)
  /-- Anything else, in its own words. -/
  | other (message : String)
  deriving DecidableEq, Repr

namespace ReadError

/-- What was read is not UTF-8. -/
def notText : ReadError := other "stream did not contain valid UTF-8"

/-- The wording of a failed reading. -/
def message : ReadError → String
  | system wording code => wording ++ " (os error " ++ toString code ++ ")"
  | other message => message

end ReadError

end Lexing
