/-!
# Outcomes of a recognizer

A recognizer looks at the front of a text and either succeeds or fails. Either way it makes a claim:
how many bytes it speaks for, and whether they may hold line breaks or tabs. The two flags are taken
at their word by whoever moves over the claim.

A success may ask for a token with certain tags, or for none at all. A failure may list problems,
each with an offset from the start of the attempt.

## Main definitions

* `Claim`: the bytes spoken for, and the flags
* `Success`, `Success.found`, `Success.tagged`, `Success.skip`
* `Problem`, `Failure`, `Failure.single`, `Failure.none`
* `Outcome`: a success or a failure
-/

namespace Lexing

/-- What an attempt speaks for. -/
structure Claim where
  /-- The number of bytes claimed. -/
  length : Nat
  /-- The claimed bytes may hold line breaks. -/
  multiline : Bool := false
  /-- The claimed bytes may hold tabs. -/
  tabs : Bool := false
  deriving DecidableEq, Repr, Inhabited

namespace Claim

/-- A claim whose flags are down. -/
def ofLength (length : Nat) : Claim := { length }

/-- Sets or clears the flag for line breaks. -/
def withMultiline (claim : Claim) (multiline : Bool) : Claim := { claim with multiline }

/-- Sets or clears the flag for tabs. -/
def withTabs (claim : Claim) (tabs : Bool) : Claim := { claim with tabs }

end Claim

/-- A successful attempt. -/
structure Success where
  claim : Claim
  /-- The tags of the token that the success asks for. With none the text is passed over in silence,
  with an empty list a token without tags is made. -/
  tags : Option (List String)
  deriving DecidableEq, Repr

namespace Success

/-- A success with its flags down. -/
def found (length : Nat) (tags : Option (List String)) : Success := ⟨.ofLength length, tags⟩

/-- A success that asks for a token. -/
def tagged (length : Nat) (tags : List String) : Success := found length (some tags)

/-- A success that passes over the text in silence. -/
def skip (length : Nat) : Success := found length none

/-- Sets or clears the flag for line breaks. -/
def withMultiline (success : Success) (multiline : Bool) : Success :=
  { success with claim := success.claim.withMultiline multiline }

/-- Sets or clears the flag for tabs. -/
def withTabs (success : Success) (tabs : Bool) : Success :=
  { success with claim := success.claim.withTabs tabs }

/-- Whether the success asks for a token. -/
def makesToken (success : Success) : Bool := success.tags.isSome

end Success

/-- Something wrong inside a failed attempt. -/
structure Problem where
  /-- The offset from the start of the attempt. It may lie before the start or past the claim. -/
  offset : Int
  /-- How much to mark, zero for nothing. -/
  highlight : Nat
  message : String
  deriving DecidableEq, Repr

/-- The written form of a problem. -/
def Problem.display (problem : Problem) : String :=
  problem.message ++ " (at offset " ++ toString problem.offset ++ ")"

/-- A failed attempt. -/
structure Failure where
  claim : Claim
  problems : List Problem
  deriving DecidableEq, Repr

namespace Failure

/-- The failure that claims nothing and reports nothing: the text was none of its business. -/
def none : Failure := ⟨.ofLength 0, []⟩

/-- A failure with one problem and nothing marked. -/
def single (length : Nat) (offset : Int) (message : String) : Failure :=
  ⟨.ofLength length, [⟨offset, 0, message⟩]⟩

/-- Whether the failure has nothing to say. -/
def isNone (failure : Failure) : Bool := failure == none

/-- Sets or clears the flag for line breaks. -/
def withMultiline (failure : Failure) (multiline : Bool) : Failure :=
  { failure with claim := failure.claim.withMultiline multiline }

/-- Sets or clears the flag for tabs. -/
def withTabs (failure : Failure) (tabs : Bool) : Failure :=
  { failure with claim := failure.claim.withTabs tabs }

/-- Marks the same amount at every problem. -/
def withHighlight (failure : Failure) (highlight : Nat) : Failure :=
  { failure with problems := failure.problems.map fun problem => { problem with highlight } }

/-- Reports one more problem after the others. -/
def withProblem (failure : Failure) (problem : Problem) : Failure :=
  { failure with problems := failure.problems ++ [problem] }

@[simp] theorem isNone_iff {failure : Failure} : failure.isNone = true ↔ failure = none := by
  simp [isNone]

end Failure

/-- What came of an attempt. -/
inductive Outcome where
  | success (success : Success)
  | failure (failure : Failure)
  deriving DecidableEq, Repr

namespace Outcome

/-- The outcome of a recognizer that has no business with the text. -/
def none : Outcome := .failure .none

/-- Whether the attempt succeeded. -/
def isSuccess : Outcome → Bool
  | success _ => true
  | failure _ => false

/-- The claim, which both outcomes make. -/
def claim : Outcome → Claim
  | success found => found.claim
  | failure failed => failed.claim

end Outcome

end Lexing
