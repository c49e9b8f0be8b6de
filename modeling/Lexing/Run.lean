import Lexing.Round

/-!
# Runs

A run plays rounds until everything has been passed. It stops early where a claim is refused. It
also stops at a round that leaves the cursor where it was: a recognizer gives the same outcome for
the same text, so that round would repeat for ever.

## Main definitions

* `Ending`: why a run stops
* `Run`, `Run.tokens`, `Run.diagnostics`: the rounds of a run and what they yield
* `Cursor.run`: the run of a list of recognizers from a cursor
-/

namespace Lexing

/-- Why a run stops. -/
inductive Ending where
  /-- Everything has been passed. -/
  | complete
  /-- A claim was refused. -/
  | refused (error : ClaimError)
  /-- A round passed nothing and would repeat for ever. -/
  | endless
  deriving DecidableEq, Repr

/-- The rounds that were played to the end, why there are no more, and where the cursor stands. -/
structure Run where
  rounds : List Round
  ending : Ending
  stop : Cursor

namespace Run

/-- The tokens of a run, in order. -/
def tokens (run : Run) : List Token := run.rounds.filterMap (·.token)

/-- The diagnostics of a run, in order. -/
def diagnostics (run : Run) : List Diagnostic := run.rounds.flatMap (·.diagnostics)

end Run

namespace Cursor

/-- Plays rounds from a cursor, after the given ones, which are kept last first. -/
def runAfter (recognizers : List Recognizer) (played : List Round) (cursor : Cursor) : Run :=
  if cursor.atEnd then ⟨played.reverse, .complete, cursor⟩
  else match _ : cursor.round recognizers with
    | .error refused => ⟨played.reverse, .refused refused, cursor⟩
    | .ok round =>
      if _ : cursor.position.offset < round.next.position.offset then
        runAfter recognizers (round :: played) round.next
      else ⟨played.reverse, .endless, cursor⟩
termination_by cursor.ahead.length
decreasing_by exact length_ahead_lt_of_round ‹_› ‹_›

/-- The run of a list of recognizers from a cursor. -/
def run (recognizers : List Recognizer) (cursor : Cursor) : Run := runAfter recognizers [] cursor

end Cursor

end Lexing
