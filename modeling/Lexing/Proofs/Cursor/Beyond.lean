import Lexing.Cursor

/-!
# The cursor behind a span

A move that succeeds takes a span from the front of what lies ahead. Here the cursor it leads to has
a name of its own, so that a move can be followed without looking at how it was checked.

## Main definitions

* `Cursor.beyond`: the cursor behind a span

## Main results

* `Cursor.advance_beyond`: a claim that fits a span leads behind it
* `Cursor.exists_beyond_of_advance`: no move leads anywhere else
-/

namespace Lexing.Cursor

/-- The cursor behind a span, where `rest` lies ahead of it. -/
def beyond (cursor : Cursor) (claim : Claim) (span rest : Text) : Cursor :=
  { cursor with
    behind := span.reverse ++ cursor.behind
    ahead := rest
    position := cursor.position.past cursor.tabRule claim.multiline claim.tabs span }

section Fields

variable (cursor : Cursor) (claim : Claim) (span rest : Text)

@[simp] theorem file_beyond : (cursor.beyond claim span rest).file = cursor.file := rfl

@[simp] theorem tabRule_beyond : (cursor.beyond claim span rest).tabRule = cursor.tabRule := rfl

@[simp] theorem ahead_beyond : (cursor.beyond claim span rest).ahead = rest := rfl

@[simp] theorem behind_beyond :
    (cursor.beyond claim span rest).behind = span.reverse ++ cursor.behind := rfl

@[simp] theorem position_beyond : (cursor.beyond claim span rest).position =
    cursor.position.past cursor.tabRule claim.multiline claim.tabs span := rfl

/-- What a cursor has passed grows by the span. -/
theorem passed_beyond :
    (cursor.beyond claim span rest).behind.reverse = cursor.behind.reverse ++ span := by simp

end Fields

/-- The text as a whole stays the same behind a span. -/
theorem input_beyond {cursor : Cursor} {span rest : Text} (ahead : cursor.ahead = span ++ rest)
    (claim : Claim) : (cursor.beyond claim span rest).input = cursor.input := by
  rw [input, passed_beyond, ahead_beyond, List.append_assoc, ← ahead, input]

/-- A claim that fits a span leads behind it. -/
theorem advance_beyond {cursor : Cursor} {claim : Claim} {span rest : Text}
    (ahead : cursor.ahead = span ++ rest) (size : Text.size span = claim.length) :
    cursor.advance claim = .ok (cursor.beyond claim span rest) :=
  advance_eq_ok_iff.2 ⟨span, rest, ahead, size, rfl⟩

/-- A move that succeeds leads behind the span that the claim fits. -/
theorem exists_beyond_of_advance {cursor moved : Cursor} {claim : Claim}
    (ran : cursor.advance claim = .ok moved) :
    ∃ span rest, cursor.ahead = span ++ rest ∧ Text.size span = claim.length ∧
      moved = cursor.beyond claim span rest :=
  advance_eq_ok_iff.1 ran

/-- Moving for a token leads behind the same span, and the token shows it. -/
theorem accept_beyond {cursor : Cursor} {success : Success} {span rest : Text}
    (ahead : cursor.ahead = span ++ rest) (size : Text.size span = success.claim.length) :
    cursor.accept success = .ok
      (Token.ofSuccess? cursor.origin ⟨cursor.behind, span, rest⟩ success,
        cursor.beyond success.claim span rest) := by
  have covered := span_eq_ok_iff.2 ⟨ahead, size⟩
  have moved := advance_beyond ahead size
  simp only [accept, peek, covered, moved, bind, Except.bind, pure, Except.pure]

end Lexing.Cursor
