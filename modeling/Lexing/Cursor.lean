import Lexing.Movement
import Lexing.Token

/-!
# Cursors

A cursor stands between what it has passed and what lies ahead in one text, and knows its position.
It only moves forward, claim by claim. A claim that goes past the end or ends inside a character is
refused, and the cursor stays where it is.

What has been passed is kept in reverse, nearest character first.

## Main definitions

* `Cursor`, `Cursor.ofText`: a place in a text
* `ClaimError`: why a claim is refused
* `Cursor.span`: the text that a claim covers
* `Cursor.peek`, `Cursor.advance`, `Cursor.accept`: look, move, and move for a token
-/

namespace Lexing

/-- A place in the text of a file. -/
structure Cursor where
  file : String
  tabRule : TabRule
  /-- What has been passed, in reverse. -/
  behind : Text
  /-- What lies ahead. -/
  ahead : Text
  position : Position

/-- Why a claim is refused. -/
inductive ClaimError where
  /-- More bytes are claimed than are left. -/
  | tooLong (length remaining : Nat)
  /-- The claim would end inside a character, at the given offset of the whole text. -/
  | insideCharacter (offset : Nat)
  deriving DecidableEq, Repr

/-- The wording of a refused claim. -/
def ClaimError.message : ClaimError → String
  | tooLong length remaining => "match length " ++ toString length ++ " exceeds the " ++
      toString remaining ++ " bytes of input left"
  | insideCharacter offset =>
      "match would end inside a character at offset " ++ toString offset

namespace Cursor

/-- The cursor before the first character of a text. -/
def ofText (file : String) (tabRule : TabRule) (text : Text) : Cursor :=
  ⟨file, tabRule, [], text, .start⟩

/-- The whole text, passed or not. -/
def input (cursor : Cursor) : Text := cursor.behind.reverse ++ cursor.ahead

/-- Whether everything has been passed. -/
def atEnd (cursor : Cursor) : Bool := cursor.ahead.isEmpty

/-- Where the cursor stands in its file. -/
def origin (cursor : Cursor) : Origin := ⟨cursor.file, cursor.position⟩

/-- The window on all that lies ahead. -/
def tail (cursor : Cursor) : Window := ⟨cursor.behind, cursor.ahead, []⟩

/-- The next `length` bytes and what follows them, if that many are left and they end with a
character. -/
def span (cursor : Cursor) (length : Nat) : Except ClaimError (Text × Text) :=
  match Text.cut? length cursor.ahead with
  | some pieces => .ok pieces
  | none =>
    if Text.size cursor.ahead < length then .error (.tooLong length (Text.size cursor.ahead))
    else .error (.insideCharacter (cursor.position.offset + length))

/-- The window on the next `length` bytes. -/
def peek (cursor : Cursor) (length : Nat) : Except ClaimError Window := do
  let (text, rest) ← cursor.span length
  return ⟨cursor.behind, text, rest⟩

/-- Moves past what a claim covers, taking its flags at their word. -/
def advance (cursor : Cursor) (claim : Claim) : Except ClaimError Cursor := do
  let (text, rest) ← cursor.span claim.length
  return { cursor with
    behind := text.reverse ++ cursor.behind
    ahead := rest
    position := cursor.position.past cursor.tabRule claim.multiline claim.tabs text }

/-- Moves past a success, and makes the token it asks for. The token starts where the cursor stood
before. -/
def accept (cursor : Cursor) (success : Success) : Except ClaimError (Option Token × Cursor) := do
  let content ← cursor.peek success.claim.length
  let moved ← cursor.advance success.claim
  return (Token.ofSuccess? cursor.origin content success, moved)

/-- A claim covers a division of what lies ahead. -/
theorem span_eq_ok_iff {cursor : Cursor} {length : Nat} {text rest : Text} :
    cursor.span length = .ok (text, rest) ↔
      cursor.ahead = text ++ rest ∧ Text.size text = length := by
  rw [← Text.cut?_eq_some_iff, span]
  split
  · next cut => simp [cut]
  · next cut => split <;> simp [cut]

/-- A successful move passes what the claim covers and nothing else. -/
theorem advance_eq_ok_iff {cursor moved : Cursor} {claim : Claim} :
    cursor.advance claim = .ok moved ↔ ∃ text rest, cursor.ahead = text ++ rest ∧
      Text.size text = claim.length ∧ moved = { cursor with
        behind := text.reverse ++ cursor.behind
        ahead := rest
        position := cursor.position.past cursor.tabRule claim.multiline claim.tabs text } := by
  unfold advance
  constructor
  · intro ran
    cases covered : cursor.span claim.length with
    | error refused => simp [covered, bind, Except.bind] at ran
    | ok pieces =>
      obtain ⟨text, rest⟩ := pieces
      obtain ⟨ahead, size⟩ := span_eq_ok_iff.1 covered
      simp only [covered, bind, Except.bind, pure, Except.pure, Except.ok.injEq] at ran
      exact ⟨text, rest, ahead, size, ran.symm⟩
  · rintro ⟨text, rest, ahead, size, rfl⟩
    simp [span_eq_ok_iff.2 ⟨ahead, size⟩, bind, Except.bind, pure, Except.pure]

/-- Moving for a token moves as the claim of the success does. -/
theorem advance_of_accept {cursor moved : Cursor} {success : Success} {token : Option Token}
    (ran : cursor.accept success = .ok (token, moved)) :
    cursor.advance success.claim = .ok moved := by
  unfold accept peek advance at ran
  unfold advance
  cases covered : cursor.span success.claim.length with
  | error refused => simp [covered, bind, Except.bind] at ran
  | ok pieces =>
    simp only [covered, bind, Except.bind, pure, Except.pure, Except.ok.injEq,
      Prod.mk.injEq] at ran ⊢
    exact ran.2

end Cursor

end Lexing
