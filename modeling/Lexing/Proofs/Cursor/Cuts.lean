import Lexing.Proofs.Cursor.Beyond
import Lexing.Proofs.Position.After

/-!
# Moving in pieces

A text can be passed in pieces of any size, as long as each piece announces what it holds. The
column does not depend on the pieces at all. The line does only where a cut falls between the halves
of a possible pair: each such cut may add a line, and none takes one away.

## Main definitions

* `Stretch`: a span whose claim announces what the span holds
* `Stretch.splits`: the cuts between the halves of a possible pair
* `Cursor.advanceAll`: moving claim by claim

## Main results

* `Cursor.advanceAll_stretches`: where a sequence of stretches leads
-/

namespace Lexing

/-- A span to be passed in one move. Its claim announces line breaks exactly where there are some,
and tabs at least where there are some. -/
structure Stretch where
  span : Text
  /-- Whether tabs are announced. -/
  tabs : Bool
  announced : '\t' ∈ span → tabs = true

namespace Stretch

/-- What is claimed of the span. -/
def claim (stretch : Stretch) : Claim where
  length := Text.size stretch.span
  multiline := Text.hasBreak stretch.span
  tabs := stretch.tabs

/-- The text that some stretches make up. -/
def text (stretches : List Stretch) : Text := stretches.flatMap (·.span)

/-- The number of cuts between the halves of a possible pair, where `passed` stands in front of the
first stretch. A stretch without characters makes no cut of its own. -/
def splits (passed : Text) : List Stretch → Nat
  | [] => 0
  | stretch :: stretches =>
    (if Text.Splits passed stretch.span then 1 else 0) + splits (passed ++ stretch.span) stretches

@[simp] theorem text_nil : text [] = [] := rfl

@[simp] theorem text_cons (stretch : Stretch) (stretches : List Stretch) :
    text (stretch :: stretches) = stretch.span ++ text stretches := rfl

end Stretch

namespace Cursor

/-- Moves claim by claim, up to the first that is refused. -/
def advanceAll (claims : List Claim) (cursor : Cursor) : Except ClaimError Cursor :=
  claims.foldlM advance cursor

/-- A cursor whose column is right, and whose line is right but for `extra` breaks that were counted
twice. -/
structure Counts (passed : Text) (extra : Nat) (cursor : Cursor) : Prop where
  behind : cursor.behind.reverse = passed
  column : cursor.position.column = Position.columnAfter cursor.tabRule passed
  offset : cursor.position.offset = Text.size passed
  line_ge : 1 + Text.breaks passed ≤ cursor.position.line
  line_le : cursor.position.line ≤ 1 + Text.breaks passed + extra

/-- One stretch may add a break if the cut in front of it splits a pair, and none otherwise. -/
theorem Counts.beyond {passed : Text} {extra : Nat} {cursor : Cursor}
    (counts : Counts passed extra cursor) (stretch : Stretch) (rest : Text) :
    Counts (passed ++ stretch.span)
      (extra + if Text.Splits passed stretch.span then 1 else 0)
      (cursor.beyond stretch.claim stretch.span rest) where
  behind := by rw [passed_beyond, counts.behind]
  column := Position.column_past_after stretch.announced counts.column
  offset := by
    rw [position_beyond, Position.offset_past, counts.offset, Text.size_append]
  line_ge := by
    -- Two pieces have at least as many breaks apart as together.
    have joined := Text.breaks_append_le passed stretch.span
    have before := counts.line_ge
    rw [position_beyond, Stretch.claim, Position.line_past_of_announced]
    omega
  line_le := by
    have before := counts.line_le
    rw [position_beyond, Stretch.claim, Position.line_past_of_announced]
    by_cases split : Text.Splits passed stretch.span
    -- A pair that is cut in two is counted twice, and nothing else is.
    · have joined := Text.le_breaks_append passed stretch.span
      rw [if_pos split]
      omega
    · rw [if_neg split, Text.breaks_append_of_not_splits split]
      omega

/-- Stretches lead on, and add at most as many breaks as their cuts split pairs. -/
theorem Counts.advanceAll {passed : Text} {extra : Nat} {cursor : Cursor}
    (counts : Counts passed extra cursor) {stretches : List Stretch} {rest : Text}
    (ahead : cursor.ahead = Stretch.text stretches ++ rest) :
    ∃ moved, Cursor.advanceAll (stretches.map Stretch.claim) cursor = .ok moved ∧
      moved.ahead = rest ∧ moved.tabRule = cursor.tabRule ∧
      Counts (passed ++ Stretch.text stretches) (extra + Stretch.splits passed stretches)
        moved := by
  -- The induction is on the stretches still to come; what is passed and what is counted twice grow.
  induction stretches generalizing passed extra cursor with
  | nil => exact ⟨cursor, rfl, ahead, rfl, by simpa [Stretch.splits] using counts⟩
  | cons stretch stretches ih =>
    rw [Stretch.text_cons, List.append_assoc] at ahead
    have step : cursor.advance stretch.claim = .ok _ := advance_beyond ahead rfl
    obtain ⟨moved, ran, left, rule, later⟩ :=
      ih (counts.beyond stretch (Stretch.text stretches ++ rest)) rfl
    refine ⟨moved, ?_, left, rule, ?_⟩
    · rw [List.map_cons, Cursor.advanceAll, List.foldlM_cons, step]
      exact ran
    · rw [Stretch.text_cons, Stretch.splits, ← List.append_assoc, ← Nat.add_assoc]
      exact later

/-- Whatever pieces a text is passed in, the column is that of the text as a whole. The line is that
of the text as a whole as well, but for the cuts that split a pair: each may count a break twice. -/
theorem advanceAll_stretches (file : String) (rule : TabRule) (stretches : List Stretch)
    (rest : Text) :
    let passed := Stretch.text stretches
    let splits := Stretch.splits [] stretches
    ∃ cursor, advanceAll (stretches.map Stretch.claim) (ofText file rule (passed ++ rest)) =
        .ok cursor ∧
      cursor.behind.reverse = passed ∧ cursor.ahead = rest ∧
      cursor.position.offset = Text.size passed ∧
      cursor.position.column =
        min Word.greatest (1 + rule.exactColumns (Text.lastLine passed)) ∧
      1 + Text.breaks passed ≤ cursor.position.line ∧
      cursor.position.line ≤ 1 + Text.breaks passed + splits ∧
      (splits = 0 → cursor.position.line = 1 + Text.breaks passed) := by
  intro passed splits
  have begin : Counts [] 0 (ofText file rule (passed ++ rest)) := by
    have start := Position.after_nil rule
    constructor
    · rfl
    · exact (congrArg Position.column start).symm
    · rfl
    · simp [ofText, Position.start]
    · simp [ofText, Position.start]
  obtain ⟨cursor, ran, ahead, same, counts⟩ := begin.advanceAll (rfl : _ = passed ++ rest)
  rw [List.nil_append, Nat.zero_add] at counts
  refine ⟨cursor, ran, counts.behind, ahead, counts.offset, ?_, counts.line_ge, counts.line_le, ?_⟩
  · rw [counts.column, same]
    rfl
  · intro none
    have above := counts.line_ge
    have below := counts.line_le
    change Stretch.splits [] stretches = 0 at none
    rw [none] at below
    exact Nat.le_antisymm below above

/-- A stretch that announces its tabs. -/
private def announcing (span : Text) : Stretch := ⟨span, true, fun _ => rfl⟩

/-! The same cut inside a pair adds a line where the pair stands alone, and none where the second
half finds a new partner. -/

example : (advanceAll ([['\r'], ['\n']].map (announcing · |>.claim))
    (ofText "f" .flat ['\r', '\n'])).map (·.position) = .ok ⟨3, 1, 2⟩ := rfl

example : (advanceAll ([['\r'], ['\n', '\r']].map (announcing · |>.claim))
    (ofText "f" .flat ['\r', '\n', '\r'])).map (·.position) = .ok ⟨3, 1, 3⟩ := rfl

end Cursor

end Lexing
