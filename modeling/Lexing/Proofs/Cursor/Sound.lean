import Lexing.Proofs.Cursor.Marker
import Lexing.Proofs.Cursor.Beyond

/-!
# A cursor and its marker

The marker of a cursor forgets how the text is divided and keeps the position. As long as the offset
is that of the division, and the text is short enough for a word to count twice its bytes, whatever
is done with the marker is done without a fault, and ends where the same ends with the cursor.

## Main definitions

* `Cursor.toMarker`: the marker of a cursor
* `Cursor.Sound`: the position fits the division of the text

## Main results

* `Cursor.Sound.perform_advance`, `Cursor.Sound.perform_peek`, `Cursor.Sound.perform_accept`: the
  marker follows the cursor
* `Cursor.Sound.beyond`: a cursor stays sound behind every span
-/

namespace Lexing

/-- The most bytes that a text can have. -/
def Text.mostBytes : Nat := 0x7FFF_FFFF_FFFF_FFFF

namespace Cursor

/-- The marker in the place of a cursor. -/
def toMarker (cursor : Cursor) : Marker :=
  ⟨cursor.file, cursor.tabRule, cursor.input, cursor.position⟩

/-- The position fits the division of the text: the offset is that of the cut, and there are no more
lines than bytes passed. -/
structure Sound (cursor : Cursor) : Prop where
  offset : cursor.position.offset = Text.size cursor.behind
  line_pos : 1 ≤ cursor.position.line
  line_le : cursor.position.line ≤ 1 + cursor.position.offset
  column_pos : 1 ≤ cursor.position.column
  fits : Text.size cursor.input ≤ Text.mostBytes

/-- What is claimed past the end of the text is refused for its length. -/
theorem span_of_size_lt {cursor : Cursor} {length : Nat} (long : Text.size cursor.ahead < length) :
    cursor.span length = .error (.tooLong length (Text.size cursor.ahead)) := by
  have none : Text.cut? length cursor.ahead = none := by
    cases cut : Text.cut? length cursor.ahead with
    | none => rfl
    | some pieces =>
      obtain ⟨whole, size⟩ := Text.cut?_eq_some_iff.1 cut
      rw [whole, Text.size_append] at long
      omega
  simp only [span, none, long, if_true]

/-- What is claimed up to the inside of a character is refused for its end. -/
theorem span_of_cut?_eq_none {cursor : Cursor} {length : Nat}
    (left : length ≤ Text.size cursor.ahead) (none : Text.cut? length cursor.ahead = none) :
    cursor.span length = .error (.insideCharacter (cursor.position.offset + length)) := by
  have short : ¬ Text.size cursor.ahead < length := by omega
  simp only [span, none, short, if_false]

namespace Sound

variable {cursor : Cursor}

theorem size_passed (sound : Sound cursor) :
    Text.size cursor.behind.reverse = cursor.position.offset := by
  rw [Text.size_reverse, sound.offset]

theorem size_input (sound : Sound cursor) :
    Text.size cursor.input = cursor.position.offset + Text.size cursor.ahead := by
  rw [input, Text.size_append, sound.size_passed]

/-- Twice the bytes up to any place in the text fit into a word. -/
theorem twice_le (sound : Sound cursor) {length : Nat} (left : length ≤ Text.size cursor.ahead) :
    2 * (cursor.position.offset + length) ≤ Word.greatest := by
  have total := sound.size_input
  have fits := sound.fits
  unfold Text.mostBytes at fits
  unfold Word.greatest
  omega

/-- The end of a range of bytes ahead is a word. -/
theorem add_offset (sound : Sound cursor) {length : Nat} (left : length ≤ Text.size cursor.ahead) :
    Marker.add cursor.toMarker.position.offset length =
      .ok (cursor.position.offset + length) := by
  have twice := sound.twice_le left
  apply Marker.add_of_le
  change cursor.position.offset + length ≤ Word.greatest
  omega

/-- A range of bytes ahead is a window exactly if it ends with a character. -/
theorem ofRange_eq (sound : Sound cursor) {length : Nat} (left : length ≤ Text.size cursor.ahead) :
    Window.ofRange cursor.input cursor.position.offset (cursor.position.offset + length) =
      match Text.cut? length cursor.ahead with
      | some (text, rest) => .ok ⟨cursor.behind, text, rest⟩
      | none => .error .insideCharacter := by
  have cut := @Marker.ofRange_of_cut cursor.behind.reverse _ _ left
  rw [sound.size_passed, List.reverse_reverse] at cut
  exact cut

/-- The marker finds the same span ahead, or refuses the same claim. -/
theorem perform_head (sound : Sound cursor) (length : Nat) :
    cursor.toMarker.perform (Marker.head length) =
      .ok ((cursor.span length).map Prod.fst, cursor.toMarker) := by
  have total := sound.size_input
  have ordered : cursor.position.offset ≤ Text.size cursor.input := by omega
  have remaining : Marker.subtract (Text.size cursor.toMarker.text)
      cursor.toMarker.position.offset = .ok (Text.size cursor.ahead) := by
    rw [toMarker, Marker.subtract_of_le ordered, total, Nat.add_sub_cancel_left]
  rw [Marker.head, Marker.perform_bind Marker.perform_get,
    Marker.perform_bind (Marker.perform_checked remaining)]
  by_cases long : Text.size cursor.ahead < length
  · rw [if_pos long, span_of_size_lt long]
    rfl
  · have left := Nat.not_lt.1 long
    rw [if_neg long, Marker.perform_bind (Marker.perform_checked (sound.add_offset left))]
    -- What follows is the same window, where the marker's text is the cursor's.
    have found := sound.ofRange_eq left
    change Window.ofRange cursor.toMarker.text cursor.toMarker.position.offset
      (cursor.position.offset + length) = _ at found
    rw [found]
    cases cut : Text.cut? length cursor.ahead with
    | none =>
      rw [span_of_cut?_eq_none left cut]
      rfl
    | some pieces =>
      rw [span, cut]
      rfl

/-- What a claim covers lies ahead. -/
theorem exists_of_span {length : Nat} {pieces : Text × Text}
    (covered : cursor.span length = .ok pieces) :
    cursor.ahead = pieces.1 ++ pieces.2 ∧ Text.size pieces.1 = length ∧
      length ≤ Text.size cursor.ahead := by
  obtain ⟨ahead, size⟩ := span_eq_ok_iff.1 covered
  refine ⟨ahead, size, ?_⟩
  rw [ahead, Text.size_append, size]
  exact Nat.le_add_right ..

/-- The marker shows the same window, or refuses the same claim. -/
theorem perform_peek (sound : Sound cursor) (length : Nat) :
    cursor.toMarker.perform (Marker.peek length) = .ok (cursor.peek length, cursor.toMarker) := by
  have looked := sound.perform_head length
  rw [Marker.peek, Marker.perform_bind Marker.perform_get, peek]
  cases covered : cursor.span length with
  | error refused =>
    rw [covered] at looked
    rw [Marker.perform_bind_of_error looked]
    rfl
  | ok pieces =>
    rw [covered] at looked
    obtain ⟨ahead, size, left⟩ := exists_of_span covered
    have cut : Text.cut? length cursor.ahead = some pieces := Text.cut?_eq_some_iff.2 ⟨ahead, size⟩
    have window : Marker.range cursor.toMarker.text cursor.toMarker.position.offset
        (cursor.position.offset + length) = .ok ⟨cursor.behind, pieces.1, pieces.2⟩ := by
      change Marker.range cursor.input cursor.position.offset _ = _
      rw [Marker.range, sound.ofRange_eq left, cut]
      rfl
    rw [Marker.perform_bind looked,
      Marker.perform_bind (Marker.perform_checked (sound.add_offset left)),
      Marker.perform_checked window]
    rfl

/-- All that lies ahead is a window. -/
theorem tail_toMarker (sound : Sound cursor) : cursor.toMarker.tail = .ok cursor.tail := by
  have whole : cursor.tail.whole = cursor.input := List.append_nil _
  have stop : cursor.tail.stop = Text.size cursor.input := by
    rw [sound.size_input, sound.offset]
    rfl
  have made : Window.ofRange cursor.input cursor.position.offset (Text.size cursor.input) =
      .ok cursor.tail := Window.ofRange_eq_ok_iff.2 ⟨whole, sound.offset.symm, stop⟩
  change Marker.range cursor.input cursor.position.offset (Text.size cursor.input) = _
  rw [Marker.range, made]
  rfl

/-- The whole text stays the same behind a span. -/
theorem toMarker_beyond {claim : Claim} {span rest : Text} (ahead : cursor.ahead = span ++ rest) :
    (cursor.beyond claim span rest).toMarker = { cursor.toMarker with
      position := cursor.position.past cursor.tabRule claim.multiline claim.tabs span } := by
  rw [toMarker, input_beyond ahead]
  rfl

/-- The marker moves past the same span. -/
theorem perform_advance_beyond (sound : Sound cursor) {claim : Claim} {span rest : Text}
    (ahead : cursor.ahead = span ++ rest) (size : Text.size span = claim.length) :
    cursor.toMarker.perform (Marker.advance claim) =
      .ok (.ok (), (cursor.beyond claim span rest).toMarker) := by
  have looked := sound.perform_head claim.length
  rw [span_eq_ok_iff.2 ⟨ahead, size⟩] at looked
  rw [Marker.advance, Marker.perform_bind looked, toMarker_beyond ahead]
  by_cases empty : span = []
  · rw [if_pos empty, empty]
    rfl
  · have left : claim.length ≤ Text.size cursor.ahead := by
      rw [ahead, Text.size_append, size]
      exact Nat.le_add_right ..
    have twice := sound.twice_le left
    -- There are no more lines than bytes, before the span and in it.
    have lines : cursor.position.line + Text.breaks span ≤ Word.greatest := by
      have passed := sound.line_le
      have few := Text.breaks_le_size span
      have positive : 0 < Text.size span := by
        rw [Nat.pos_iff_ne_zero, Ne, Text.size_eq_zero_iff]
        exact empty
      omega
    rw [if_neg empty, Marker.perform_bind (Marker.perform_turn empty (by omega) lines),
      Marker.perform_bind Marker.perform_get,
      Marker.perform_bind (Marker.perform_checked (sound.add_offset left)), Marker.perform_move,
      ← size, ← Position.offset_past]
    rfl

/-- The marker moves past the same span, or refuses the same claim and stays. -/
theorem perform_advance (sound : Sound cursor) (claim : Claim) :
    cursor.toMarker.perform (Marker.advance claim) = .ok (match cursor.advance claim with
      | .ok moved => (.ok (), moved.toMarker)
      | .error refused => (.error refused, cursor.toMarker)) := by
  cases covered : cursor.span claim.length with
  | error refused =>
    have looked := sound.perform_head claim.length
    rw [covered] at looked
    rw [Marker.advance, Marker.perform_bind_of_error looked, advance, covered]
    rfl
  | ok pieces =>
    obtain ⟨ahead, size, -⟩ := exists_of_span covered
    rw [sound.perform_advance_beyond ahead size, advance_beyond ahead size]

/-- The marker makes the same token, or refuses the same success and stays. -/
theorem perform_accept (sound : Sound cursor) (success : Success) :
    cursor.toMarker.perform (Marker.accept success) = .ok (match cursor.accept success with
      | .ok (token, moved) => (.ok token, moved.toMarker)
      | .error refused => (.error refused, cursor.toMarker)) := by
  have looked := sound.perform_peek success.claim.length
  rw [Marker.accept, Marker.perform_bind Marker.perform_get]
  cases covered : cursor.span success.claim.length with
  | error refused =>
    have unseen : cursor.peek success.claim.length = .error refused := by
      rw [peek, covered]
      rfl
    rw [unseen] at looked
    rw [Marker.perform_bind_of_error looked, accept, unseen]
    rfl
  | ok pieces =>
    obtain ⟨ahead, size, -⟩ := exists_of_span covered
    have seen : cursor.peek success.claim.length = .ok ⟨cursor.behind, pieces.1, pieces.2⟩ := by
      rw [peek, covered]
      rfl
    rw [seen] at looked
    rw [Marker.perform_bind looked, Marker.perform_bind (sound.perform_advance_beyond ahead size),
      accept_beyond ahead size]
    rfl

/-- A cursor stays sound behind a span, whatever is announced of the span. -/
theorem beyond (sound : Sound cursor) {claim : Claim} {span rest : Text}
    (ahead : cursor.ahead = span ++ rest) : Sound (cursor.beyond claim span rest) where
  offset := by
    rw [position_beyond, Position.offset_past, behind_beyond, Text.size_append, Text.size_reverse,
      sound.offset]
    omega
  line_pos := by
    have before := sound.line_pos
    rw [position_beyond, Position.line_past]
    omega
  line_le := by
    have before := sound.line_le
    have few := Text.breaks_le_size span
    rw [position_beyond, Position.line_past, Position.offset_past]
    -- Breaks are counted or not, and a span has no more of them than bytes.
    split <;> omega
  column_pos := Position.column_past_pos sound.column_pos ..
  fits := by
    -- Only what lies on which side of the cursor changes, not the text.
    rw [input_beyond ahead]
    exact sound.fits

end Sound

end Cursor

end Lexing
