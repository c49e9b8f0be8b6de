import Lexing.Proofs.Cursor.Calls
import Lexing.Proofs.Cursor.Locate
import Lexing.Proofs.Position.Order

/-!
# Looking for an offset

With offsets alone, an offset ahead is located by trial. It is cut to what is left of the text, and
taken back byte by byte until it lies between two characters; then a copy of the marker is moved
there. The search must not run past the start of what is left, and the move must not be refused.

Offsets that are further on are located at later positions, though what is behind a cursor and what
is ahead of it are located in different ways.

## Main definitions

* `Marker.roundDown`: the search for a place between two characters
* `Marker.probe`: the move to the place that was found
* `Marker.locate`: where an offset lies

## Main results

* `Marker.roundDown_eq_ok_iff`: the search ends at the last place that has room
* `Cursor.Sound.locate_toMarker`: a marker locates every offset where its cursor does
* `Cursor.locate_mono`: offsets that are further on are located at later positions
* `Cursor.locate_afterCalls`: both after every sequence of calls
-/

namespace Lexing

open Text

variable {text front rest : Text} {room stop : Nat}

/-! ### The search -/

namespace Marker

/-- Goes back from an offset, byte by byte, to where the text can be cut. The offset is a word, so
there is no going back from its start. -/
def roundDown (text : Text) : Nat → Except Fault Nat
  | 0 => if (cut? 0 text).isSome then .ok 0 else .error .underflow
  | offset + 1 =>
    if (cut? (offset + 1) text).isSome then .ok (offset + 1) else roundDown text offset

/-- Moves on by an offset, as far as the text goes and down to the start of a character. -/
def probe (offset : Nat) : Movement Position := do
  let marker ← get
  let tail ← checked marker.tail
  let stop ← checked (roundDown tail.text (min offset tail.size))
  let front ← checked (range tail.text 0 stop)
  advance ⟨stop, hasBreak front.text, true⟩
  let moved ← get
  return moved.position

/-- Where an offset from the marker lies. The marker itself stays where it is. -/
def locate (marker : Marker) (offset : Int) : Except Fault Position :=
  if offset < 0 then
    .ok { marker.position with
      column := max 1 (marker.position.column - offset.natAbs)
      offset := marker.position.offset - offset.natAbs }
  else do
    let (answer, _) ← marker.perform (probe offset.toNat)
    match answer with
    | .ok position => return position
    | .error _ => return marker.position

/-- The search ends at the last place between two characters that has room. -/
theorem roundDown_eq_ok_iff :
    roundDown text room = .ok stop ↔ IsGreatest {n | IsBoundary text n ∧ n ≤ room} stop := by
  induction room with
  | zero =>
    have start : IsBoundary text 0 := ⟨[], text, rfl, rfl⟩
    rw [roundDown, if_pos (isSome_cut?_iff.2 start), Except.ok.injEq]
    exact (isGreatest_iff_of_isBoundary start).symm
  | succ room ih =>
    rw [roundDown]
    by_cases place : (cut? (room + 1) text).isSome = true
    · rw [if_pos place, Except.ok.injEq]
      exact (isGreatest_iff_of_isBoundary (isSome_cut?_iff.1 place)).symm
    · -- An offset inside a character is no candidate, so there are as many with one byte less.
      have candidates : {n | IsBoundary text n ∧ n ≤ room + 1} =
          {n | IsBoundary text n ∧ n ≤ room} := by
        ext n
        refine and_congr_right fun boundary => ?_
        have other : n ≠ room + 1 := by
          rintro rfl
          exact place (isSome_cut?_iff.2 boundary)
        omega
      rw [if_neg place, candidates]
      exact ih

/-- The search for an offset in a text ends where the piece does that fits. -/
theorem roundDown_min (text : Text) (offset : Nat) :
    roundDown text (min offset (size text)) = .ok (size (fit offset text).1) := by
  have greatest := isGreatest_size_fit offset text
  have candidates : {n | IsBoundary text n ∧ n ≤ offset} =
      {n | IsBoundary text n ∧ n ≤ min offset (size text)} := by
    ext n
    refine and_congr_right fun boundary => ?_
    have inside := boundary.le_size
    omega
  rw [candidates] at greatest
  exact roundDown_eq_ok_iff.2 greatest

end Marker

/-! ### The move -/

namespace Cursor

/-- The piece of what lies ahead that the search finds is the one that a cursor locates offsets
with. -/
theorem exists_front (cursor : Cursor) (offset : Nat) :
    ∃ front rest, cursor.ahead = front ++ rest ∧
      Marker.roundDown cursor.ahead (min offset (size cursor.ahead)) = .ok (size front) ∧
      cursor.locate offset = cursor.position.past cursor.tabRule (hasBreak front) true front := by
  have place := locate_of_nonneg (Int.natCast_nonneg offset) cursor
  rw [Int.toNat_natCast] at place
  exact ⟨_, _, (fit_append offset cursor.ahead).symm, Marker.roundDown_min cursor.ahead offset,
    place⟩

variable {cursor : Cursor}

namespace Sound

/-- The move to an offset ahead is not refused, and leads to where the cursor locates it. -/
theorem exists_perform_probe (sound : Sound cursor) (offset : Nat) :
    ∃ stop, cursor.toMarker.perform (Marker.probe offset) =
      .ok (.ok (cursor.locate offset), stop) := by
  obtain ⟨front, rest, ahead, found, place⟩ := cursor.exists_front offset
  have shown : Marker.range cursor.ahead 0 (size front) = .ok ⟨[], front, rest⟩ := by
    have window := Marker.range_of_division [] front rest
    rw [List.nil_append, ← ahead, size_nil, Nat.zero_add] at window
    exact window
  have moved := @perform_advance_beyond cursor sound ⟨size front, hasBreak front, true⟩ front rest
    ahead rfl
  refine ⟨(cursor.beyond ⟨size front, hasBreak front, true⟩ front rest).toMarker, ?_⟩
  rw [Marker.probe, Marker.perform_bind Marker.perform_get,
    Marker.perform_bind (Marker.perform_checked sound.tail_toMarker), tail, Window.size,
    Marker.perform_bind (Marker.perform_checked found),
    Marker.perform_bind (Marker.perform_checked shown), place]
  exact Marker.perform_bind moved

/-- A marker locates every offset where its cursor does. -/
theorem locate_toMarker (sound : Sound cursor) (offset : Int) :
    cursor.toMarker.locate offset = .ok (cursor.locate offset) := by
  rw [Marker.locate]
  split
  · next backward =>
    rw [locate_of_neg backward]
    rfl
  · next forward =>
    obtain ⟨stop, moved⟩ := sound.exists_perform_probe offset.toNat
    rw [moved, Int.toNat_of_nonneg (Int.not_lt.1 forward)]
    rfl

end Sound

/-! ### The order -/

/-- Behind a cursor, columns and bytes are taken off until there are none, so less is left the more
are taken off. -/
theorem locate_mono_of_neg {near far : Int} (ordered : near ≤ far) (backward : far < 0)
    (cursor : Cursor) : cursor.locate near ≤ cursor.locate far := by
  rw [locate_of_neg (Int.lt_of_le_of_lt ordered backward), locate_of_neg backward]
  apply Position.le_of_fields
  · exact Nat.le_refl _
  · intro _
    change max 1 _ ≤ max 1 _
    omega
  · change _ - near.natAbs ≤ _ - far.natAbs
    omega

/-- No offset behind a cursor is located at a later position than the cursor's. -/
theorem locate_le_position (positive : 1 ≤ cursor.position.column) {offset : Int}
    (backward : offset < 0) : cursor.locate offset ≤ cursor.position := by
  rw [locate_of_neg backward]
  apply Position.le_of_fields
  · exact Nat.le_refl _
  · intro _
    exact Nat.max_le.2 ⟨positive, Nat.sub_le ..⟩
  · exact Nat.sub_le ..

/-- Ahead of a cursor, what fits into less room is the front of what fits into more. -/
theorem locate_mono_of_nonneg (positive : 1 ≤ cursor.position.column)
    (small : cursor.position.column ≤ Word.greatest) {near far : Int} (forward : 0 ≤ near)
    (ordered : near ≤ far) : cursor.locate near ≤ cursor.locate far := by
  have whole := fit_append near.toNat cursor.ahead
  have shorter : size (fit near.toNat cursor.ahead).1 ≤ size (fit far.toNat cursor.ahead).1 := by
    have fits := size_fit_le near.toNat cursor.ahead
    have longest := @size_le_size_fit far.toNat _ (fit near.toNat cursor.ahead).2
      (by omega : size (fit near.toNat cursor.ahead).1 ≤ far.toNat)
    rwa [whole] at longest
  obtain ⟨more, longer, -⟩ :=
    exists_append_of_size_le (whole.trans (fit_append far.toNat cursor.ahead).symm) shorter
  rw [locate_of_nonneg forward, locate_of_nonneg (Int.le_trans forward ordered), longer]
  exact Position.past_le_past_append positive small cursor.tabRule _ more

/-- Offsets that are further on are located at later positions. -/
theorem locate_mono (positive : 1 ≤ cursor.position.column)
    (small : cursor.position.column ≤ Word.greatest) {near far : Int} (ordered : near ≤ far) :
    cursor.locate near ≤ cursor.locate far := by
  by_cases backward : far < 0
  · exact locate_mono_of_neg ordered backward cursor
  · have ahead := locate_mono_of_nonneg positive small (Int.le_refl 0) (Int.not_lt.1 backward)
    rw [locate_zero] at ahead
    by_cases before : near < 0
    -- The cursor itself stands between what is behind and what is ahead.
    · exact Position.le_trans (locate_le_position positive before) ahead
    · exact locate_mono_of_nonneg positive small (Int.not_lt.1 before) ordered

/-! ### After calls -/

/-- No call leads past the greatest column. -/
theorem column_afterCall_le (small : cursor.position.column ≤ Word.greatest) (call : Call) :
    (cursor.afterCall call).position.column ≤ Word.greatest := by
  rcases cursor.answer_cases call with ⟨refused, ran⟩ | ⟨answer, claim, span, rest, ran, -, -⟩
  · rw [afterCall_of_error ran]
    exact small
  · rw [afterCall_of_ok ran, position_beyond]
    exact Position.column_past_le small ..

theorem column_afterCalls_le (small : cursor.position.column ≤ Word.greatest)
    (calls : List Call) : (cursor.afterCalls calls).position.column ≤ Word.greatest := by
  induction calls generalizing cursor with
  | nil => exact small
  | cons call calls ih => exact ih (column_afterCall_le small call)

/-- After any calls, whatever was claimed in them: the search for an offset and the move to it end
without a fault and without a refusal. They lead to the last place between two characters that has
room, as one move does that announces what it passes. No offset leads nowhere, and offsets that are
further on are located at later positions, before and behind the cursor. -/
theorem locate_afterCalls (file : String) (rule : TabRule) (text : Text)
    (fits : size text ≤ mostBytes) (calls : List Call) :
    let cursor := (ofText file rule text).afterCalls calls
    (Marker.ofText file rule text).afterCalls calls = .ok cursor.toMarker ∧
    (∀ offset : Int, cursor.toMarker.locate offset = .ok (cursor.locate offset)) ∧
    (∀ offset : Nat, ∃ front rest, cursor.ahead = front ++ rest ∧
      IsGreatest {n | IsBoundary cursor.ahead n ∧ n ≤ min offset (size cursor.ahead)}
        (size front) ∧
      Marker.roundDown cursor.ahead (min offset (size cursor.ahead)) = .ok (size front) ∧
      (∃ stop, cursor.toMarker.perform (Marker.probe offset) =
        .ok (.ok (cursor.locate offset), stop)) ∧
      (cursor.locate offset).offset = cursor.position.offset + size front ∧
      ∀ tabs, ('\t' ∈ front → tabs = true) →
        (cursor.advance ⟨size front, hasBreak front, tabs⟩).map (·.position) =
          .ok (cursor.locate offset)) ∧
    cursor.locate 0 = cursor.position ∧
    ∀ near far : Int, near ≤ far → cursor.locate near ≤ cursor.locate far := by
  intro cursor
  obtain ⟨sound, follows⟩ := (sound_ofText file rule fits).afterCalls calls
  have small : cursor.position.column ≤ Word.greatest :=
    column_afterCalls_le (by exact (by decide : 1 ≤ Word.greatest)) calls
  refine ⟨follows, sound.locate_toMarker, ?_, locate_zero cursor,
    fun _ _ => locate_mono sound.column_pos small⟩
  intro offset
  obtain ⟨front, rest, ahead, found, place⟩ := cursor.exists_front offset
  refine ⟨front, rest, ahead, Marker.roundDown_eq_ok_iff.1 found, found,
    sound.exists_perform_probe offset, ?_, ?_⟩
  · rw [place, Position.offset_past]
  · intro tabs announced
    rw [advance_beyond ahead rfl, place]
    exact congrArg Except.ok (Position.past_of_announced announced ..)

/-- Between the halves of a pair and behind it lie two offsets of one line and column. -/
theorem locate_around_half_pair :
    size ['é', '\r', '\n', '\t', 'x'] ≤ mostBytes ∧
      let cursor := (ofText "file" .one ['é', '\r', '\n', '\t', 'x']).afterCalls
        [.advance (.ofLength 1), .advance ⟨2, true, false⟩]
      cursor.toMarker.locate 1 = .ok ⟨2, 1, 3⟩ ∧ cursor.toMarker.locate 2 = .ok ⟨2, 1, 4⟩ ∧
        cursor.locate (-9) ≤ cursor.locate 1 ∧ cursor.locate 1 ≤ cursor.locate 2 := by
  have fits : size ['é', '\r', '\n', '\t', 'x'] ≤ mostBytes := by decide +kernel
  obtain ⟨-, located, -, -, ordered⟩ := locate_afterCalls "file" .one _ fits
    [.advance (.ofLength 1), .advance ⟨2, true, false⟩]
  refine ⟨fits, ?_, ?_, ordered _ _ (by decide), ordered _ _ (by decide)⟩
  · rw [located]
    decide +kernel
  · rw [located]
    decide +kernel

end Cursor

end Lexing
