import Lexing.Window
import Lexing.Proofs.Text.Boundary

/-!
# Windows inside a window

A window is narrowed with offsets that count from its own start, again and again if need be. What
comes out is a window on the same text, so it has a place there as well, and the two ways to count
have to agree: a cut of the piece that is shown is a cut of the whole text, further along by what
stands before the piece.

## Main results

* `Window.ofRange_eq_ok_iff`: a window is its place in its text
* `Window.isSome_narrow?_iff`: the ranges that a window can be narrowed to
* `Window.narrow?_narrow?`: a window inside a window inside a window
* `Window.skip?_of_take?`: what is left of a window behind a first part
-/

namespace Lexing.Window

open Text

variable {window part front : Window} {text : Text} {start stop length : Nat}

/-! ### The place of a window -/

/-- The range that a window shows has a window, which is that window. -/
theorem ofRange_eq_ok_iff : ofRange text start stop = .ok window ↔
    window.whole = text ∧ window.start = start ∧ window.stop = stop := by
  constructor
  · intro made
    unfold ofRange at made
    split at made
    · contradiction
    split at made
    · contradiction
    split at made
    · contradiction
    next narrowed =>
    obtain rfl := Except.ok.inj made
    obtain ⟨skipped, left, shown, fits, total, before, after⟩ := narrow?_eq_some_iff.1 narrowed
    simp only [ofText, List.append_nil] at shown before after
    refine ⟨?_, ?_, ?_⟩
    · rw [whole, before, after, List.reverse_reverse, shown]
    · rw [Window.start, before, size_reverse, fits]
    · rw [Window.stop, Window.start, before, size_reverse, fits, Window.size, total]
  · rintro ⟨rfl, rfl, rfl⟩
    have sizes : Text.size window.whole = window.stop + Text.size window.after := by
      rw [whole, size_append, size_append, size_reverse]
      rfl
    have ordered : ¬ window.stop < window.start := Nat.not_lt.2 (Nat.le_add_right ..)
    have within : ¬ Text.size window.whole < window.stop := by omega
    have narrowed : (ofText window.whole).narrow? window.start window.stop = some window :=
      narrow?_eq_some_iff.2 ⟨window.before.reverse, window.after, rfl, size_reverse _, rfl,
        by simp [ofText], by simp [ofText]⟩
    rw [ofRange, if_neg ordered, if_neg within, narrowed]

/-- A window ends in the text that it is on. -/
theorem stop_le_size_whole (window : Window) : window.stop ≤ Text.size window.whole := by
  rw [whole, size_append, size_append, size_reverse]
  exact Nat.le_add_right ..

/-- A window is cut out between two characters. -/
theorem isBoundary_start (window : Window) : IsBoundary window.whole window.start :=
  ⟨window.before.reverse, window.text ++ window.after, by rw [whole, List.append_assoc],
    size_reverse _⟩

theorem isBoundary_stop (window : Window) : IsBoundary window.whole window.stop :=
  ⟨window.before.reverse ++ window.text, window.after, rfl, by
    rw [size_append, size_reverse]
    rfl⟩

/-! ### Narrowing once -/

/-- A window can be narrowed to the ranges of what it shows, and to no other ones. -/
theorem isSome_narrow?_iff : (window.narrow? start stop).isSome = true ↔
    start ≤ stop ∧ stop ≤ window.size ∧
      IsBoundary window.text start ∧ IsBoundary window.text stop := by
  rw [Option.isSome_iff_exists]
  constructor
  · rintro ⟨part, narrowed⟩
    obtain ⟨skipped, left, shown, fits, total, -⟩ := narrow?_eq_some_iff.1 narrowed
    have closes : IsBoundary window.text stop :=
      ⟨skipped ++ part.text, left, shown, by rw [size_append, fits, total]⟩
    refine ⟨by omega, closes.le_size, ⟨skipped, part.text ++ left, ?_, fits⟩, closes⟩
    rw [shown, List.append_assoc]
  · rintro ⟨ordered, -, ⟨skipped, rest, shown, rfl⟩, ⟨front, left, again, rfl⟩⟩
    -- The second cut lies behind the first one, so what is between them is a piece.
    obtain ⟨piece, rfl, rfl⟩ := exists_append_of_size_le (shown.symm.trans again) ordered
    exact ⟨⟨skipped.reverse ++ window.before, piece, left ++ window.after⟩,
      narrow?_eq_some_iff.2 ⟨skipped, left, again, rfl, (size_append ..).symm, rfl, rfl⟩⟩

/-- A part of a window is on the same text, further along by what has been skipped. -/
theorem place_of_narrow? (narrowed : window.narrow? start stop = some part) :
    part.whole = window.whole ∧ part.start = window.start + start ∧
      part.stop = window.start + stop := by
  obtain ⟨skipped, left, shown, rfl, rfl, before, after⟩ := narrow?_eq_some_iff.1 narrowed
  have along : part.start = window.start + Text.size skipped := by
    rw [Window.start, before, size_append, size_reverse, Nat.add_comm]
    rfl
  refine ⟨?_, along, ?_⟩
  · simp only [whole, shown, before, after, List.reverse_append, List.reverse_reverse,
      List.append_assoc]
  · rw [Window.stop, along, Nat.add_assoc]
    rfl

/-! ### Narrowing twice -/

/-- A part of a part is a part, counted from the start of the first part. The second range is
measured by the part, not by the window, which may show more behind it. -/
theorem narrow?_narrow? (narrowed : window.narrow? start stop = some part) (c d : Nat) :
    part.narrow? c d =
      if d ≤ stop - start then window.narrow? (start + c) (start + d) else none := by
  obtain ⟨skipped, left, shown, rfl, rfl, before, after⟩ := narrow?_eq_some_iff.1 narrowed
  rw [Nat.add_sub_cancel_left]
  by_cases inside : d ≤ Text.size part.text
  · rw [if_pos inside]
    ext inner
    rw [narrow?_eq_some_iff, narrow?_eq_some_iff]
    constructor
    · rintro ⟨more, less, piece, rfl, rfl, behind, ahead⟩
      refine ⟨skipped ++ more, less ++ left, ?_, size_append .., Nat.add_assoc .., ?_, ?_⟩
      · rw [shown, piece]
        simp only [List.append_assoc]
      · rw [behind, before, List.reverse_append, List.append_assoc]
      · rw [ahead, after, List.append_assoc]
    · rintro ⟨passed, rest, piece, far, total, behind, ahead⟩
      -- What is passed goes on from what the part skips, and the piece ends before the part does.
      rw [shown, List.append_assoc, List.append_assoc] at piece
      obtain ⟨more, rfl, shows⟩ := exists_append_of_size_le piece (by omega)
      rw [size_append] at far
      rw [← List.append_assoc] at shows
      obtain ⟨less, text, rfl⟩ := exists_append_of_size_le shows.symm (by
        rw [size_append]
        omega)
      refine ⟨more, less, text, by omega, by omega, ?_, ?_⟩
      · rw [behind, before, List.reverse_append, List.append_assoc]
      · rw [ahead, after, List.append_assoc]
  · rw [if_neg inside, ← Option.not_isSome_iff_eq_none, isSome_narrow?_iff]
    exact fun ⟨_, within, _⟩ => inside within

/-! ### The two parts of a cut -/

/-- The first part of a window starts where the window does. -/
theorem take?_eq_some_iff : window.take? length = some part ↔
    ∃ left, window.text = part.text ++ left ∧ Text.size part.text = length ∧
      part.before = window.before ∧ part.after = left ++ window.after := by
  rw [take?, narrow?_eq_some_iff]
  constructor
  · rintro ⟨skipped, left, text, none, size, before, after⟩
    obtain rfl := Text.size_eq_zero_iff.1 none
    exact ⟨left, text, by omega, before, after⟩
  · rintro ⟨left, text, size, before, after⟩
    exact ⟨[], left, text, rfl, by omega, before, after⟩

/-- The other part of a window ends where the window does. -/
theorem skip?_eq_some_iff : window.skip? length = some part ↔
    ∃ skipped, window.text = skipped ++ part.text ∧ Text.size skipped = length ∧
      part.before = skipped.reverse ++ window.before ∧ part.after = window.after := by
  rw [skip?, narrow?_eq_some_iff]
  constructor
  · rintro ⟨skipped, left, text, size, total, before, after⟩
    -- Nothing is left, since both parts have the size of the whole.
    have sizes : window.size = Text.size skipped + Text.size part.text + Text.size left := by
      rw [Window.size, text, Text.size_append, Text.size_append]
    obtain rfl := Text.size_eq_zero_iff.1 (show Text.size left = 0 by omega)
    exact ⟨skipped, by rw [text, List.append_nil], size, before, after⟩
  · rintro ⟨skipped, text, size, before, after⟩
    have total : window.size = length + Text.size part.text := by
      rw [Window.size, text, Text.size_append, size]
    exact ⟨skipped, [], by rw [text, List.append_nil], size, total.symm, before, after⟩

/-- Where a first part can be taken off a window, the other part is left, and it lies right behind
the first one. -/
theorem skip?_of_take? (taken : window.take? length = some front) : ∃ rest,
    window.skip? length = some rest ∧ front.text ++ rest.text = window.text ∧
      front.start = window.start ∧ front.stop = rest.start ∧ rest.stop = window.stop := by
  obtain ⟨left, shown, rfl, before, -⟩ := take?_eq_some_iff.1 taken
  let rest : Window := ⟨front.text.reverse ++ window.before, left, window.after⟩
  have skipped : window.skip? (Text.size front.text) = some rest :=
    skip?_eq_some_iff.2 ⟨front.text, shown, rfl, rfl, rfl⟩
  obtain ⟨-, -, ends⟩ := place_of_narrow? skipped
  have starts : front.start = window.start := by rw [Window.start, before, Window.start]
  have behind : rest.start = Text.size front.text + window.start := by
    rw [Window.start, size_append, size_reverse]
    rfl
  refine ⟨rest, skipped, shown.symm, starts, ?_, ends⟩
  rw [Window.stop, starts, behind, Nat.add_comm]
  rfl

end Lexing.Window
