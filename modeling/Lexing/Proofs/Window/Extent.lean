import Lexing.Proofs.Cursor.Sound
import Lexing.Proofs.Window.Parts

/-!
# Windows by offsets

A window keeps the text around the piece that it shows, so it cannot end inside a character. An
extent knows no more than a text and two offsets. What it shows has to be taken out of the text each
time, its size is a difference, and to narrow it two sums are formed. For two offsets of which
nothing is known, each of these may fault.

None does where the two offsets are those of a window. Both ends of what an extent is narrowed to
are checked against the piece that it shows before anything is added up, so whatever is asked for,
the sums stay inside the text. What is left is a window again, at the place that the offsets say.

## Main definitions

* `Extent`, `Extent.Valid`: two offsets in a text, and when they are those of a window
* `Extent.narrow?`, `Extent.take?`, `Extent.skip?`: extents inside an extent
* `Cut`, `Window.cutAll`, `Extent.cutAll`: cuts one after the other

## Main results

* `Extent.valid_iff_exists_ofRange`: the extents that are valid are those of windows
* `Window.cut_extent`: an extent is cut as its window is
* `Extent.cuts_of_valid`: what can be reached from a valid extent
-/

namespace Lexing

/-- Two offsets in a text. -/
structure Extent where
  buffer : Text
  start : Nat
  stop : Nat
  deriving DecidableEq

/-- A way to narrow a window. -/
inductive Cut where
  | narrow (start stop : Nat)
  | take (length : Nat)
  | skip (length : Nat)

open Text

/-! ### Cuts of a window -/

namespace Window

/-- Narrows a window in one way. -/
def cut (window : Window) : Cut → Option Window
  | .narrow start stop => window.narrow? start stop
  | .take length => window.take? length
  | .skip length => window.skip? length

/-- Narrows a window again and again. -/
def cutAll (window : Window) : List Cut → Option Window
  | [] => some window
  | cut :: cuts => do (← window.cut cut).cutAll cuts

/-- The offsets of a window. -/
def extent (window : Window) : Extent := ⟨window.whole, window.start, window.stop⟩

end Window

/-! ### Cuts by offsets -/

namespace Extent

/-- What an extent shows. -/
def text (extent : Extent) : Except Fault Text :=
  (Marker.range extent.buffer extent.start extent.stop).map Window.text

/-- The number of bytes shown. -/
def size (extent : Extent) : Except Fault Nat := Marker.subtract extent.stop extent.start

/-- The part of an extent between two offsets counted from its start. -/
def narrow? (extent : Extent) (start stop : Nat) : Except Fault (Option Extent) := do
  let text ← extent.text
  if stop < start ∨ Text.size text < stop then return none
  else if ¬ IsBoundary text start ∨ ¬ IsBoundary text stop then return none
  else
    let first ← Marker.add extent.start start
    let last ← Marker.add extent.start stop
    return some ⟨extent.buffer, first, last⟩

/-- The first `length` bytes of an extent. -/
def take? (extent : Extent) (length : Nat) : Except Fault (Option Extent) :=
  extent.narrow? 0 length

/-- The extent without its first `length` bytes. -/
def skip? (extent : Extent) (length : Nat) : Except Fault (Option Extent) := do
  extent.narrow? length (← extent.size)

/-- Narrows an extent in one way. -/
def cut (extent : Extent) : Cut → Except Fault (Option Extent)
  | .narrow start stop => extent.narrow? start stop
  | .take length => extent.take? length
  | .skip length => extent.skip? length

/-- Narrows an extent again and again, unless a fault ends it. -/
def cutAll (extent : Extent) : List Cut → Except Fault (Option Extent)
  | [] => return some extent
  | cut :: cuts => do
    match ← extent.cut cut with
    | some part => part.cutAll cuts
    | none => return none

/-- The offsets are in order and in the text, and each lies between two characters. -/
structure Valid (extent : Extent) : Prop where
  ordered : extent.start ≤ extent.stop
  within : extent.stop ≤ Text.size extent.buffer
  opens : IsBoundary extent.buffer extent.start
  closes : IsBoundary extent.buffer extent.stop

end Extent

/-! ### One cut -/

namespace Window

variable {window part : Window}

theorem valid_extent (window : Window) : window.extent.Valid :=
  ⟨Nat.le_add_right .., window.stop_le_size_whole, window.isBoundary_start, window.isBoundary_stop⟩

/-- The offsets of a window show what the window does. -/
theorem text_extent (window : Window) : window.extent.text = .ok window.text := by
  have made : ofRange window.whole window.start window.stop = .ok window :=
    ofRange_eq_ok_iff.2 ⟨rfl, rfl, rfl⟩
  rw [Extent.text, Marker.range, extent, made]
  rfl

theorem size_extent (window : Window) : window.extent.size = .ok window.size := by
  have ordered : window.start ≤ window.stop := Nat.le_add_right ..
  rw [Extent.size, extent, Marker.subtract_of_le ordered, stop, Nat.add_sub_cancel_left]

/-- The offsets of a window are narrowed as the window is. -/
theorem narrow?_extent (short : window.stop ≤ Word.greatest) (start stop : Nat) :
    window.extent.narrow? start stop = .ok ((window.narrow? start stop).map extent) := by
  simp only [Extent.narrow?, text_extent, bind, Except.bind, pure, Except.pure]
  cases narrowed : window.narrow? start stop with
  | none =>
    have refused : ¬ (start ≤ stop ∧ stop ≤ window.size ∧
        IsBoundary window.text start ∧ IsBoundary window.text stop) := by
      rw [← isSome_narrow?_iff, narrowed]
      simp
    by_cases outside : stop < start ∨ Text.size window.text < stop
    · rw [if_pos outside]
      rfl
    · rw [not_or, Nat.not_lt, Nat.not_lt] at outside
      have inside : ¬ IsBoundary window.text start ∨ ¬ IsBoundary window.text stop := by
        by_contra both
        rw [not_or, not_not, not_not] at both
        exact refused ⟨outside.1, outside.2, both⟩
      rw [if_neg (by omega), if_pos inside]
      rfl
  | some part =>
    obtain ⟨ordered, within, opens, closes⟩ := isSome_narrow?_iff.1 (by rw [narrowed]; rfl)
    obtain ⟨same, first, last⟩ := place_of_narrow? narrowed
    -- The part ends where the window does or before, so its ends are words as well.
    have room : window.start + stop ≤ window.stop := Nat.add_le_add_left within _
    have starts : Marker.add window.extent.start start = .ok part.start := by
      rw [first]
      exact Marker.add_of_le (show window.start + start ≤ Word.greatest by omega)
    have stops : Marker.add window.extent.start stop = .ok part.stop := by
      rw [last]
      exact Marker.add_of_le (room.trans short)
    have inside : ¬ (stop < start ∨ Text.size window.text < stop) :=
      not_or.2 ⟨Nat.not_lt.2 ordered, Nat.not_lt.2 within⟩
    rw [if_neg inside, if_neg (not_or.2 ⟨not_not.2 opens, not_not.2 closes⟩), starts, stops,
      Option.map_some, extent, extent, same]

/-- Offsets are cut as their window is, and no cut of them faults. -/
theorem cut_extent (short : window.stop ≤ Word.greatest) (way : Cut) :
    window.extent.cut way = .ok ((window.cut way).map extent) := by
  cases way with
  | narrow start stop => exact narrow?_extent short start stop
  | take length => exact narrow?_extent short 0 length
  | skip length =>
    rw [Extent.cut, Extent.skip?, size_extent]
    exact narrow?_extent short length window.size

/-- A cut of a window is a window on the same text, and ends there at the latest where the window
does. -/
theorem place_of_cut {way : Cut} (made : window.cut way = some part) :
    part.whole = window.whole ∧ part.stop ≤ window.stop := by
  -- All ways to cut are to narrow to some range.
  have narrowed : ∃ start stop, window.narrow? start stop = some part := by
    cases way with
    | narrow start stop => exact ⟨start, stop, made⟩
    | take length => exact ⟨0, length, made⟩
    | skip length => exact ⟨length, window.size, made⟩
  obtain ⟨start, stop, narrowed⟩ := narrowed
  obtain ⟨-, within, -⟩ := isSome_narrow?_iff.1 (by rw [narrowed]; rfl)
  obtain ⟨same, -, last⟩ := place_of_narrow? narrowed
  exact ⟨same, last ▸ Nat.add_le_add_left within _⟩

/-! ### Cuts one after the other -/

theorem place_of_cutAll {cuts : List Cut} (made : window.cutAll cuts = some part) :
    part.whole = window.whole ∧ part.stop ≤ window.stop := by
  induction cuts generalizing window with
  | nil =>
    obtain rfl := Option.some.inj made
    exact ⟨rfl, Nat.le_refl _⟩
  | cons way cuts ih =>
    obtain ⟨first, step, rest⟩ := Option.bind_eq_some_iff.1 made
    obtain ⟨same, within⟩ := place_of_cut step
    obtain ⟨again, deeper⟩ := ih rest
    exact ⟨again.trans same, deeper.trans within⟩

/-- Cutting the offsets of a window again and again leads where cutting the window does. -/
theorem cutAll_extent (short : window.stop ≤ Word.greatest) (cuts : List Cut) :
    window.extent.cutAll cuts = .ok ((window.cutAll cuts).map extent) := by
  induction cuts generalizing window with
  | nil => rfl
  | cons way cuts ih =>
    rw [Extent.cutAll, cut_extent short, cutAll]
    cases step : window.cut way with
    | none => rfl
    | some part => exact ih ((place_of_cut step).2.trans short)

end Window

/-! ### Whatever is cut -/

namespace Extent

variable {extent : Extent}

/-- The offsets of a window are valid, and all valid offsets are those of a window. -/
theorem valid_iff_exists_ofRange :
    extent.Valid ↔
      ∃ window, Window.ofRange extent.buffer extent.start extent.stop = .ok window := by
  constructor
  · rintro ⟨ordered, within, opens, closes⟩
    have made : ((Window.ofText extent.buffer).narrow? extent.start extent.stop).isSome = true :=
      Window.isSome_narrow?_iff.2 ⟨ordered, within, opens, closes⟩
    obtain ⟨window, narrowed⟩ := Option.isSome_iff_exists.1 made
    refine ⟨window, ?_⟩
    rw [Window.ofRange, if_neg (Nat.not_lt.2 ordered), if_neg (Nat.not_lt.2 within), narrowed]
  · rintro ⟨window, made⟩
    obtain ⟨same, first, last⟩ := Window.ofRange_eq_ok_iff.1 made
    have valid := window.valid_extent
    rwa [Window.extent, same, first, last] at valid

/-- From valid offsets in a text, any cuts one after the other lead where they lead from the window
at those offsets, and none of them faults, whatever is asked for. The offsets that they lead to are
valid in the same text, and what lies between them is what the window shows. From there, a range can
be cut out exactly if it is in order, ends in the piece that is shown and splits no character of it.
A cut of a cut is a cut, with the start of the first one added to the offsets of the second. Where a
first part can be taken, the other part can be left: together they make up the whole, and one ends
where the other starts. -/
theorem cuts_of_valid (fits : Text.size extent.buffer ≤ mostBytes) (valid : extent.Valid) :
    ∃ window, Window.ofRange extent.buffer extent.start extent.stop = .ok window ∧ ∀ cuts,
      extent.cutAll cuts = .ok ((window.cutAll cuts).map Window.extent) ∧
      ∀ part, window.cutAll cuts = some part →
        part.extent.buffer = extent.buffer ∧ part.extent.Valid ∧
        part.extent.text = .ok part.text ∧
        (∃ before after, extent.buffer = before ++ part.text ++ after ∧
          Text.size before = part.start ∧ Text.size (before ++ part.text) = part.stop) ∧
        (∀ way, part.extent.cut way = .ok ((part.cut way).map Window.extent)) ∧
        (∀ start stop, (part.narrow? start stop).isSome = true ↔
          start ≤ stop ∧ stop ≤ part.size ∧
            IsBoundary part.text start ∧ IsBoundary part.text stop) ∧
        (∀ start stop inner, part.narrow? start stop = some inner →
          inner.start = part.start + start ∧ inner.stop = part.start + stop ∧
          ∀ c d, inner.narrow? c d =
            if d ≤ stop - start then part.narrow? (start + c) (start + d) else none) ∧
        ∀ length front, part.take? length = some front → ∃ rest,
          part.skip? length = some rest ∧ front.text ++ rest.text = part.text ∧
          front.start = part.start ∧ front.stop = rest.start ∧ rest.stop = part.stop := by
  obtain ⟨window, made⟩ := valid_iff_exists_ofRange.1 valid
  obtain ⟨same, first, last⟩ := Window.ofRange_eq_ok_iff.1 made
  have placed : window.extent = extent := by rw [Window.extent, same, first, last]
  have short : window.stop ≤ Word.greatest := by
    have within := window.stop_le_size_whole
    rw [same] at within
    unfold mostBytes at fits
    unfold Word.greatest
    omega
  refine ⟨window, made, fun cuts => ⟨placed ▸ Window.cutAll_extent short cuts, ?_⟩⟩
  intro part reached
  obtain ⟨buffer, within⟩ := Window.place_of_cutAll reached
  refine ⟨buffer.trans same, part.valid_extent, part.text_extent, ?_,
    Window.cut_extent (within.trans short), fun _ _ => Window.isSome_narrow?_iff, ?_,
    fun _ _ => Window.skip?_of_take?⟩
  · refine ⟨part.before.reverse, part.after, (buffer.trans same).symm, size_reverse _, ?_⟩
    rw [size_append, size_reverse]
    rfl
  · intro start stop inner narrowed
    obtain ⟨-, starts, stops⟩ := Window.place_of_narrow? narrowed
    exact ⟨starts, stops, Window.narrow?_narrow? narrowed⟩

/-- Behind a character of three bytes, around one of two bytes. The offsets of the last cut are
those in the whole text, the wide character is not split, and the greatest word is past the end. -/
theorem cuts_between_wide_characters :
    let extent : Extent := ⟨['→', 'h', 'é', 'l', 'o'], 3, 8⟩
    Text.size extent.buffer ≤ mostBytes ∧ extent.Valid ∧
    extent.text = .ok ['h', 'é', 'l', 'o'] ∧
    extent.cutAll [.narrow 1 4, .skip 2] = .ok (some ⟨extent.buffer, 6, 7⟩) ∧
    extent.cutAll [.narrow 1 4, .take 1] = .ok none ∧
    extent.cutAll [.skip 3, .narrow 1 Word.greatest] = .ok none := by
  intro extent
  have fits : Text.size extent.buffer ≤ mostBytes := by decide +kernel
  have valid : extent.Valid := ⟨by decide, by decide, by decide +kernel, by decide +kernel⟩
  obtain ⟨window, made, reached⟩ := cuts_of_valid fits valid
  obtain rfl : ⟨['→'], ['h', 'é', 'l', 'o'], []⟩ = window :=
    Except.ok.inj ((show _ = _ by rfl).symm.trans made)
  obtain ⟨-, -, shown, -⟩ := (reached []).2 _ rfl
  exact ⟨fits, valid, shown, (reached _).1, (reached _).1, (reached _).1⟩

end Extent

end Lexing
