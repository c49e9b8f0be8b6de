import Lexing.Text.Basic
import Mathlib.Order.Bounds.Basic

/-!
# Offsets between characters

An offset counts bytes, and not every number of bytes is a place between two characters. Those that
are divide the text in one way only, and every offset has a last one at or before it.

## Main definitions

* `Text.IsBoundary`: the offsets that a text can be cut at

## Main results

* `Text.append_inj_of_size`: a text is cut at an offset in one way only
* `Text.exists_append_of_size_le`: the pieces at the front of a text are prefixes of each other
* `Text.isGreatest_size_fit`: the piece that fits ends at the last offset that it can
-/

namespace Lexing.Text

/-- An offset at which a text can be cut, its two ends included. -/
def IsBoundary (text : Text) (offset : Nat) : Prop :=
  ∃ before after, text = before ++ after ∧ size before = offset

/-- There is only one way to cut a text at an offset. -/
theorem append_inj_of_size {a b c d : Text} (same : a ++ b = c ++ d) (sizes : size a = size c) :
    a = c ∧ b = d := by
  have cut := fit_of_size a b
  rw [same, sizes, fit_of_size] at cut
  exact ⟨(Prod.mk.inj cut).1.symm, (Prod.mk.inj cut).2.symm⟩

/-- Of two pieces at the front of a text, the longer one goes on from the shorter one. -/
theorem exists_append_of_size_le {a b c d : Text} (same : a ++ b = c ++ d)
    (le : size a ≤ size c) : ∃ more, c = a ++ more ∧ b = more ++ d := by
  rcases List.append_eq_append_iff.1 same with ⟨more, longer, rest⟩ | ⟨less, shorter, rest⟩
  · exact ⟨more, longer, rest⟩
  · rw [shorter, size_append] at le
    obtain rfl : less = [] := size_eq_zero_iff.1 (by omega)
    exact ⟨[], by simpa using shorter.symm, by simpa using rest.symm⟩

/-- The offsets that a text can be cut at are those that it has a cut for. -/
theorem isSome_cut?_iff {text : Text} {offset : Nat} :
    (cut? offset text).isSome = true ↔ IsBoundary text offset := by
  simp only [Option.isSome_iff_exists, Prod.exists, cut?_eq_some_iff, IsBoundary]

instance (text : Text) (offset : Nat) : Decidable (IsBoundary text offset) :=
  decidable_of_iff _ isSome_cut?_iff

theorem IsBoundary.le_size {text : Text} {offset : Nat} (boundary : IsBoundary text offset) :
    offset ≤ size text := by
  obtain ⟨before, after, rfl, rfl⟩ := boundary
  rw [size_append]
  exact Nat.le_add_right ..

/-- An offset between two characters is the last such offset that it has room for. -/
theorem isGreatest_iff_of_isBoundary {text : Text} {room stop : Nat}
    (here : IsBoundary text room) :
    IsGreatest {offset | IsBoundary text offset ∧ offset ≤ room} stop ↔ room = stop := by
  have last : IsGreatest {offset | IsBoundary text offset ∧ offset ≤ room} room :=
    ⟨⟨here, Nat.le_refl room⟩, fun _ ⟨_, small⟩ => small⟩
  constructor
  · exact last.unique
  · rintro rfl
    exact last

/-- No piece at the front of a text that has room is longer than the one that fits. -/
theorem size_le_size_fit {room : Nat} {before after : Text} (small : size before ≤ room) :
    size before ≤ size (fit room (before ++ after)).1 := by
  induction before generalizing room with
  | nil => exact Nat.zero_le _
  | cons c before ih =>
    rw [size_cons] at small
    have roomy : c.utf8Size ≤ room := by omega
    have later := @ih (room - c.utf8Size) (by omega)
    rw [List.cons_append, fit_cons_of_le roomy, size_cons, size_cons]
    omega

/-- The piece that fits into some room ends at the last offset that has room and splits no
character. -/
theorem isGreatest_size_fit (room : Nat) (text : Text) :
    IsGreatest {offset | IsBoundary text offset ∧ offset ≤ room} (size (fit room text).1) := by
  constructor
  · exact ⟨⟨_, _, (fit_append room text).symm, rfl⟩, size_fit_le room text⟩
  · rintro offset ⟨⟨before, after, rfl, rfl⟩, small⟩
    exact size_le_size_fit small

end Lexing.Text
