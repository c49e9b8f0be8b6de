/-!
# Texts measured in bytes

A text is the list of its characters. Its size, and every offset into it, counts the bytes of its
UTF-8 encoding, so an offset may fall inside a character. A text is only ever cut between two
characters: `Text.fit` takes as many whole characters as a number of bytes has room for, and
`Text.cut?` insists that they fill it.

## Main definitions

* `Text.size`: the number of bytes
* `Text.fit`: the longest piece at the front of at most `n` bytes, and what follows it
* `Text.cut?`: the cut after exactly `n` bytes, if it falls between characters

## Main results

* `Text.fit_append`: the two pieces of `Text.fit` make up the text
* `Text.cut?_eq_some_iff`: a cut after `n` bytes is a division of the text into a piece of `n` bytes
  and a rest
-/

namespace Lexing

/-- A text, as the list of its characters. -/
abbrev Text := List Char

namespace Text

/-- The number of bytes of a text in UTF-8. -/
def size (text : Text) : Nat := text.foldr (fun c bytes => c.utf8Size + bytes) 0

@[simp] theorem size_nil : size [] = 0 := rfl

@[simp] theorem size_cons (c : Char) (text : Text) :
    size (c :: text) = c.utf8Size + size text := rfl

@[simp] theorem size_append (a b : Text) : size (a ++ b) = size a + size b := by
  induction a with
  | nil => simp
  | cons c a ih => rw [List.cons_append, size_cons, size_cons, ih, Nat.add_assoc]

@[simp] theorem size_reverse (text : Text) : size text.reverse = size text := by
  induction text with
  | nil => rfl
  | cons c text ih => simp [ih, Nat.add_comm]

/-- Only the empty text has no bytes. -/
@[simp] theorem size_eq_zero_iff {text : Text} : size text = 0 ↔ text = [] := by
  cases text with
  | nil => simp
  | cons c text => simpa using fun none => absurd none (Nat.ne_of_gt c.utf8Size_pos)

/-- A text has at least one byte for each of its characters. -/
theorem length_le_size (text : Text) : text.length ≤ size text := by
  induction text with
  | nil => simp
  | cons c text ih =>
    have positive := c.utf8Size_pos
    simp only [List.length_cons, size_cons]
    omega

/-! ### Cutting a text -/

/-- Moves whole characters onto `taken`, which is kept in reverse, while they have room. -/
def fitOnto (taken : Text) : Nat → Text → Text × Text
  | _, [] => (taken.reverse, [])
  | room, c :: text =>
    if c.utf8Size ≤ room then fitOnto (c :: taken) (room - c.utf8Size) text
    else (taken.reverse, c :: text)

/-- The longest piece at the front that has at most `room` bytes and splits no character, and what
follows it. -/
def fit (room : Nat) (text : Text) : Text × Text := fitOnto [] room text

private theorem fitOnto_eq (taken : Text) (room : Nat) (text : Text) :
    fitOnto taken room text = (taken.reverse ++ (fit room text).1, (fit room text).2) := by
  induction text generalizing taken room with
  | nil => simp [fit, fitOnto]
  | cons c text ih =>
    by_cases room_left : c.utf8Size ≤ room
    · simp [fit, fitOnto, room_left, ih (c :: taken), ih [c]]
    · simp [fit, fitOnto, room_left]

@[simp] theorem fit_nil (room : Nat) : fit room [] = ([], []) := rfl

theorem fit_cons_of_le {c : Char} {room : Nat} (h : c.utf8Size ≤ room) (text : Text) :
    fit room (c :: text) =
      (c :: (fit (room - c.utf8Size) text).1, (fit (room - c.utf8Size) text).2) := by
  simp [fit, fitOnto, h, fitOnto_eq [c]]

theorem fit_cons_of_lt {c : Char} {room : Nat} (h : room < c.utf8Size) (text : Text) :
    fit room (c :: text) = ([], c :: text) := by
  simp [fit, fitOnto, Nat.not_le.2 h]

/-- Nothing is lost between the two pieces. -/
theorem fit_append (room : Nat) (text : Text) : (fit room text).1 ++ (fit room text).2 = text := by
  induction text generalizing room with
  | nil => rfl
  | cons c text ih =>
    rcases Nat.lt_or_ge room c.utf8Size with tight | roomy
    · rw [fit_cons_of_lt tight, List.nil_append]
    · simp [fit_cons_of_le roomy, ih]

/-- The piece at the front keeps to the room it was given. -/
theorem size_fit_le (room : Nat) (text : Text) : size (fit room text).1 ≤ room := by
  induction text generalizing room with
  | nil => simp
  | cons c text ih =>
    rcases Nat.lt_or_ge room c.utf8Size with tight | roomy
    · simp [fit_cons_of_lt tight]
    · have smaller := ih (room - c.utf8Size)
      simp only [fit_cons_of_le roomy, size_cons]
      omega

/-- A piece that fills its room is found. -/
theorem fit_of_size (a b : Text) : fit (size a) (a ++ b) = (a, b) := by
  induction a with
  | nil =>
    cases b with
    | nil => rfl
    | cons c b => simpa using fit_cons_of_lt c.utf8Size_pos b
  | cons c a ih => simp [fit_cons_of_le (Nat.le_add_right _ _), ih]

/-- The cut after exactly `bytes` bytes. There is none past the end or inside a character. -/
def cut? (bytes : Nat) (text : Text) : Option (Text × Text) :=
  let pieces := fit bytes text
  if size pieces.1 = bytes then some pieces else none

/-- The cuts of a text are its divisions into two pieces. -/
theorem cut?_eq_some_iff {bytes : Nat} {text a b : Text} :
    cut? bytes text = some (a, b) ↔ text = a ++ b ∧ size a = bytes := by
  constructor
  · intro cut
    simp only [cut?, Option.ite_none_right_eq_some, Option.some.injEq] at cut
    obtain ⟨full, pieces⟩ := cut
    have whole := fit_append bytes text
    rw [pieces] at whole full
    exact ⟨whole.symm, full⟩
  · rintro ⟨rfl, rfl⟩
    simp [cut?, fit_of_size]

end Text

end Lexing
