/-!
# Positions and origins

A position is a place in a text: its line and column, both counted from one, and its offset in
bytes. An origin is a position together with the name of the file it lies in.

Positions are ordered by line, then by column, then by offset.

## Main definitions

* `Position`, `Position.start`, `Position.display`
* `Origin`, `Origin.startOf`, `Origin.display`
-/

namespace Lexing

/-- A place in a text. -/
structure Position where
  line : Nat
  column : Nat
  /-- The number of bytes before the place. -/
  offset : Nat
  deriving DecidableEq, Repr

namespace Position

/-- The place before the first character. -/
def start : Position := ⟨1, 1, 0⟩

instance : Inhabited Position := ⟨start⟩

/-- The written form of a position names its line and column. -/
def display (position : Position) : String :=
  toString position.line ++ ":" ++ toString position.column

instance : LT Position where
  lt a b := a.line < b.line ∨ a.line = b.line ∧
    (a.column < b.column ∨ a.column = b.column ∧ a.offset < b.offset)

instance : LE Position where
  le a b := a < b ∨ a = b

theorem lt_iff {a b : Position} : a < b ↔ a.line < b.line ∨ a.line = b.line ∧
    (a.column < b.column ∨ a.column = b.column ∧ a.offset < b.offset) := Iff.rfl

theorem le_iff {a b : Position} : a ≤ b ↔ a < b ∨ a = b := Iff.rfl

instance (a b : Position) : Decidable (a < b) := decidable_of_iff' _ lt_iff

instance (a b : Position) : Decidable (a ≤ b) := decidable_of_iff' _ le_iff

instance : Ord Position := ⟨fun a b => compareOfLessAndEq a b⟩

theorem lt_trans {a b c : Position} (first : a < b) (second : b < c) : a < c := by
  rw [lt_iff] at *; omega

/-- Any two positions are ordered. -/
theorem lt_or_eq_or_gt (a b : Position) : a < b ∨ a = b ∨ b < a := by
  rcases a with ⟨line, column, offset⟩
  rcases b with ⟨line', column', offset'⟩
  simp only [lt_iff, mk.injEq]
  omega

/-- Positions in ascending order. Equal ones keep the order they came in. -/
def sort (positions : List Position) : List Position :=
  positions.mergeSort fun a b => decide (a ≤ b)

end Position

/-- A place in a named file. -/
structure Origin where
  file : String
  position : Position
  deriving DecidableEq, Repr

namespace Origin

/-- The start of a file. -/
def startOf (file : String) : Origin := ⟨file, Position.start⟩

/-- The written form of an origin: the file, then line and column. -/
def display (origin : Origin) : String := origin.file ++ ":" ++ origin.position.display

end Origin

end Lexing
