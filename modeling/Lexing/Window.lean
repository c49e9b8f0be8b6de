import Lexing.Text.Basic

/-!
# Windows on a text

A window shows a piece of a larger text and remembers what stands before and after it, so the piece
keeps its place. A window may be narrowed further, with offsets counted from its own start. It is
never cut inside a character: there is no such window.

What stands before the window is kept in reverse, nearest character first.

## Main definitions

* `Window`, `Window.start`, `Window.stop`, `Window.whole`: a piece and its place
* `Window.ofText`, `Window.ofRange`: windows on a text
* `Window.narrow?`, `Window.take?`, `Window.skip?`: windows inside a window
-/

namespace Lexing

/-- A piece of a text, with the text around it. -/
structure Window where
  /-- What stands before the window, in reverse. -/
  before : Text
  /-- What the window shows. -/
  text : Text
  /-- What stands after the window. -/
  after : Text

/-- Why a range of bytes is no window. -/
inductive RangeError where
  /-- The range ends before it starts. -/
  | reversed
  /-- The range ends after the text. -/
  | pastEnd
  /-- An end of the range lies inside a character. -/
  | insideCharacter
  deriving DecidableEq, Repr

/-- The wording of a refused range. -/
def RangeError.message : RangeError → String
  | .reversed => "assertion failed: start <= end"
  | .pastEnd => "assertion failed: end <= buffer.len()"
  | .insideCharacter =>
    "assertion failed: buffer.is_char_boundary(start) && buffer.is_char_boundary(end)"

namespace Window

/-- The number of bytes shown. -/
def size (window : Window) : Nat := Text.size window.text

/-- The offset of the window in the whole text. -/
def start (window : Window) : Nat := Text.size window.before

/-- The offset of the end of the window in the whole text. -/
def stop (window : Window) : Nat := window.start + window.size

/-- The text that the window is a part of. -/
def whole (window : Window) : Text := window.before.reverse ++ window.text ++ window.after

/-- Windows are compared by what they show, not by where it stands. -/
instance : BEq Window := ⟨fun a b => a.text == b.text⟩

theorem beq_iff {a b : Window} : (a == b) = true ↔ a.text = b.text := by
  change (a.text == b.text) = true ↔ _
  simp

/-- The window that shows all of a text. -/
def ofText (text : Text) : Window := ⟨[], text, []⟩

/-- The part of the window between two offsets counted from its start, if they are in order and
neither lies past its end or inside a character. -/
def narrow? (window : Window) (start stop : Nat) : Option Window :=
  if start ≤ stop then do
    -- The second cut is measured from the first, so neither can run past the end.
    let (skipped, rest) ← Text.cut? start window.text
    let (text, left) ← Text.cut? (stop - start) rest
    return ⟨skipped.reverse ++ window.before, text, left ++ window.after⟩
  else none

/-- The first `size` bytes of the window. -/
def take? (window : Window) (size : Nat) : Option Window := window.narrow? 0 size

/-- The window without its first `size` bytes. -/
def skip? (window : Window) (size : Nat) : Option Window := window.narrow? size window.size

/-- The window on a range of bytes of a text. The order of the bounds is checked first, then the
end, then that no character is split. -/
def ofRange (text : Text) (start stop : Nat) : Except RangeError Window :=
  if stop < start then .error .reversed
  else if Text.size text < stop then .error .pastEnd
  else match (ofText text).narrow? start stop with
    | none => .error .insideCharacter
    | some window => .ok window

/-- The windows inside a window are its divisions into three pieces. -/
theorem narrow?_eq_some_iff {window part : Window} {start stop : Nat} :
    window.narrow? start stop = some part ↔
      ∃ skipped left, window.text = skipped ++ part.text ++ left ∧
        Text.size skipped = start ∧ start + Text.size part.text = stop ∧
        part.before = skipped.reverse ++ window.before ∧ part.after = left ++ window.after := by
  by_cases ordered : start ≤ stop
  · simp only [narrow?, ordered, if_true, Option.bind_eq_bind, Option.bind_eq_some_iff,
      Prod.exists, Text.cut?_eq_some_iff, Option.pure_def, Option.some.injEq]
    constructor
    · rintro ⟨skipped, rest, ⟨text, size⟩, piece, left, ⟨rest_eq, piece_size⟩, rfl⟩
      exact ⟨skipped, left, by simp [text, rest_eq], size, by simp only; omega, rfl, rfl⟩
    · rintro ⟨skipped, left, text, size, total, before, after⟩
      refine ⟨skipped, part.text ++ left, ⟨by simp [text], size⟩, part.text, left,
        ⟨rfl, by omega⟩, ?_⟩
      rw [← before, ← after]
  · simp only [narrow?, ordered, if_false, reduceCtorEq, false_iff]
    rintro ⟨skipped, left, text, size, total, before, after⟩
    omega

end Window

end Lexing
