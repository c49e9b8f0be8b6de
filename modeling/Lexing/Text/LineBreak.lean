import Lexing.Text.Basic

/-!
# Line breaks

A line feed or a carriage return breaks a line, and so does one of them followed by the other: the
two belong together and count once. Breaks are read from left to right and a pair is preferred, so
a line feed, a carriage return and a line feed are two breaks, the pair first.

## Main definitions

* `Text.isBreak`: the two characters that break a line
* `Text.hasBreak`: whether a text has such a character
* `Text.breaks`: the number of breaks, pairs counted once
* `Text.lastLine`: what follows the last breaking character
-/

namespace Lexing.Text

/-- Line feed and carriage return break a line. -/
def isBreak (c : Char) : Bool := c == '\n' || c == '\r'

/-- Whether some character of the text breaks a line. -/
def hasBreak (text : Text) : Bool := text.any isBreak

/-- The number of line breaks. Two different breaking characters in a row are one break, where the
first of them is not already the second half of a pair. -/
def breaks : Text → Nat
  -- The pairs come first, so that a pair is never read as two breaks.
  | '\n' :: '\r' :: text => breaks text + 1
  | '\r' :: '\n' :: text => breaks text + 1
  | '\n' :: text => breaks text + 1
  | '\r' :: text => breaks text + 1
  | _ :: text => breaks text
  | [] => 0

/-- What follows the last breaking character: the whole text if there is none. -/
def lastLine (text : Text) : Text := (text.reverse.takeWhile (!isBreak ·)).reverse

/-! ### Texts with and without breaks -/

@[simp] theorem hasBreak_nil : hasBreak [] = false := rfl

@[simp] theorem hasBreak_cons (c : Char) (text : Text) :
    hasBreak (c :: text) = (isBreak c || hasBreak text) := rfl

@[simp] theorem hasBreak_append (a b : Text) : hasBreak (a ++ b) = (hasBreak a || hasBreak b) := by
  simp [hasBreak]

/-- A text without breaking characters has no line break. -/
theorem breaks_eq_zero_of_not_hasBreak {text : Text} (h : hasBreak text = false) :
    breaks text = 0 := by
  fun_induction breaks text <;> simp_all [isBreak]

/-- A text without breaking characters is one line. -/
theorem lastLine_of_not_hasBreak {text : Text} (h : hasBreak text = false) :
    lastLine text = text := by
  have clean : ∀ c ∈ text.reverse, (!isBreak c) = true := fun c inside => by
    simpa using List.any_eq_false.1 h c (List.mem_reverse.1 inside)
  have whole : (text.reverse ++ []).takeWhile (!isBreak ·) = text.reverse ++ [].takeWhile _ :=
    List.takeWhile_append_of_pos clean
  rw [List.append_nil, List.takeWhile_nil, List.append_nil] at whole
  rw [lastLine, whole, List.reverse_reverse]

/-- Only the second piece decides the last line, unless it has no break. -/
theorem lastLine_append_of_hasBreak {b : Text} (h : hasBreak b = true) (a : Text) :
    lastLine (a ++ b) = lastLine b := by
  obtain ⟨c, inside, breaking⟩ := List.any_eq_true.1 h
  have stops : ∃ c ∈ b.reverse, (!isBreak c) = false :=
    ⟨c, List.mem_reverse.2 inside, by simp [breaking]⟩
  rw [lastLine, lastLine, List.reverse_append]
  congr 1
  generalize b.reverse = r at stops
  induction r with
  | nil => simp at stops
  | cons d r ih =>
    by_cases breaking : isBreak d
    · simp [breaking]
    · simp only [List.cons_append, List.takeWhile_cons, breaking]
      simp only [List.mem_cons, exists_eq_or_imp, breaking] at stops
      simpa using ih (by simpa using stops)

end Lexing.Text
