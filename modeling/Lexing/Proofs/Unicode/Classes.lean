import Lexing.Lexeme.Name
import Lexing.Text.LineBreak
import Lexing.Unicode.WhiteSpace

/-!
# Classes of characters that exclude each other

The characters that separate lexemes, those that names consist of, and the ASCII digits come from
different tables. What the language relies on is that no white space belongs to a name, that digits
go on with a name but never start one, and that everything that moves a line or a column is white
space.

## Main definitions

* `Unicode.RangeTable.Apart`: two tables without a common code point

## Main results

* `Name.not_isPart_of_isWhiteSpace`, `Name.not_isStart_of_isDigit`, `Name.isPart_of_isDigit`
-/

namespace Lexing

namespace Unicode

namespace RangeTable

/-- Every range of one table lies before or behind every range of the other. -/
def Apart (a b : RangeTable) : Prop := ∀ r ∈ a.ranges, ∀ s ∈ b.ranges, r.2 < s.1 ∨ s.2 < r.1

instance (a b : RangeTable) : Decidable (Apart a b) :=
  inferInstanceAs (Decidable (∀ r ∈ a.ranges, ∀ s ∈ b.ranges, r.2 < s.1 ∨ s.2 < r.1))

theorem not_covers_of_apart {a b : RangeTable} (apart : Apart a b) {code : Nat}
    (found : a.covers code = true) : b.covers code = false := by
  rw [Bool.eq_false_iff]
  intro also
  obtain ⟨r, inside, bounds⟩ := (covers_iff a code).1 found
  obtain ⟨s, inside', bounds'⟩ := (covers_iff b code).1 also
  have separate := apart r inside s inside'
  omega

end RangeTable

/-- White space and letters have nothing in common. -/
theorem not_isAlphabetic_of_isWhiteSpace {c : Char} (white : isWhiteSpace c = true) :
    isAlphabetic c = false := by
  have apart : RangeTable.Apart whiteSpace alphabetic := by decide +kernel
  exact RangeTable.not_covers_of_apart apart white

theorem not_isNumeric_of_isWhiteSpace {c : Char} (white : isWhiteSpace c = true) :
    isNumeric c = false := by
  have apart : RangeTable.Apart whiteSpace numeric := by decide +kernel
  exact RangeTable.not_covers_of_apart apart white

/-- Both breaking characters are white space. -/
theorem isWhiteSpace_of_isBreak {c : Char} (breaking : Text.isBreak c = true) :
    isWhiteSpace c = true := by
  simp only [Text.isBreak, Bool.or_eq_true, beq_iff_eq] at breaking
  rcases breaking with rfl | rfl <;> decide

theorem not_isBreak_of_not_isWhiteSpace {c : Char} (dark : isWhiteSpace c = false) :
    Text.isBreak c = false := by
  rw [Bool.eq_false_iff]
  intro breaking
  rw [isWhiteSpace_of_isBreak breaking] at dark
  contradiction

/-- The table of the ASCII digits. -/
def digits : RangeTable where
  ranges := [(0x30, 0x39)]

theorem bounds_of_isDigit {c : Char} (digit : c.isDigit = true) :
    0x30 ≤ c.toNat ∧ c.toNat ≤ 0x39 := by
  simp only [Char.isDigit, Bool.and_eq_true, decide_eq_true_eq] at digit
  exact ⟨digit.1, digit.2⟩

/-- No digit is a letter. -/
theorem not_isAlphabetic_of_isDigit {c : Char} (digit : c.isDigit = true) :
    isAlphabetic c = false := by
  have covered : digits.covers c.toNat = true :=
    (digits.covers_iff _).2 ⟨_, List.mem_singleton_self _, bounds_of_isDigit digit⟩
  have apart : RangeTable.Apart digits alphabetic := by decide +kernel
  exact RangeTable.not_covers_of_apart apart covered

theorem isNumeric_of_isDigit {c : Char} (digit : c.isDigit = true) : isNumeric c = true :=
  -- The ASCII digits are the first range of the table.
  (numeric.covers_iff _).2 ⟨_, List.mem_cons_self, bounds_of_isDigit digit⟩

end Unicode

namespace Name

open Unicode

theorem isPart_of_isStart {c : Char} (start : isStart c = true) : isPart c = true := by
  simp only [isStart, isPart, Bool.or_eq_true] at *
  rcases start with letter | underscore
  · exact .inl (.inl letter)
  · exact .inr underscore

/-- No white space belongs to a name. -/
theorem not_isPart_of_isWhiteSpace {c : Char} (white : isWhiteSpace c = true) :
    isPart c = false := by
  have underscore : c ≠ '_' := by
    rintro rfl
    exact absurd white (by decide)
  simp [isPart, not_isAlphabetic_of_isWhiteSpace white, not_isNumeric_of_isWhiteSpace white,
    underscore]

theorem not_isPart_of_isBreak {c : Char} (breaking : Text.isBreak c = true) : isPart c = false :=
  not_isPart_of_isWhiteSpace (isWhiteSpace_of_isBreak breaking)

/-- A name goes on with digits. -/
theorem isPart_of_isDigit {c : Char} (digit : c.isDigit = true) : isPart c = true := by
  simp [isPart, isNumeric_of_isDigit digit]

/-- No name starts with a digit. -/
theorem not_isStart_of_isDigit {c : Char} (digit : c.isDigit = true) : isStart c = false := by
  have underscore : c ≠ '_' := by
    rintro rfl
    exact absurd digit (by decide)
  simp [isStart, not_isAlphabetic_of_isDigit digit, underscore]

theorem not_isWhiteSpace_of_isPart {c : Char} (inside : isPart c = true) :
    isWhiteSpace c = false := by
  rw [Bool.eq_false_iff]
  intro white
  rw [not_isPart_of_isWhiteSpace white] at inside
  contradiction

theorem not_isStart_of_not_isPart {c : Char} (outside : isPart c = false) :
    isStart c = false := by
  rw [Bool.eq_false_iff]
  intro start
  rw [isPart_of_isStart start] at outside
  contradiction

theorem not_isDigit_of_not_isPart {c : Char} (outside : isPart c = false) :
    c.isDigit = false := by
  rw [Bool.eq_false_iff]
  intro digit
  rw [isPart_of_isDigit digit] at outside
  contradiction

theorem not_isDigit_of_isStart {c : Char} (start : isStart c = true) : c.isDigit = false := by
  rw [Bool.eq_false_iff]
  intro digit
  rw [not_isStart_of_isDigit digit] at start
  contradiction

/-- A character of a name is none that does not belong to names. -/
theorem ne_of_isPart {c : Char} (inside : isPart c = true) (other : Char)
    (outside : isPart other = false) : c ≠ other := by
  rintro rfl
  rw [outside] at inside
  contradiction

theorem not_isBreak_of_isPart {c : Char} (inside : isPart c = true) : Text.isBreak c = false :=
  not_isBreak_of_not_isWhiteSpace (not_isWhiteSpace_of_isPart inside)

theorem ne_quote_of_isPart {c : Char} (inside : isPart c = true) : c ≠ '"' :=
  ne_of_isPart inside '"' (by decide)

theorem ne_slash_of_isPart {c : Char} (inside : isPart c = true) : c ≠ '/' :=
  ne_of_isPart inside '/' (by decide)

theorem ne_tab_of_isPart {c : Char} (inside : isPart c = true) : c ≠ '\t' :=
  ne_of_isPart inside '\t' (by decide)

end Name

end Lexing
