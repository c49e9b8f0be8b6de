import Lexing.Proofs.Lexeme.Outcomes
import Lexing.Proofs.Text.Boundary

/-!
# What a highlight marks

A problem lies at an offset, which counts bytes, and its highlight says how many characters to mark
from there on. The recognizers of literals and of numbers take the bytes of the piece that is wrong
for its highlight. For a piece whose characters are one byte each this is the number of characters,
and the mark ends where the piece does. Every longer character moves the end of the mark on, over
characters that have nothing to do with the problem, or past the end of the text.

## Main definitions

* `Problem.Marks`: a problem marks a piece of a text and nothing else

## Main results

* `Text.size_eq_length_iff`: bytes and characters are as many where no character is longer
* `Problem.marks_iff_of_size`: which pieces are marked where the highlight counts bytes
* `Lexeme.highlights_iff`: the unknown escapes and the strays that are marked, of every text
-/

namespace Lexing

open Text

/-- There are as many characters as bytes exactly where every character is one byte. -/
theorem Text.size_eq_length_iff {text : Text} :
    size text = text.length ↔ ∀ c ∈ text, c.utf8Size = 1 := by
  induction text with
  | nil => simp
  | cons c text ih =>
    have positive := c.utf8Size_pos
    have least := length_le_size text
    rw [List.forall_mem_cons, ← ih, size_cons, List.length_cons]
    omega

namespace Problem

variable {problem : Problem} {text before piece after : Text}

/-- The problem lies at the piece, and its highlight is the number of characters of the piece. -/
def Marks (problem : Problem) (text piece : Text) : Prop :=
  ∃ before after, text = before ++ (piece ++ after) ∧ problem.offset = size before ∧
    problem.highlight = piece.length

/-- Where the highlight is the number of bytes of a piece, the piece is marked exactly if its
characters are one byte each. -/
theorem marks_iff_of_size (whole : text = before ++ (piece ++ after))
    (place : problem.offset = size before) (bytes : problem.highlight = size piece) :
    problem.Marks text piece ↔ ∀ c ∈ piece, c.utf8Size = 1 := by
  rw [← size_eq_length_iff]
  constructor
  · rintro ⟨-, -, -, -, characters⟩
    exact bytes.symm.trans characters
  · intro same
    exact ⟨before, after, whole, place, bytes.trans same⟩

end Problem

namespace Lexeme

/-- An unknown escape is marked with its backslash exactly if it is one byte. -/
theorem marks_unknownEscape_iff {text before after : Text} {c : Char}
    (whole : text = before ++ '\\' :: c :: after) :
    (Literal.unknownEscape (size before) c).Marks text ['\\', c] ↔ c.utf8Size = 1 := by
  have slash : Char.utf8Size '\\' = 1 := rfl
  have bytes : (Literal.unknownEscape (size before) c).highlight = size ['\\', c] := by
    simp [Literal.unknownEscape, slash]
  have marks : (Literal.unknownEscape (size before) c).Marks text ['\\', c] ↔
      ∀ d ∈ ['\\', c], d.utf8Size = 1 := Problem.marks_iff_of_size whole rfl bytes
  rw [marks]
  simp [slash]

/-- A literal that fails lacks a quote or has an unknown escape for each of its other problems. -/
theorem exists_escape_of_mem_problems {text : Text} {failure : Failure}
    (failed : literal.run text = .failure failure) :
    ∀ problem ∈ failure.problems, problem = Literal.unterminated ∨
      ∃ before c after, text = before ++ '\\' :: c :: after ∧
        Literal.isKnownEscape c = false ∧ problem = Literal.unknownEscape (size before) c := by
  rcases literal_cases text with none | ⟨_, _, _, _, found⟩ | ⟨inside, rfl, broken, found⟩
  · rw [none] at failed
    obtain rfl := Outcome.failure.inj failed
    simp [Failure.none]
  · rw [found] at failed
    contradiction
  · rw [found] at failed
    obtain rfl := Outcome.failure.inj failed
    intro problem reported
    rcases List.mem_append.1 reported with escape | missing
    · right
      obtain ⟨before, c, after, taken, unknown, rfl⟩ := Literal.exists_of_mem_unknown escape
      have whole := Literal.divide_append inside
      rw [taken, List.append_assoc] at whole
      exact ⟨'"' :: before, c, after ++ (Literal.divide inside).2,
        congrArg ('"' :: ·) whole.symm, unknown, rfl⟩
    · left
      split at missing
      · simp at missing
      · exact List.mem_singleton.1 missing

/-- A number that fails is reported at what runs on behind its digits. -/
theorem eq_of_mem_problems_number {text : Text} {failure : Failure}
    (failed : number.run text = .failure failure) :
    let digits := text.takeWhile Char.isDigit
    let stray := (text.dropWhile Char.isDigit).takeWhile Name.isPart
    ∀ problem ∈ failure.problems,
      problem = ⟨size digits, size stray, "invalid digit in number"⟩ := by
  intro digits stray problem reported
  simp only [number] at failed
  split at failed
  · obtain rfl := Outcome.failure.inj failed
    simp [Failure.none] at reported
  · split at failed
    · obtain rfl := Outcome.failure.inj failed
      simpa [Failure.withHighlight, Failure.single] using reported
    · contradiction

/-- Every unknown escape of every literal lies at its backslash, and marks the backslash and the
character behind it exactly if this character is one byte. What runs on behind the digits of a
number is marked exactly if its characters are one byte each. In every other case the highlight is
not the number of characters of the piece that is wrong. -/
theorem highlights_iff (text : Text) :
    (∀ failure, literal.run text = .failure failure → ∀ problem ∈ failure.problems,
      problem = Literal.unterminated ∨ ∃ before c after,
        text = before ++ '\\' :: c :: after ∧ Literal.isKnownEscape c = false ∧
        problem = Literal.unknownEscape (size before) c ∧
        (problem.Marks text ['\\', c] ↔ c.utf8Size = 1)) ∧
    ∀ failure, number.run text = .failure failure → ∀ problem ∈ failure.problems,
      let digits := text.takeWhile Char.isDigit
      let stray := (text.dropWhile Char.isDigit).takeWhile Name.isPart
      problem = ⟨size digits, size stray, "invalid digit in number"⟩ ∧
      (problem.Marks text stray ↔ ∀ c ∈ stray, c.utf8Size = 1) := by
  constructor
  · intro failure failed problem reported
    rcases exists_escape_of_mem_problems failed problem reported with
      missing | ⟨before, c, after, whole, unknown, rfl⟩
    · exact .inl missing
    · exact .inr ⟨before, c, after, whole, unknown, rfl, marks_unknownEscape_iff whole⟩
  · intro failure failed problem reported digits stray
    obtain rfl := eq_of_mem_problems_number failed problem reported
    refine ⟨rfl, ?_⟩
    have whole : text =
        digits ++ (stray ++ (text.dropWhile Char.isDigit).dropWhile Name.isPart) := by
      rw [List.takeWhile_append_dropWhile, List.takeWhile_append_dropWhile]
    exact Problem.marks_iff_of_size whole rfl rfl

/-- An unknown escape and a stray of single bytes are marked as they should be. -/
theorem highlights_of_single_bytes :
    let escape : Problem := ⟨1, 2, "unknown escape `\\q`"⟩
    let stray : Problem := ⟨1, 2, "invalid digit in number"⟩
    literal.run ['"', '\\', 'q', '"'] = .failure ⟨⟨4, false, true⟩, [escape]⟩ ∧
    escape.Marks ['"', '\\', 'q', '"'] ['\\', 'q'] ∧
    number.run ['1', 'a', '_', ';'] = .failure ⟨.ofLength 3, [stray]⟩ ∧
    stray.Marks ['1', 'a', '_', ';'] ['a', '_'] := by
  intro escape stray
  have broken : literal.run ['"', '\\', 'q', '"'] = .failure ⟨⟨4, false, true⟩, [escape]⟩ := by
    decide
  have joined : number.run ['1', 'a', '_', ';'] = .failure ⟨.ofLength 3, [stray]⟩ := by
    decide +kernel
  have escapes := (highlights_iff ['"', '\\', 'q', '"']).1 _ broken escape List.mem_cons_self
  have behind : (['1', 'a', '_', ';'].dropWhile Char.isDigit).takeWhile Name.isPart =
      ['a', '_'] := by
    decide +kernel
  have single : ∀ c ∈ ['a', '_'], c.utf8Size = 1 := by
    rw [List.forall_mem_cons, List.forall_mem_singleton]
    decide
  have strays := (highlights_iff ['1', 'a', '_', ';']).2 _ joined stray List.mem_cons_self
  simp only [behind] at strays
  refine ⟨broken, ?_, joined, strays.2.2 single⟩
  rcases escapes with missing | ⟨before, c, after, whole, -, same, marks⟩
  · exact absurd missing (by decide)
  · -- The escape is the one behind the quote, since it is reported there.
    have place : (size before : Int) = 1 := (congrArg Problem.offset same).symm
    have cut : before ++ '\\' :: c :: after = ['"'] ++ ['\\', 'q', '"'] := whole.symm
    obtain ⟨-, rest⟩ := append_inj_of_size cut (by rw [Int.ofNat_inj.1 place]; rfl)
    obtain rfl : c = 'q' := (List.cons.inj (List.cons.inj rest).2).1
    exact marks.2 rfl

/-- With a letter of two bytes the highlight of an escape goes on over the quote that ends the
literal, and that of a stray over the symbol behind it. -/
theorem highlights_beyond_wide_letter :
    let escape : Problem := ⟨1, 3, "unknown escape `\\é`"⟩
    let stray : Problem := ⟨1, 2, "invalid digit in number"⟩
    literal.run ['"', '\\', 'é', '"'] = .failure ⟨⟨5, false, true⟩, [escape]⟩ ∧
    ¬ escape.Marks ['"', '\\', 'é', '"'] ['\\', 'é'] ∧
    escape.Marks ['"', '\\', 'é', '"'] ['\\', 'é', '"'] ∧
    number.run ['1', 'é', ';'] = .failure ⟨.ofLength 3, [stray]⟩ ∧
    ¬ stray.Marks ['1', 'é', ';'] ['é'] ∧ stray.Marks ['1', 'é', ';'] ['é', ';'] := by
  intro escape stray
  refine ⟨by decide +kernel, ?_, ⟨['"'], [], rfl, rfl, rfl⟩, by decide +kernel, ?_,
    ⟨['1'], [], rfl, rfl, rfl⟩⟩
  · rintro ⟨-, -, -, -, characters⟩
    exact absurd characters (by decide)
  · rintro ⟨-, -, -, -, characters⟩
    exact absurd characters (by decide)

end Lexeme

end Lexing
