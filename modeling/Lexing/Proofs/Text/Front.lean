import Lexing.Text.LineBreak

/-!
# The front of a text in one class

Most lexemes are as many characters of one class as stand at the front of a text. Such a front is
given by two facts: all its characters are of the class, and the text does not go on with another
one.

## Main definitions

* `Text.IsFront`: a piece is all that stands in front of the rest in one class

## Main results

* `Text.isFront_takeWhile`, `Text.IsFront.takeWhile_eq`: the fronts of a text are those that
  `List.takeWhile` takes
* `Text.exists_isFront`, `Text.exists_isFront_cons`: every text has a front of every class, and one
  that is not empty where its first character is of the class
* `Text.IsFront.append`, `Text.prefix_of_prefix_append`: what stands at the front of a text stays
  there when the text goes on
-/

namespace Lexing.Text

/-- What a text starts with is its first character. -/
theorem forall_head_cons {P : Char → Prop} {c : Char} (holds : P c) (text : Text) :
    ∀ d ∈ (c :: text).head?, P d := by
  intro d first
  obtain rfl : c = d := Option.some.inj first
  exact holds

theorem forall_head_ne {c other : Char} (different : c ≠ other) (text : Text) :
    ∀ d ∈ (c :: text).head?, d ≠ other := by simpa using different

/-- Two pieces start with what the first of them starts with, or the second if the first is empty.
-/
theorem forall_head_append {P : Char → Prop} {a b : Text} (first : ∀ c ∈ a.head?, P c)
    (second : a = [] → ∀ c ∈ b.head?, P c) : ∀ c ∈ (a ++ b).head?, P c := by
  cases a with
  | nil => exact second rfl
  | cons c a => exact first

/-- The first of two pieces starts with what the text starts with, unless it is empty. -/
theorem head_of_cons_eq_append {c : Char} {text piece rest : Text}
    (whole : c :: text = piece ++ rest) (some : piece ≠ []) : piece.head? = .some c := by
  obtain ⟨d, more, rfl⟩ := List.exists_cons_of_ne_nil some
  rw [(List.cons.inj whole).1]
  rfl

/-- A piece consists of characters of one class, and what is left does not start with another. -/
structure IsFront (kind : Char → Bool) (front rest : Text) : Prop where
  inside : ∀ c ∈ front, kind c = true
  stops : ∀ c ∈ rest.head?, kind c = false

variable {kind : Char → Bool} {front rest : Text}

/-- Taking characters of a class takes a front. -/
theorem isFront_takeWhile (kind : Char → Bool) (text : Text) :
    IsFront kind (text.takeWhile kind) (text.dropWhile kind) where
  inside := List.all_eq_true.1 List.all_takeWhile
  stops := by
    intro c first
    have stopped := List.head?_dropWhile_not kind text
    rw [Option.mem_def.1 first] at stopped
    simpa using stopped

/-- Every text starts with a front of every class, if only an empty one. -/
theorem exists_isFront (kind : Char → Bool) (text : Text) :
    ∃ front rest, text = front ++ rest ∧ IsFront kind front rest :=
  ⟨_, _, List.takeWhile_append_dropWhile.symm, isFront_takeWhile kind text⟩

/-- The front of a text takes its first character along if that is of the class. -/
theorem exists_isFront_cons {c : Char} (inside : kind c = true) (text : Text) :
    ∃ more rest, text = more ++ rest ∧ IsFront kind (c :: more) rest := by
  have front := isFront_takeWhile kind (c :: text)
  rw [List.takeWhile_cons_of_pos inside, List.dropWhile_cons_of_pos inside] at front
  exact ⟨_, _, List.takeWhile_append_dropWhile.symm, front⟩

namespace IsFront

theorem takeWhile_eq (isFront : IsFront kind front rest) :
    (front ++ rest).takeWhile kind = front := by
  rw [List.takeWhile_append_of_pos isFront.inside]
  cases rest with
  | nil => simp
  | cons c rest => simp [isFront.stops c rfl]

theorem dropWhile_eq (isFront : IsFront kind front rest) :
    (front ++ rest).dropWhile kind = rest := by
  rw [List.dropWhile_append_of_pos isFront.inside]
  cases rest with
  | nil => simp
  | cons c rest => simp [isFront.stops c rfl]

/-- Nothing of a class is taken where the text does not start with it. -/
theorem nil (stops : ∀ c ∈ rest.head?, kind c = false) : IsFront kind [] rest :=
  ⟨by simp, stops⟩

/-- A front stays one when the text goes on, if only not with its class. -/
theorem append (isFront : IsFront kind front rest) {more : Text}
    (stops : rest = [] → ∀ c ∈ more.head?, kind c = false) : IsFront kind front (rest ++ more) :=
  ⟨isFront.inside, forall_head_append isFront.stops stops⟩

end IsFront

/-- A piece without characters of a class that starts a text has ended where the class comes in. -/
theorem prefix_of_prefix_append {piece text more : Text} (outside : ∀ c ∈ piece, kind c = false)
    (comes : ∀ c ∈ more.head?, kind c = true) (there : piece <+: text ++ more) :
    piece <+: text := by
  obtain ⟨rest, whole⟩ := there
  rcases List.append_eq_append_iff.1 whole with ⟨left, rfl, -⟩ | ⟨beyond, shape, split⟩
  · exact List.prefix_append piece left
  · cases beyond with
    | nil => simp [shape]
    | cons c beyond =>
      -- The piece would reach into the class.
      have inside : kind c = true := by
        rw [split] at comes
        exact comes c rfl
      rw [outside c (by simp [shape])] at inside
      contradiction

/-- A piece whose characters are all outside a class that has the breaking characters has no break.
-/
theorem not_hasBreak_of_forall {piece : Text} (plain : ∀ c ∈ piece, isBreak c = false) :
    hasBreak piece = false := by
  simpa [hasBreak] using plain

end Lexing.Text
