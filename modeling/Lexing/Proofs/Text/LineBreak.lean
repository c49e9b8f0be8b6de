import Lexing.Text.LineBreak

/-!
# Line breaks of texts put together

The breaks of two pieces add up, unless the first ends and the second starts with the two halves of
a pair. A cut between such halves is the only one that the count notices, and it is off by one break
at most: whether it is depends on how many breaking characters alternate on either side.

## Main definitions

* `Text.isPair`: two characters that break a line together
* `Text.Splits`: a cut falls between such characters

## Main results

* `Text.breaks_append_of_not_splits`: the breaks of two pieces add up
* `Text.breaks_append_le`, `Text.le_breaks_append`: how far off the sum can be
* `Text.breaks_le_append`: no text that follows takes a break away
* `Text.lastLine_append_of_not_hasBreak`: a piece without breaks goes on with the last line
-/

namespace Lexing.Text

/-- A line feed and a carriage return break one line together, in either order. -/
def isPair (c d : Char) : Bool := c == '\n' && d == '\r' || c == '\r' && d == '\n'

theorem isBreak_of_isPair {c d : Char} (pair : isPair c d = true) :
    isBreak c = true ∧ isBreak d = true := by
  simp only [isPair, isBreak, Bool.or_eq_true, Bool.and_eq_true, beq_iff_eq] at *
  rcases pair with ⟨rfl, rfl⟩ | ⟨rfl, rfl⟩ <;> simp

/-! ### The breaks of a text, character by character -/

@[simp] theorem breaks_nil : breaks [] = 0 := by simp [breaks]

theorem breaks_cons_of_not_isBreak {c : Char} (plain : isBreak c = false) (text : Text) :
    breaks (c :: text) = breaks text := by
  simp only [isBreak, Bool.or_eq_false_iff, beq_eq_false_iff_ne] at plain
  rw [breaks]
  all_goals simp_all

theorem breaks_of_isPair {c d : Char} (pair : isPair c d = true) (text : Text) :
    breaks (c :: d :: text) = breaks text + 1 := by
  simp only [isPair, Bool.or_eq_true, Bool.and_eq_true, beq_iff_eq] at pair
  rcases pair with ⟨rfl, rfl⟩ | ⟨rfl, rfl⟩ <;> rw [breaks]

/-- A breaking character whose partner does not follow is a break of its own. -/
theorem breaks_of_single {c : Char} {text : Text} (breaking : isBreak c = true)
    (single : ∀ d ∈ text.head?, isPair c d = false) :
    breaks (c :: text) = breaks text + 1 := by
  have apart : ∀ d rest, text = d :: rest → isPair c d = false := by
    rintro d rest rfl
    exact single d rfl
  simp only [isBreak, Bool.or_eq_true, beq_iff_eq] at breaking
  rcases breaking with rfl | rfl
  · rw [breaks]
    rintro rest rfl
    exact absurd (apart _ _ rfl) (by decide)
  · rw [breaks]
    rintro rest rfl
    exact absurd (apart _ _ rfl) (by decide)

/-- Breaks are read from left to right: past a plain character, past a pair, or past a breaking
character whose partner does not follow. -/
@[elab_as_elim]
theorem breaks_induction {motive : Text → Prop} (nil : motive [])
    (plain : ∀ c text, isBreak c = false → motive text → motive (c :: text))
    (pair : ∀ c d text, isPair c d = true → motive text → motive (c :: d :: text))
    (single : ∀ c text, isBreak c = true → (∀ d ∈ text.head?, isPair c d = false) →
      motive text → motive (c :: text)) : ∀ text, motive text
  | [] => nil
  | [c] => by
    cases breaking : isBreak c with
    | false => exact plain c [] breaking nil
    | true => exact single c [] breaking (by simp) nil
  | c :: d :: text => by
    have later := breaks_induction nil plain pair single (d :: text)
    cases breaking : isBreak c with
    | false => exact plain c _ breaking later
    | true =>
      cases joined : isPair c d with
      | false => exact single c _ breaking (by simpa using joined) later
      | true => exact pair c d text joined (breaks_induction nil plain pair single text)

/-- One more character in front takes no break away and adds at most one. -/
theorem breaks_cons_bounds (c : Char) (text : Text) :
    breaks text ≤ breaks (c :: text) ∧ breaks (c :: text) ≤ breaks text + 1 := by
  induction text generalizing c with
  | nil =>
    cases breaking : isBreak c with
    | false => simp [breaks_cons_of_not_isBreak breaking]
    | true =>
      rw [breaks_of_single breaking (by simp)]
      simp
  | cons d text ih =>
    cases breaking : isBreak c with
    | false =>
      rw [breaks_cons_of_not_isBreak breaking]
      omega
    | true =>
      cases joined : isPair c d with
      | false =>
        rw [breaks_of_single breaking (by simpa using joined)]
        omega
      | true =>
        -- The pair takes `d` along, so the rest is compared with and without it.
        have inner := ih d
        rw [breaks_of_isPair joined]
        omega

theorem breaks_le_breaks_cons (c : Char) (text : Text) : breaks text ≤ breaks (c :: text) :=
  (breaks_cons_bounds c text).1

theorem breaks_cons_le (c : Char) (text : Text) : breaks (c :: text) ≤ breaks text + 1 :=
  (breaks_cons_bounds c text).2

/-- More text in front takes no break away. -/
theorem breaks_le_breaks_append (a b : Text) : breaks b ≤ breaks (a ++ b) := by
  induction a with
  | nil => exact Nat.le_refl _
  | cons c a ih => exact Nat.le_trans ih (breaks_le_breaks_cons c _)

/-- A text has at most as many breaks as bytes. -/
theorem breaks_le_size (text : Text) : breaks text ≤ size text := by
  induction text with
  | nil => simp
  | cons c text ih =>
    have step := breaks_cons_le c text
    have positive := c.utf8Size_pos
    rw [size_cons]
    omega

/-! ### Breaks across a cut -/

/-- The cut between two pieces falls between the halves of a possible pair. -/
def Splits (a b : Text) : Prop := ∃ c ∈ a.getLast?, ∃ d ∈ b.head?, isPair c d = true

instance (a b : Text) : Decidable (Splits a b) :=
  decidable_of_iff (a.getLast?.any fun c => b.head?.any (isPair c)) (by
    simp [Splits, Option.any_eq_true])

theorem not_splits_nil_left (b : Text) : ¬ Splits [] b := by simp [Splits]

/-- Only a breaking character at the front of the second piece can belong to the first. -/
theorem not_splits_of_head {a b : Text} (plain : ∀ d ∈ b.head?, isBreak d = false) :
    ¬ Splits a b := by
  rintro ⟨c, -, d, front, pair⟩
  have breaking := (isBreak_of_isPair pair).2
  rw [plain d front] at breaking
  contradiction

/-- Only a breaking character at the end of the first piece can belong to the second. -/
theorem not_splits_of_last {a b : Text} (plain : ∀ c ∈ a.getLast?, isBreak c = false) :
    ¬ Splits a b := by
  rintro ⟨c, last, d, -, pair⟩
  have breaking := (isBreak_of_isPair pair).1
  rw [plain c last] at breaking
  contradiction

/-- A piece without breaking characters ends in no pair. -/
theorem not_splits_of_forall {a : Text} (plain : ∀ c ∈ a, isBreak c = false) (b : Text) :
    ¬ Splits a b :=
  not_splits_of_last fun c last => plain c (List.mem_of_getLast? last)

/-- A cut right after one character. -/
theorem splits_singleton_iff {c : Char} {b : Text} :
    Splits [c] b ↔ ∃ d ∈ b.head?, isPair c d = true := by
  simp [Splits]

/-- What stands further in front does not matter to a cut. -/
theorem splits_append_iff {a b c : Text} (more : b ≠ []) : Splits (a ++ b) c ↔ Splits b c := by
  have last := List.getLast?_eq_some_getLast more
  rw [Splits, Splits, List.getLast?_append, last, Option.some_or]

theorem splits_cons_iff {c : Char} {a b : Text} (more : a ≠ []) :
    Splits (c :: a) b ↔ Splits a b :=
  splits_append_iff (a := [c]) more

/-- What stands behind a piece does not matter to a cut before it. -/
theorem not_splits_of_append {a b c : Text} (whole : ¬ Splits a (b ++ c)) : ¬ Splits a b := by
  rintro ⟨e, last, d, first, pair⟩
  refine whole ⟨e, last, d, ?_, pair⟩
  simp [List.head?_append, Option.mem_def.1 first]

/-- A piece without breaking characters belongs to nothing in front of it. -/
theorem not_splits_of_not_hasBreak {b : Text} (unbroken : hasBreak b = false) (a : Text) :
    ¬ Splits a b := by
  refine not_splits_of_head fun d first => ?_
  simpa using List.any_eq_false.1 unbroken d (List.mem_of_mem_head? first)

/-- The breaks of two pieces add up where the cut leaves pairs alone. -/
theorem breaks_append_of_not_splits {a b : Text} (whole : ¬ Splits a b) :
    breaks (a ++ b) = breaks a + breaks b := by
  induction a using breaks_induction with
  | nil => simp
  -- What is cut behind a longer piece is cut behind its end.
  | plain c a unbroken ih =>
    have later := ih fun split => whole (by
      by_cases more : a = []
      · rw [more] at split
        exact absurd split (not_splits_nil_left b)
      · exact (splits_cons_iff more).2 split)
    rw [List.cons_append, breaks_cons_of_not_isBreak unbroken, later,
      breaks_cons_of_not_isBreak unbroken]
  | pair c d a joined ih =>
    have later := ih fun split => whole (by
      by_cases more : a = []
      · rw [more] at split
        exact absurd split (not_splits_nil_left b)
      · rw [splits_cons_iff (by simp), splits_cons_iff more]
        exact split)
    rw [List.cons_append, List.cons_append, breaks_of_isPair joined, later,
      breaks_of_isPair joined]
    omega
  | single c a breaking alone ih =>
    cases a with
    | nil =>
      -- The last character of the first piece stands at the cut.
      have apart : ∀ d ∈ b.head?, isPair c d = false := by
        intro d front
        rw [Bool.eq_false_iff]
        intro joined
        exact whole (splits_singleton_iff.2 ⟨d, front, joined⟩)
      rw [List.singleton_append, breaks_of_single breaking apart, breaks_of_single breaking alone,
        breaks_nil]
      omega
    | cons d a =>
      have later := ih fun split => whole ((splits_cons_iff (by simp)).2 split)
      rw [List.cons_append, breaks_of_single breaking (by simpa using alone), later,
        breaks_of_single breaking alone]
      omega

/-- However two pieces are put together, no break is added, and at most one is lost. -/
theorem breaks_append_bounds (a b : Text) :
    breaks (a ++ b) ≤ breaks a + breaks b ∧ breaks a + breaks b ≤ breaks (a ++ b) + 1 := by
  induction a using breaks_induction with
  | nil => simp
  | plain c a unbroken ih =>
    rw [List.cons_append, breaks_cons_of_not_isBreak unbroken, breaks_cons_of_not_isBreak unbroken]
    exact ih
  | pair c d a joined ih =>
    rw [List.cons_append, List.cons_append, breaks_of_isPair joined, breaks_of_isPair joined]
    omega
  | single c a breaking alone ih =>
    cases a with
    | nil =>
      have front := breaks_cons_bounds c b
      cases b with
      | nil => simp
      | cons d b =>
        rw [List.singleton_append, breaks_of_single breaking alone, breaks_nil]
        cases joined : isPair c d with
        | false =>
          rw [breaks_of_single breaking (by simpa using joined)]
          omega
        | true =>
          -- `d` belongs to `c` and is missing from the second piece.
          have taken := breaks_cons_bounds d b
          rw [breaks_of_isPair joined]
          omega
    | cons d a =>
      rw [List.cons_append, breaks_of_single breaking (by simpa using alone),
        breaks_of_single breaking alone]
      omega

theorem breaks_append_le (a b : Text) : breaks (a ++ b) ≤ breaks a + breaks b :=
  (breaks_append_bounds a b).1

theorem le_breaks_append (a b : Text) : breaks a + breaks b ≤ breaks (a ++ b) + 1 :=
  (breaks_append_bounds a b).2

/-- A piece without breaking characters adds no break. -/
theorem breaks_append_of_not_hasBreak {b : Text} (unbroken : hasBreak b = false) (a : Text) :
    breaks (a ++ b) = breaks a := by
  rw [breaks_append_of_not_splits (not_splits_of_not_hasBreak unbroken a),
    breaks_eq_zero_of_not_hasBreak unbroken, Nat.add_zero]

/-- A breaking character breaks a line, be it alone or as a half of a pair. -/
theorem breaks_pos {text : Text} (breaking : hasBreak text = true) : 0 < breaks text := by
  induction text using breaks_induction with
  | nil => contradiction
  | plain c text unbroken ih =>
    rw [hasBreak_cons, unbroken, Bool.false_or] at breaking
    rw [breaks_cons_of_not_isBreak unbroken]
    exact ih breaking
  | pair c d text joined =>
    rw [breaks_of_isPair joined]
    exact Nat.succ_pos _
  | single c text broken alone =>
    rw [breaks_of_single broken alone]
    exact Nat.succ_pos _

/-- Text that is put behind takes no break away: what it may take from a pair it has itself. -/
theorem breaks_le_append (a b : Text) : breaks a ≤ breaks (a ++ b) := by
  cases breaking : hasBreak b with
  | false => exact Nat.le_of_eq (breaks_append_of_not_hasBreak breaking a).symm
  | true =>
    have lost := le_breaks_append a b
    have some := breaks_pos breaking
    omega

/-- Breaks that are put behind are lost only where they complete a pair. -/
theorem splits_of_breaks_append_eq {a b : Text} (breaking : hasBreak b = true)
    (same : breaks (a ++ b) = breaks a) : Splits a b := by
  refine Decidable.byContradiction fun whole => ?_
  have sum := breaks_append_of_not_splits whole
  have some := breaks_pos breaking
  omega

/-! ### The last line -/

/-- A piece without breaks goes on with the last line. -/
theorem lastLine_append_of_not_hasBreak {b : Text} (unbroken : hasBreak b = false) (a : Text) :
    lastLine (a ++ b) = lastLine a ++ b := by
  have clean : ∀ c ∈ b.reverse, (!isBreak c) = true := fun c inside => by
    simpa using List.any_eq_false.1 unbroken c (List.mem_reverse.1 inside)
  rw [lastLine, List.reverse_append, List.takeWhile_append_of_pos clean, List.reverse_append,
    List.reverse_reverse]
  rfl

/-- The last line starts behind every breaking character. -/
theorem lastLine_cons_of_isBreak {c : Char} (breaking : isBreak c = true) (text : Text) :
    lastLine (c :: text) = lastLine text := by
  cases more : hasBreak text with
  | true => exact lastLine_append_of_hasBreak more [c]
  | false =>
    have alone : lastLine [c] = [] := by simp [lastLine, breaking]
    have joined := lastLine_append_of_not_hasBreak more [c]
    rw [alone, List.nil_append] at joined
    rw [lastLine_of_not_hasBreak more]
    exact joined

/-- The last line stands at the end of the text. -/
theorem lastLine_suffix (text : Text) : lastLine text <:+ text := by
  have front := List.takeWhile_prefix (l := text.reverse) (!isBreak ·)
  simpa [lastLine] using List.reverse_suffix.2 front

/-- The last line has no breaking character. -/
theorem hasBreak_lastLine (text : Text) : hasBreak (lastLine text) = false := by
  rw [lastLine, hasBreak, List.any_reverse, List.any_eq_false]
  intro c inside
  have clean : (!isBreak c) = true := List.all_eq_true.1 List.all_takeWhile c inside
  simpa using clean

/-- Nothing stands between a breaking character and a cut right behind it. -/
theorem lastLine_eq_nil_of_splits {a b : Text} (split : Splits a b) : lastLine a = [] := by
  obtain ⟨c, last, d, -, pair⟩ := split
  obtain ⟨front, rfl⟩ := List.getLast?_eq_some_iff.1 last
  have breaking := (isBreak_of_isPair pair).1
  rw [lastLine_append_of_hasBreak (by simp [breaking]), lastLine_cons_of_isBreak breaking]
  rfl

/-- What stands in front of the last line is empty or ends with a breaking character. -/
theorem exists_append_lastLine (text : Text) :
    ∃ front, text = front ++ lastLine text ∧ ∀ c ∈ front.getLast?, isBreak c = true := by
  refine ⟨(text.reverse.dropWhile (!isBreak ·)).reverse, ?_, fun c last => ?_⟩
  · rw [lastLine, ← List.reverse_append, List.takeWhile_append_dropWhile, List.reverse_reverse]
  · have stopped := List.head?_dropWhile_not (!isBreak ·) text.reverse
    rw [List.getLast?_reverse, Option.mem_def] at last
    rw [last] at stopped
    simpa using stopped

theorem size_lastLine_le (text : Text) : size (lastLine text) ≤ size text := by
  obtain ⟨front, whole⟩ := lastLine_suffix text
  have total := congrArg size whole
  rw [size_append] at total
  omega

end Lexing.Text
