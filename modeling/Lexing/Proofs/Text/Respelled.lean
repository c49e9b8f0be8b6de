import Lexing.Proofs.Text.Front
import Lexing.Proofs.Text.LineBreak

/-!
# Texts with another line terminator

Four spellings end a line: a line feed, a carriage return, and the two together in either order. A
text that ends its lines with line feeds only may be respelt with any of these. It has as many
breaks then, and its last line is the same. Terminators that come to stand next to each other do not
pair up in a new way, since they are all spelt alike.

## Main definitions

* `Text.terminators`: the spellings of a line terminator
* `Text.respell`: a text with another spelling for its line feeds
* `Text.Respellable`: texts in which that makes no difference to a literal

## Main results

* `Text.size_respell`: how many bytes are added
* `Text.breaks_respell`, `Text.lastLine_respell`: the lines stay the same
* `Text.forall_head_respell`, `Text.prefix_of_prefix_respell`: what stands at the front of a respelt
  text
-/

namespace Lexing.Text

/-- The spellings of a line terminator. -/
def terminators : List Text := [['\n'], ['\r'], ['\r', '\n'], ['\n', '\r']]

/-- The text in which `ending` stands for each line feed. -/
def respell (ending text : Text) : Text := text.flatMap fun c => if c = '\n' then ending else [c]

@[simp] theorem respell_nil (ending : Text) : respell ending [] = [] := rfl

theorem respell_feed (ending text : Text) :
    respell ending ('\n' :: text) = ending ++ respell ending text := by
  simp [respell]

theorem respell_cons {c : Char} (other : c ≠ '\n') (ending text : Text) :
    respell ending (c :: text) = c :: respell ending text := by
  simp [respell, other]

@[simp] theorem respell_append (ending a b : Text) :
    respell ending (a ++ b) = respell ending a ++ respell ending b := List.flatMap_append

/-- A text goes on with a line feed or with another character. -/
@[elab_as_elim]
theorem feed_induction {motive : Text → Prop} (nil : motive [])
    (feed : ∀ text, motive text → motive ('\n' :: text))
    (other : ∀ c text, c ≠ '\n' → motive text → motive (c :: text)) (text : Text) :
    motive text := by
  induction text with
  | nil => exact nil
  | cons c text ih =>
    by_cases line_feed : c = '\n'
    · rw [line_feed]
      exact feed text ih
    · exact other c text line_feed ih

/-- Without line feeds there is nothing to respell. -/
theorem respell_of_not_mem {text : Text} (feedless : '\n' ∉ text) (ending : Text) :
    respell ending text = text := by
  induction text with
  | nil => rfl
  | cons c text ih =>
    obtain ⟨here, there⟩ := not_or.1 (mt List.mem_cons.2 feedless)
    rw [respell_cons (Ne.symm here), ih there]

/-- A text without breaking characters has no line feed. -/
theorem not_mem_of_not_hasBreak {text : Text} (unbroken : hasBreak text = false) : '\n' ∉ text := by
  intro inside
  have plain := List.any_eq_false.1 unbroken _ inside
  exact plain (by decide)

theorem not_mem_of_forall {text : Text} (plain : ∀ c ∈ text, isBreak c = false) : '\n' ∉ text :=
  not_mem_of_not_hasBreak (not_hasBreak_of_forall plain)

/-- A text ends its lines with line feeds only, and none of them stands behind a backslash, where a
literal would take in the first character of its new spelling and no more. -/
structure Respellable (text : Text) : Prop where
  returnless : '\r' ∉ text
  unescaped : ¬ ['\\', '\n'] <:+: text

/-- What is left of a text can be respelt if all of it can. -/
theorem Respellable.rest {front rest : Text} (respellable : Respellable (front ++ rest)) :
    Respellable rest where
  returnless := fun inside => respellable.returnless (List.mem_append_right _ inside)
  unescaped := fun inside => respellable.unescaped (inside.trans (List.suffix_append ..).isInfix)

theorem Respellable.tail {c : Char} {text : Text} (respellable : Respellable (c :: text)) :
    Respellable text :=
  @Respellable.rest [c] text respellable

variable {ending text piece : Text}

/-! ### Terminators -/

/-- Terminators are made up of breaking characters. -/
theorem isBreak_of_mem_terminator (terminator : ending ∈ terminators) :
    ∀ c ∈ ending, isBreak c = true := by
  have each : terminators.all (·.all isBreak) = true := by decide
  exact List.all_eq_true.1 (List.all_eq_true.1 each ending terminator)

theorem exists_cons_of_terminator (terminator : ending ∈ terminators) :
    ∃ c more, ending = c :: more ∧ isBreak c = true := by
  have some : ∀ ending ∈ terminators, ending ≠ [] := by decide
  obtain ⟨c, more, rfl⟩ := List.exists_cons_of_ne_nil (some ending terminator)
  exact ⟨c, more, rfl, isBreak_of_mem_terminator terminator c List.mem_cons_self⟩

/-- A terminator is one break, where what follows it starts with no break or with the same. -/
theorem breaks_terminator_append (terminator : ending ∈ terminators)
    (alike : ∀ d ∈ text.head?, isBreak d = true → d ∈ ending.head?) :
    breaks (ending ++ text) = breaks text + 1 := by
  -- A terminator of one character has no partner in itself.
  have single : ∀ c, isBreak c = true → [c] = ending → breaks (c :: text) = breaks text + 1 := by
    intro c breaking same
    apply breaks_of_single breaking
    intro d first
    rw [Bool.eq_false_iff]
    intro pair
    have follows := alike d first (isBreak_of_isPair pair).2
    rw [← same] at follows
    obtain rfl : c = d := by simpa using follows
    simp only [isBreak, Bool.or_eq_true, beq_iff_eq] at breaking
    rcases breaking with rfl | rfl <;> exact absurd pair (by decide)
  simp only [terminators, List.mem_cons, List.not_mem_nil, or_false] at terminator
  rcases terminator with rfl | rfl | rfl | rfl
  · exact single '\n' (by decide) rfl
  · exact single '\r' (by decide) rfl
  · exact breaks_of_isPair (by decide) text
  · exact breaks_of_isPair (by decide) text

/-- Behind breaking characters the last line starts anew. -/
theorem lastLine_append_of_forall {a : Text} (breaking : ∀ c ∈ a, isBreak c = true) (b : Text) :
    lastLine (a ++ b) = lastLine b := by
  induction a with
  | nil => rfl
  | cons c a ih =>
    obtain ⟨here, there⟩ := List.forall_mem_cons.1 breaking
    rw [List.cons_append, lastLine_cons_of_isBreak here, ih there]

/-! ### The front of a respelt text -/

/-- A respelt text starts with a terminator, or as the text does. -/
theorem mem_head_respell {d : Char} (terminator : ending ∈ terminators)
    (first : d ∈ (respell ending text).head?) :
    d ∈ ending.head? ∧ '\n' ∈ text.head? ∨ d ∈ text.head? ∧ d ≠ '\n' := by
  cases text with
  | nil => simp at first
  | cons c text =>
    by_cases line_feed : c = '\n'
    · rw [line_feed, respell_feed] at first
      obtain ⟨e, more, rfl, -⟩ := exists_cons_of_terminator terminator
      exact .inl ⟨first, by simp [line_feed]⟩
    · rw [respell_cons line_feed] at first
      obtain rfl : c = d := Option.some.inj first
      exact .inr ⟨rfl, line_feed⟩

/-- Where a text starts with a break, so does a respelt one. -/
theorem exists_cons_respell {c : Char} (terminator : ending ∈ terminators)
    (breaking : isBreak c = true) (text : Text) :
    ∃ d more, respell ending (c :: text) = d :: more ∧ isBreak d = true := by
  by_cases line_feed : c = '\n'
  · obtain ⟨d, more, rfl, broken⟩ := exists_cons_of_terminator terminator
    rw [line_feed, respell_feed]
    exact ⟨d, _, List.cons_append, broken⟩
  · exact ⟨c, _, respell_cons line_feed ending text, breaking⟩

/-- What a text starts with, a respelt text starts with, if any breaking character may do for
another. -/
theorem forall_head_respell {P : Char → Prop} (terminator : ending ∈ terminators)
    (first : ∀ c ∈ text.head?, P c) (breaking : P '\n' → ∀ d, isBreak d = true → P d) :
    ∀ d ∈ (respell ending text).head?, P d := by
  intro d there
  rcases mem_head_respell terminator there with ⟨inside, line_feed⟩ | ⟨same, -⟩
  · have broken := isBreak_of_mem_terminator terminator d (List.mem_of_mem_head? inside)
    exact breaking (first _ line_feed) d broken
  · exact first d same

/-- A front stays one when what follows it is respelt, if any breaking character stops it as a line
feed does. -/
theorem IsFront.respell {kind : Char → Bool} {front rest : Text} (isFront : IsFront kind front rest)
    (terminator : ending ∈ terminators)
    (breaking : kind '\n' = false → ∀ d, isBreak d = true → kind d = false) :
    IsFront kind front (respell ending rest) :=
  ⟨isFront.inside, forall_head_respell terminator isFront.stops breaking⟩

/-- A piece without breaking characters that starts a respelt text starts the text. -/
theorem prefix_of_prefix_respell (terminator : ending ∈ terminators)
    (plain : ∀ c ∈ piece, isBreak c = false) (there : piece <+: respell ending text) :
    piece <+: text := by
  induction piece generalizing text with
  | nil => exact List.nil_prefix
  | cons c piece ih =>
    obtain ⟨here, others⟩ := List.forall_mem_cons.1 plain
    cases text with
    | nil => simp at there
    | cons d text =>
      by_cases line_feed : d = '\n'
      · -- The piece does not start with a terminator.
        obtain ⟨e, more, rfl, breaking⟩ := exists_cons_of_terminator terminator
        rw [line_feed, respell_feed, List.cons_append, List.cons_prefix_cons] at there
        rw [← there.1, here] at breaking
        contradiction
      · rw [respell_cons line_feed, List.cons_prefix_cons] at there
        exact List.cons_prefix_cons.2 ⟨there.1, ih others there.2⟩

/-! ### What respelling changes, and what not -/

/-- All characters of a respelt text are of a kind that those of the text and all breaking
characters are of. -/
theorem forall_mem_respell {P : Char → Prop} (terminator : ending ∈ terminators)
    (inside : ∀ c ∈ text, P c) (breaking : ∀ c, isBreak c = true → P c) :
    ∀ c ∈ respell ending text, P c := by
  intro d there
  obtain ⟨c, member, spelt⟩ := List.mem_flatMap.1 there
  split at spelt
  · exact breaking d (isBreak_of_mem_terminator terminator d spelt)
  · rw [List.mem_singleton.1 spelt]
    exact inside c member

/-- Each line feed adds as many bytes as its new spelling has more. -/
theorem size_respell (terminator : ending ∈ terminators) (text : Text) :
    size (respell ending text) = size text + (size ending - 1) * text.count '\n' := by
  have some_bytes : 0 < size ending := by
    obtain ⟨c, more, rfl, -⟩ := exists_cons_of_terminator terminator
    have positive := c.utf8Size_pos
    rw [size_cons]
    omega
  have feed : Char.utf8Size '\n' = 1 := rfl
  induction text using feed_induction with
  | nil => simp
  | feed text ih =>
    rw [respell_feed, size_append, ih, List.count_cons_self, size_cons, feed, Nat.mul_succ]
    omega
  | other d text other ih =>
    rw [respell_cons other, size_cons, ih, List.count_cons_of_ne other, size_cons, Nat.add_assoc]

/-- No text is lost altogether. -/
theorem respell_ne_nil (terminator : ending ∈ terminators) (some : text ≠ []) :
    respell ending text ≠ [] := by
  intro none
  have total := size_respell terminator text
  have some_bytes : size text ≠ 0 := fun empty => some (size_eq_zero_iff.1 empty)
  rw [none, size_nil] at total
  omega

theorem hasBreak_respell (terminator : ending ∈ terminators) (text : Text) :
    hasBreak (respell ending text) = hasBreak text := by
  obtain ⟨e, more, rfl, breaking⟩ := exists_cons_of_terminator terminator
  induction text using feed_induction with
  | nil => rfl
  | feed text ih =>
    have feed : isBreak '\n' = true := by decide
    simp [respell_feed, breaking, feed]
  | other c text other ih => rw [respell_cons other, hasBreak_cons, hasBreak_cons, ih]

/-- A text without carriage returns has as many breaks however it is respelt. -/
theorem breaks_respell (terminator : ending ∈ terminators) (returnless : '\r' ∉ text) :
    breaks (respell ending text) = breaks text := by
  have only_feed : ∀ {c}, isBreak c = true → c ≠ '\r' → c = '\n' := by
    intro c breaking other
    simpa [isBreak, other] using breaking
  induction text using feed_induction with
  | nil => rfl
  | feed text ih =>
    have later : '\r' ∉ text := fun inside => returnless (List.mem_cons_of_mem _ inside)
    have other_than : ∀ d ∈ text.head?, d ≠ '\r' := by
      rintro d first rfl
      exact later (List.mem_of_mem_head? first)
    -- What follows a terminator is the same again, or no break.
    have feed : breaks (['\n'] ++ text) = breaks text + 1 :=
      breaks_terminator_append (by decide) fun d first breaking =>
        Option.mem_some_iff.2 (only_feed breaking (other_than d first)).symm
    rw [respell_feed, breaks_terminator_append terminator, ih later]
    · exact feed.symm
    · intro d first breaking
      rcases mem_head_respell terminator first with ⟨same, -⟩ | ⟨there, other⟩
      · exact same
      · exact absurd (only_feed breaking (other_than d there)) other
  | other c text other ih =>
    obtain ⟨here, there⟩ := not_or.1 (mt List.mem_cons.2 returnless)
    have plain : isBreak c = false := by
      rw [Bool.eq_false_iff]
      intro breaking
      exact other (only_feed breaking (Ne.symm here))
    rw [respell_cons other, breaks_cons_of_not_isBreak plain, breaks_cons_of_not_isBreak plain,
      ih there]

/-- The last line has no terminator that could be respelt. -/
theorem lastLine_respell (terminator : ending ∈ terminators) (text : Text) :
    lastLine (respell ending text) = lastLine text := by
  induction text using feed_induction with
  | nil => rfl
  | feed text ih =>
    rw [respell_feed, lastLine_append_of_forall (isBreak_of_mem_terminator terminator), ih,
      lastLine_cons_of_isBreak (by decide)]
  | other c text other ih =>
    cases more : hasBreak text with
    | true =>
      -- The last line lies behind a break further on.
      have also : hasBreak (respell ending text) = true := by
        rw [hasBreak_respell terminator, more]
      rw [respell_cons other, ← List.singleton_append, lastLine_append_of_hasBreak also, ih,
        ← List.singleton_append, lastLine_append_of_hasBreak more]
    | false =>
      rw [respell_cons other, respell_of_not_mem (not_mem_of_not_hasBreak more)]

end Lexing.Text
