import Lexing.Proofs.Lexeme.Claims
import Lexing.Proofs.Text.Respelled

/-!
# Turns of respelt texts

Blanks are the only lexemes that take in line terminators, and comments and literals that are cut
short stop at them. A turn of a text whose line feeds are spelt in another way is the same turn, or
it is the blank that is spelt in that way. Only a literal with a backslash before a line feed would
make a difference: it takes in one character behind the backslash, and thus half of a terminator of
two.

## Main results

* `Literal.read_respell`, `Literal.divide_respell`: a literal is read to the same place
* `Lexeme.Turn.blank_or_respell`: a turn of a respelt text
-/

namespace Lexing

open Text Unicode

variable {ending text span rest : Text}

/-! ### Literals -/

namespace Literal

/-- No escape takes in a line feed. -/
theorem ne_feed_of_escape {c : Char} (respellable : Respellable ('\\' :: c :: text)) :
    c ≠ '\n' := by
  rintro rfl
  exact respellable.unescaped (List.prefix_append ['\\', '\n'] text).isInfix

theorem ne_feed_of_isPlain {c : Char} (plain : isPlain c = true) : c ≠ '\n' := by
  rintro rfl
  exact absurd plain (by decide)

/-- A literal has the same problems in a respelt text. -/
theorem read_respell (terminator : ending ∈ terminators) (respellable : Respellable text)
    (offset : Nat) : read offset (respell ending text) = read offset text := by
  induction text using reading_induction generalizing offset with
  | ended => rfl
  | slash => rfl
  | escape c text ih =>
    rw [respell_cons (by decide), respell_cons (ne_feed_of_escape respellable), read_escape,
      read_escape, ih respellable.tail.tail]
  | close text => rw [respell_cons (by decide), read_close, read_close]
  | stop c text breaking =>
    obtain ⟨d, more, spelt, also⟩ := exists_cons_respell terminator breaking text
    rw [spelt, read_stop offset more also, read_stop offset text breaking]
  | plain c text plain ih =>
    rw [respell_cons (ne_feed_of_isPlain plain), read_plain _ _ plain, read_plain _ _ plain,
      ih respellable.tail]

/-- A literal takes in the same characters of a respelt text, and leaves a respelt rest. -/
theorem divide_respell (terminator : ending ∈ terminators) (respellable : Respellable text) :
    divide (respell ending text) = ((divide text).1, respell ending (divide text).2) := by
  induction text using reading_induction with
  | ended => rfl
  | slash => rfl
  | escape c text ih =>
    rw [respell_cons (by decide), respell_cons (ne_feed_of_escape respellable), divide_escape,
      divide_escape, ih respellable.tail.tail]
  | close text => rw [respell_cons (by decide), divide_close, divide_close]
  | stop c text breaking =>
    obtain ⟨d, more, spelt, also⟩ := exists_cons_respell terminator breaking text
    rw [spelt, divide_stop more also, divide_stop text breaking, ← spelt]
  | plain c text plain ih =>
    rw [respell_cons (ne_feed_of_isPlain plain), divide_plain _ plain, divide_plain _ plain,
      ih respellable.tail]

/-- What a literal takes in has no line feed. -/
theorem not_mem_divide (respellable : Respellable text) : '\n' ∉ (divide text).1 := by
  induction text using reading_induction with
  | ended => simp [divide_nil]
  | slash => simp [divide_slash]
  | escape c text ih =>
    have other := ne_feed_of_escape respellable
    simpa [divide_escape, other.symm] using ih respellable.tail.tail
  | close text => simp [divide_close]
  | stop c text breaking => simp [divide_stop text breaking]
  | plain c text plain ih =>
    have other := ne_feed_of_isPlain plain
    simpa [divide_plain text plain, other.symm] using ih respellable.tail

end Literal

/-! ### Turns -/

namespace Lexeme.Turn

variable {verdict : Verdict}

/-- A turn is a blank, or it has no line feed and is the same before a respelt rest. -/
theorem blank_or_respell (turn : Turn span rest verdict) (terminator : ending ∈ terminators)
    (respellable : Respellable (span ++ rest)) :
    (IsFront isWhiteSpace span rest ∧ verdict = .accepted
      (((Success.skip (size span)).withMultiline (hasBreak span)).withTabs true)) ∨
    '\n' ∉ span ∧ Turn span (respell ending rest) verdict := by
  cases turn with
  | blank some front => exact .inl ⟨front, rfl⟩
  | @comment body rest front =>
    -- Where a line feed ends a comment, any terminator does.
    have stopped : IsFront (!isBreak ·) body (respell ending rest) :=
      front.respell terminator fun _ d breaking => by simp [breaking]
    exact .inr ⟨not_mem_of_forall (not_isBreak_of_mem_comment front), .comment stopped⟩
  | @literal body rest proper =>
    have quote : isBreak '"' = false := by decide
    have unbroken : hasBreak ('"' :: body ++ ['"']) = false := by
      simp [quote, proper.not_hasBreak]
    exact .inr ⟨not_mem_of_not_hasBreak unbroken, .literal proper⟩
  | @brokenLiteral text broken =>
    rw [List.cons_append, Literal.divide_append] at respellable
    have inside := Literal.not_mem_divide respellable.tail
    have spelt := Literal.read_respell terminator respellable.tail 1
    have divided := Literal.divide_respell terminator respellable.tail
    have same := @brokenLiteral (respell ending text) (by rw [spelt]; exact broken)
    rw [spelt, divided] at same
    exact .inr ⟨by simpa using inside, same⟩
  | number some front apart =>
    have plain := fun c inside => Name.not_isBreak_of_isPart (Name.isPart_of_isDigit
      (front.inside c inside))
    refine .inr ⟨not_mem_of_forall plain, .number some (front.respell terminator ?_)
      (forall_head_respell terminator apart ?_)⟩
    · intro _ d breaking
      exact Name.not_isDigit_of_not_isPart (Name.not_isPart_of_isBreak breaking)
    · intro _ d breaking
      exact Name.not_isStart_of_not_isPart (Name.not_isPart_of_isBreak breaking)
  | strayNumber some digit front joined =>
    have plain := fun c inside => Name.not_isBreak_of_isPart
      (isPart_of_mem_stray digit front.inside c inside)
    have stopped := front.respell terminator fun _ d => Name.not_isPart_of_isBreak
    exact .inr ⟨not_mem_of_forall plain, .strayNumber some digit stopped joined⟩
  | name start front =>
    have plain := fun c inside => Name.not_isBreak_of_isPart (front.inside c inside)
    have stopped := front.respell terminator fun _ d => Name.not_isPart_of_isBreak
    exact .inr ⟨not_mem_of_forall plain, .name start stopped⟩
  | @symbol found rest slashless first =>
    have member := List.mem_of_find?_eq_some first
    have plain := fun c inside => (Symbol.plain_of_mem member c inside).2
    have feedless : '\n' ∉ found.text := not_mem_of_forall plain
    -- No symbol takes in a break, so none comes in with another spelling.
    have starts : ∀ {piece : Text}, (∀ c ∈ piece, isBreak c = false) →
        piece <+: found.text ++ respell ending rest → piece <+: found.text ++ rest := by
      intro piece unbroken there
      rw [← respell_of_not_mem feedless ending, ← respell_append] at there
      exact prefix_of_prefix_respell terminator unbroken there
    have slash : isBreak '/' = false := by decide
    refine .inr ⟨feedless,
      .symbol (fun slashes => slashless (starts (by simpa using slash) slashes)) ?_⟩
    apply Symbol.find?_of_forall_prefix first (List.prefix_append _ _)
    intro s also there
    exact starts (fun c inside => (Symbol.plain_of_mem also c inside).2) there
  | @unexpected c rest dark quoteless digitless startless missing =>
    have other : c ≠ '\n' := by
      rintro rfl
      exact absurd dark (by decide)
    refine .inr ⟨by simpa using other.symm,
      .unexpected dark quoteless digitless startless fun s member there => ?_⟩
    rw [← respell_cons other] at there
    exact missing s member (prefix_of_prefix_respell terminator
      (fun c inside => (Symbol.plain_of_mem member c inside).2) there)

end Lexeme.Turn

end Lexing
