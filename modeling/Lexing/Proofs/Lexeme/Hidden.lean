import Lexing.Proofs.Lexeme.Literal
import Lexing.Proofs.Text.LineBreak

/-!
# Line breaks that a literal hides

A backslash takes the next character with it even where that breaks the line, and a literal does not
announce that it holds a break. Such a break is missing from every later line, unless it is the
first half of a pair whose second half, which ends the literal, makes up for it.

## Main definitions

* `Literal.hidden`: the breaks that are missing behind a literal

## Main results

* `Literal.breaks_eq_hidden_add`: the breaks of a text are those hidden and those behind the literal
* `Literal.not_hasBreak_or_isBreak`: where nothing is missing, a break follows the literal or there
  was none in it
-/

namespace Lexing.Literal

open Text

/-- The breaks that the escapes of a literal take away, from its opening quote on. -/
def hiddenInside : Text → Nat
  | [] => 0
  | ['\\'] => 0
  -- The break is only missing as far as what is left of the text does not make up for it.
  | '\\' :: c :: text => breaks (c :: text) - breaks text + hiddenInside text
  | c :: text => if c = '"' ∨ isBreak c then 0 else hiddenInside text

/-- The breaks that are missing behind a literal at the front of a text. -/
def hidden : Text → Nat
  | '"' :: text => hiddenInside text
  | _ => 0

theorem hidden_of_head {text : Text} (quoteless : ∀ c ∈ text.head?, c ≠ '"') : hidden text = 0 := by
  unfold hidden
  split
  · exact absurd rfl (quoteless _ rfl)
  · rfl

section Steps

variable {c : Char} (text : Text)

theorem hiddenInside_escape :
    hiddenInside ('\\' :: c :: text) = breaks (c :: text) - breaks text + hiddenInside text := by
  rw [hiddenInside]

theorem hiddenInside_close : hiddenInside ('"' :: text) = 0 := by
  rw [hiddenInside]
  · rfl
  all_goals simp

theorem hiddenInside_stop (breaking : isBreak c = true) : hiddenInside (c :: text) = 0 := by
  rw [hiddenInside]
  · simp [breaking]
  all_goals simp [ne_slash_of_isBreak breaking]

theorem hiddenInside_plain (plain : isPlain c = true) :
    hiddenInside (c :: text) = hiddenInside text := by
  obtain ⟨backslash, quote, breaking⟩ := isPlain_iff.1 plain
  rw [hiddenInside]
  · simp [breaking, quote]
  all_goals simp [backslash]

end Steps

theorem not_isBreak_slash : isBreak '\\' = false := by decide

theorem not_isBreak_quote : isBreak '"' = false := by decide

/-- Every break of a text is hidden by the literal at its front, or stands behind the literal. -/
theorem breaks_eq_hidden_add (text : Text) :
    breaks text = hiddenInside text + breaks (divide text).2 := by
  induction text using reading_induction with
  | ended => rfl
  | slash => simp [divide_slash, hiddenInside, breaks_cons_of_not_isBreak not_isBreak_slash]
  | escape c text ih =>
    -- What the escape takes away, and what is hidden behind it, add up to the breaks from it on.
    have front := breaks_le_breaks_cons c text
    rw [breaks_cons_of_not_isBreak not_isBreak_slash, hiddenInside_escape, divide_escape]
    dsimp only
    omega
  | close text =>
    rw [breaks_cons_of_not_isBreak not_isBreak_quote, hiddenInside_close, divide_close,
      Nat.zero_add]
  | stop c text breaking =>
    rw [hiddenInside_stop text breaking, divide_stop text breaking, Nat.zero_add]
  | plain c text plain ih =>
    rw [breaks_cons_of_not_isBreak (isPlain_iff.1 plain).2.2, hiddenInside_plain text plain,
      divide_plain text plain]
    exact ih

/-- Two escaped line feeds are both missing, a carriage return escaped before one is not. -/
example :
    hidden ['"', '\\', '\n', '\\', '\n', '"'] = 2 ∧ hidden ['"', '\\', '\r', '\n', '"'] = 0 := by
  decide

/-- A breaking character that adds no break of its own stands before its partner. -/
theorem isBreak_of_breaks_cons_eq {c : Char} {text : Text} (breaking : isBreak c = true)
    (same : breaks (c :: text) = breaks text) : ∃ d ∈ text.head?, isBreak d = true := by
  cases text with
  | nil =>
    rw [breaks_of_single breaking (by simp)] at same
    omega
  | cons d text =>
    cases joined : isPair c d with
    | true => exact ⟨d, rfl, (isBreak_of_isPair joined).2⟩
    | false =>
      rw [breaks_of_single breaking (by simpa using joined)] at same
      omega

/-- Where nothing is missing behind a literal, it has no break in it or a break follows it. -/
theorem not_hasBreak_or_isBreak {text : Text} (none : hiddenInside text = 0) :
    hasBreak (divide text).1 = false ∨ ∃ d ∈ (divide text).2.head?, isBreak d = true := by
  induction text using reading_induction with
  | ended => exact .inl rfl
  | slash => exact .inl rfl
  | escape c text ih =>
    rw [hiddenInside_escape] at none
    rw [divide_escape]
    cases breaking : isBreak c with
    | true =>
      have front := breaks_le_breaks_cons c text
      have same : breaks (c :: text) = breaks text := by omega
      obtain ⟨d, first, partner⟩ := isBreak_of_breaks_cons_eq breaking same
      obtain ⟨rest, rfl⟩ := List.head?_eq_some_iff.1 first
      -- The partner stands right behind the escape and ends the literal there.
      rw [divide_stop rest partner]
      exact .inr ⟨d, rfl, partner⟩
    | false =>
      -- Without a break in the escape, the rest decides.
      rcases ih (by omega) with unbroken | follows
      · exact .inl (by simp [not_isBreak_slash, breaking, unbroken])
      · exact .inr follows
  | close text =>
    rw [divide_close]
    exact .inl (by simp [not_isBreak_quote])
  | stop c text breaking =>
    rw [divide_stop text breaking]
    exact .inl rfl
  | plain c text plain ih =>
    rw [hiddenInside_plain text plain] at none
    rw [divide_plain text plain]
    rcases ih none with unbroken | follows
    · exact .inl (by simp [(isPlain_iff.1 plain).2.2, unbroken])
    · exact .inr follows

end Lexing.Literal
