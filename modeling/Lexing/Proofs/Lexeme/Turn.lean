import Lexing.Proofs.Lexeme.Outcomes
import Lexing.Round

/-!
# The turns of the language

What the recognizers of the language decide together, at the front of any text that is not empty:
one case for each lexeme, for each lexeme that goes wrong, and for a character that starts none.
Whoever reasons about rounds of the language goes through these cases and never looks at a
recognizer.

## Main definitions

* `Lexeme.Turn`: the span that a round passes, what it leaves, and the verdict

## Main results

* `Lexeme.judge_of_turn`: the recognizers of the language decide each turn as it says
* `Lexeme.exists_turn`: every text that is not empty starts with a turn
-/

namespace Lexing

open Text Unicode

/-! ### Verdicts, recognizer by recognizer -/

namespace Recognizer

variable {text : Text} {deepest : Option Failure} {recognizer : Recognizer}
  (others : List Recognizer)

/-- The first success decides. -/
theorem judgeFrom_of_success {success : Success} (ran : recognizer.run text = .success success) :
    judgeFrom text deepest (recognizer :: others) = .accepted success := by
  rw [judgeFrom, ran]

/-- A recognizer that has no business with the text may be left out. -/
theorem judgeFrom_of_none (ran : recognizer.run text = .none) :
    judgeFrom text deepest (recognizer :: others) = judgeFrom text deepest others := by
  rw [judgeFrom, ran, Outcome.none]
  simp [further]

/-- A first failure that has something to say is kept. -/
theorem judgeFrom_of_failure {failure : Failure} (ran : recognizer.run text = .failure failure)
    (telling : failure ≠ .none) :
    judgeFrom text none (recognizer :: others) = judgeFrom text (some failure) others := by
  rw [judgeFrom, ran]
  simp [further, telling]

end Recognizer

namespace Lexeme

/-- The turns of the language: a span, what it leaves, and the verdict that decides them. -/
inductive Turn : Text → Text → Verdict → Prop
  | blank {space rest : Text} (some : space ≠ []) (front : IsFront isWhiteSpace space rest) :
      Turn space rest (.accepted
        (((Success.skip (size space)).withMultiline (hasBreak space)).withTabs true))
  | comment {body rest : Text} (front : IsFront (!isBreak ·) body rest) :
      Turn ('/' :: '/' :: body) rest (.accepted
        ((Success.skip (size ('/' :: '/' :: body))).withTabs true))
  | literal {body rest : Text} (proper : Literal.Body body) :
      Turn ('"' :: body ++ ['"']) rest (.accepted
        ((Success.tagged (size ('"' :: body ++ ['"'])) ["string"]).withTabs true))
  /-- A literal that has problems is passed as far as it was read. -/
  | brokenLiteral {text : Text} (broken : (Literal.read 1 text).problems ≠ []) :
      Turn ('"' :: (Literal.divide text).1) (Literal.divide text).2 (.rejected
        ⟨(Claim.ofLength (size ('"' :: (Literal.divide text).1))).withTabs true,
          (Literal.read 1 text).problems⟩)
  | number {digits rest : Text} (some : digits ≠ []) (front : IsFront Char.isDigit digits rest)
      (apart : ∀ c ∈ rest.head?, Name.isStart c = false) :
      Turn digits rest (.accepted (Success.tagged (size digits) ["number"]))
  /-- Digits that run on into a name are passed together with it. -/
  | strayNumber {digits stray rest : Text} (some : digits ≠ [])
      (digit : ∀ c ∈ digits, c.isDigit = true) (front : IsFront Name.isPart stray rest)
      (joined : ∃ c ∈ stray.head?, Name.isStart c = true) :
      Turn (digits ++ stray) rest (.rejected
        ((Failure.single (size (digits ++ stray)) (size digits)
          "invalid digit in number").withHighlight (size stray)))
  | name {c : Char} {more rest : Text} (start : Name.isStart c = true)
      (front : IsFront Name.isPart (c :: more) rest) :
      Turn (c :: more) rest (.accepted (Success.tagged (size (c :: more)) ["identifier"]))
  | symbol {found : Symbol} {rest : Text} (slashless : ¬ ['/', '/'] <+: found.text ++ rest)
      (first : Symbol.all.find? (·.text.isPrefixOf (found.text ++ rest)) = some found) :
      Turn found.text rest (.accepted
        (Success.tagged (size found.text) ["punctuation", found.kind.tag]))
  /-- A character that starts no lexeme is passed alone. -/
  | unexpected {c : Char} {rest : Text} (dark : isWhiteSpace c = false) (quoteless : c ≠ '"')
      (digitless : c.isDigit = false) (startless : Name.isStart c = false)
      (missing : ∀ s ∈ Symbol.all, ¬ s.text <+: c :: rest) :
      Turn [c] rest .unexpected

/-- Every turn passes something. -/
theorem Turn.span_ne_nil {span rest : Text} {verdict : Verdict} (turn : Turn span rest verdict) :
    span ≠ [] := by
  cases turn with
  | blank some front => exact some
  | number some front apart => exact some
  | strayNumber some digit front joined => simp [some]
  | symbol slashless first => exact Symbol.text_ne_nil (List.mem_of_find?_eq_some first)
  | comment | literal | brokenLiteral | name | unexpected => simp

/-! ### What decides each turn -/

section Judge

variable {text : Text}

/-- Where a text is neither blank nor a comment, the other recognizers decide. -/
theorem judge_standard (dark : ∀ c ∈ text.head?, isWhiteSpace c = false)
    (slashless : ¬ ['/', '/'] <+: text) :
    Recognizer.judge standard text =
      Recognizer.judgeFrom text none
        [Lexeme.literal, Lexeme.number, Lexeme.name, Lexeme.symbol] := by
  rw [Recognizer.judge, standard, Recognizer.judgeFrom_of_none _ (blank_run_eq_none dark),
    Recognizer.judgeFrom_of_none _ (comment_run_eq_none slashless)]

/-- A text that starts like a number or a name is left to the recognizers of these. -/
theorem judge_standard_of_isPart {c : Char} (inside : Name.isPart c = true) (text : Text) :
    Recognizer.judge standard (c :: text) =
      Recognizer.judgeFrom (c :: text) none [Lexeme.number, Lexeme.name, Lexeme.symbol] := by
  have dark : ∀ d ∈ (c :: text).head?, isWhiteSpace d = false :=
    forall_head_cons (Name.not_isWhiteSpace_of_isPart inside) text
  have quoteless := forall_head_ne (Name.ne_quote_of_isPart inside) text
  rw [judge_standard dark (not_slashes_of_head (Name.ne_slash_of_isPart inside) text),
    Recognizer.judgeFrom_of_none _ (literal_run_eq_none quoteless)]

/-- A text that starts with a quote is left to the recognizer of literals and those after it. -/
theorem judge_standard_of_quote (text : Text) : Recognizer.judge standard ('"' :: text) =
    Recognizer.judgeFrom ('"' :: text) none
      [Lexeme.literal, Lexeme.number, Lexeme.name, Lexeme.symbol] :=
  judge_standard (forall_head_cons (by decide) text) (not_slashes_of_head (by decide) text)

/-- Where a number or a literal fails, its failure is kept: no recognizer after it has anything to
say about a digit or a quote. -/
theorem judgeFrom_name_symbol {c : Char} (startless : Name.isStart c = false)
    (other : Name.isPart c = true ∨ c = '"') (text : Text) (failure : Failure) :
    Recognizer.judgeFrom (c :: text) (some failure) [Lexeme.name, Lexeme.symbol] =
      .rejected failure := by
  have missing := not_symbol_of_head text (other.imp_right .inl)
  rw [Recognizer.judgeFrom_of_none _ (name_run_eq_none (forall_head_cons startless text)),
    Recognizer.judgeFrom_of_none _ (symbol_run_eq_none missing)]
  rfl

/-- The recognizers of the language decide each turn as it says. -/
theorem judge_of_turn {span rest : Text} {verdict : Verdict} (turn : Turn span rest verdict) :
    Recognizer.judge standard (span ++ rest) = verdict := by
  cases turn with
  | blank some front =>
    rw [Recognizer.judge, standard, Recognizer.judgeFrom_of_success _ (blank_run some front)]
  | @comment body rest front =>
    have dark : ∀ d ∈ ('/' :: '/' :: body ++ rest).head?, isWhiteSpace d = false :=
      forall_head_cons (by decide) _
    rw [Recognizer.judge, standard, Recognizer.judgeFrom_of_none _ (blank_run_eq_none dark),
      Recognizer.judgeFrom_of_success _ (comment_run front)]
  | literal proper =>
    have ran := @literal_run _ rest proper
    rw [List.cons_append, List.cons_append] at ran ⊢
    rw [judge_standard_of_quote, Recognizer.judgeFrom_of_success _ ran]
  | @brokenLiteral text broken =>
    have telling : ∀ claim, (⟨claim, (Literal.read 1 text).problems⟩ : Failure) ≠ .none := by
      intro claim same
      exact broken (congrArg Failure.problems same)
    have digitless : Char.isDigit '"' = false := by decide
    -- Behind the failure of a literal stand digits, names and symbols, which no quote starts.
    rw [List.cons_append, Literal.divide_append, judge_standard_of_quote,
      Recognizer.judgeFrom_of_failure _ (literal_run_of_problems broken) (telling _),
      Recognizer.judgeFrom_of_none _ (number_run_eq_none (forall_head_cons digitless text)),
      judgeFrom_name_symbol (by decide) (.inr rfl)]
  | @number digits rest some front apart =>
    have ran := number_run some front apart
    obtain ⟨c, digits, rfl⟩ := List.exists_cons_of_ne_nil some
    have digit : c.isDigit = true := front.inside c List.mem_cons_self
    rw [List.cons_append] at ran ⊢
    rw [judge_standard_of_isPart (Name.isPart_of_isDigit digit),
      Recognizer.judgeFrom_of_success _ ran]
  | @strayNumber digits stray rest some digit front joined =>
    have ran := number_run_of_stray some digit front joined
    obtain ⟨c, digits, rfl⟩ := List.exists_cons_of_ne_nil some
    have first : c.isDigit = true := digit c List.mem_cons_self
    have part := Name.isPart_of_isDigit first
    rw [List.append_assoc, List.cons_append] at *
    rw [judge_standard_of_isPart part,
      Recognizer.judgeFrom_of_failure _ ran (by simp [Failure.single, Failure.none,
        Failure.withHighlight]),
      judgeFrom_name_symbol (Name.not_isStart_of_isDigit first) (.inl part)]
  | @name c more rest start front =>
    have digitless : ∀ d ∈ (c :: (more ++ rest)).head?, d.isDigit = false :=
      forall_head_cons (Name.not_isDigit_of_isStart start) _
    have ran := name_run start front
    rw [List.cons_append] at ran ⊢
    rw [judge_standard_of_isPart (Name.isPart_of_isStart start),
      Recognizer.judgeFrom_of_none _ (number_run_eq_none digitless),
      Recognizer.judgeFrom_of_success _ ran]
  | @symbol found rest slashless first =>
    obtain ⟨c, more, shape, part, dark, quote⟩ :=
      Symbol.exists_cons_of_mem (List.mem_of_find?_eq_some first)
    have digitless := Name.not_isDigit_of_not_isPart part
    have startless := Name.not_isStart_of_not_isPart part
    have ran := symbol_run first
    rw [shape, List.cons_append] at slashless ran ⊢
    rw [judge_standard (forall_head_cons dark _) slashless,
      Recognizer.judgeFrom_of_none _ (literal_run_eq_none (forall_head_ne quote _)),
      Recognizer.judgeFrom_of_none _ (number_run_eq_none (forall_head_cons digitless _)),
      Recognizer.judgeFrom_of_none _ (name_run_eq_none (forall_head_cons startless _)),
      Recognizer.judgeFrom_of_success _ ran]
  | @unexpected c rest dark quoteless digitless startless missing =>
    rw [List.singleton_append,
      judge_standard (forall_head_cons dark rest) (not_slashes_of_not_symbol missing),
      Recognizer.judgeFrom_of_none _ (literal_run_eq_none (forall_head_ne quoteless rest)),
      Recognizer.judgeFrom_of_none _ (number_run_eq_none (forall_head_cons digitless rest)),
      Recognizer.judgeFrom_of_none _ (name_run_eq_none (forall_head_cons startless rest)),
      Recognizer.judgeFrom_of_none _ (symbol_run_eq_none missing)]
    rfl

end Judge

/-! ### Every text starts with a turn -/

section Exists

/-- A quote opens a literal, proper or broken. -/
theorem exists_turn_of_quote (text : Text) :
    ∃ span rest verdict, '"' :: text = span ++ rest ∧ Turn span rest verdict := by
  have whole : '"' :: text = '"' :: (Literal.divide text).1 ++ (Literal.divide text).2 := by
    rw [List.cons_append, Literal.divide_append]
  by_cases clean : (Literal.read 1 text).problems = []
  · obtain ⟨body, proper, taken⟩ := Literal.exists_body_of_problems_eq_nil clean
    rw [taken] at whole
    exact ⟨_, _, _, whole, .literal proper⟩
  · exact ⟨_, _, _, whole, .brokenLiteral clean⟩

/-- A digit starts a number, which may run on into a name. -/
theorem exists_turn_of_isDigit {c : Char} (digit : c.isDigit = true) (text : Text) :
    ∃ span rest verdict, c :: text = span ++ rest ∧ Turn span rest verdict := by
  obtain ⟨digits, rest, whole, some, front, apart | ⟨stray, left, rfl, stops, joined⟩⟩ :=
    exists_digits digit text
  · exact ⟨_, _, _, whole, .number some front apart⟩
  -- The number and the name behind it are one span.
  · rw [← List.append_assoc] at whole
    exact ⟨_, _, _, whole, .strayNumber some front.inside stops joined⟩

/-- Every text that is not empty starts with a turn. -/
theorem exists_turn {text : Text} (some : text ≠ []) :
    ∃ span rest verdict, text = span ++ rest ∧ Turn span rest verdict := by
  obtain ⟨c, text, rfl⟩ := List.exists_cons_of_ne_nil some
  cases white : isWhiteSpace c with
  | true =>
    obtain ⟨space, rest, rfl, front⟩ := exists_isFront_cons white text
    exact ⟨_, _, _, rfl, .blank (by simp) front⟩
  | false =>
    -- From here on the recognizers are gone through in the order they are tried.
    by_cases slashes : ['/', '/'] <+: c :: text
    · obtain ⟨inside, whole⟩ := slashes
      obtain ⟨body, rest, rfl, front⟩ := exists_isFront (!isBreak ·) inside
      exact ⟨'/' :: '/' :: body, rest, _, whole.symm, .comment front⟩
    · by_cases quote : c = '"'
      · rw [quote]
        exact exists_turn_of_quote text
      · cases digit : c.isDigit with
        | true => exact exists_turn_of_isDigit digit text
        | false =>
          cases start : Name.isStart c with
          | true =>
            obtain ⟨more, rest, rfl, front⟩ :=
              exists_isFront_cons (Name.isPart_of_isStart start) text
            exact ⟨_, _, _, rfl, .name start front⟩
          | false =>
            cases found : Symbol.all.find? (·.text.isPrefixOf (c :: text)) with
            | some symbol =>
              obtain ⟨rest, whole⟩ := Symbol.prefix_of_find? found
              rw [whole] at slashes found ⊢
              exact ⟨_, _, _, rfl, .symbol slashes found⟩
            | none =>
              exact ⟨[c], text, _, rfl, .unexpected white quote digit start
                (Symbol.not_prefix_of_find? found)⟩

end Exists

end Lexeme

end Lexing
