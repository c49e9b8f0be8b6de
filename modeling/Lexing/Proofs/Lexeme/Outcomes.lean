import Lexing.Lexeme.Standard
import Lexing.Proofs.Lexeme.Literal
import Lexing.Proofs.Text.Front
import Lexing.Proofs.Text.LineBreak
import Lexing.Proofs.Unicode.Classes

/-!
# What each recognizer makes of a text

For every recognizer of the language: which texts are none of its business, and what it makes of the
others, given as a piece at the front and a rest.

## Main results

* `Lexeme.blank_run`, `Lexeme.comment_run`, `Lexeme.literal_run`, `Lexeme.number_run`,
  `Lexeme.number_run_of_stray`, `Lexeme.name_run`, `Lexeme.symbol_run`: what is found
* `Lexeme.blank_cases`, `Lexeme.comment_cases`, `Lexeme.literal_cases`, `Lexeme.number_cases`,
  `Lexeme.name_cases`, `Lexeme.symbol_cases`: nothing else is
* `Symbol.longest_of_find?`: the first symbol that is found is the longest one
-/

namespace Lexing

open Text Unicode

namespace Lexeme

/-! ### Blanks and comments -/

theorem blank_run {space rest : Text} (some : space ≠ [])
    (front : IsFront isWhiteSpace space rest) : blank.run (space ++ rest) = .success
      (((Success.skip (size space)).withMultiline (hasBreak space)).withTabs true) := by
  obtain ⟨c, space, rfl⟩ := List.exists_cons_of_ne_nil some
  simp only [blank, front.takeWhile_eq]

/-- A text that does not start with white space is no blank. -/
theorem blank_run_eq_none {text : Text} (dark : ∀ c ∈ text.head?, isWhiteSpace c = false) :
    blank.run text = .none := by
  have empty : text.takeWhile isWhiteSpace = [] := (IsFront.nil dark).takeWhile_eq
  simp only [blank, empty]

theorem blank_cases (text : Text) : blank.run text = .none ∨
    ∃ space rest, text = space ++ rest ∧ space ≠ [] ∧ IsFront isWhiteSpace space rest ∧
      blank.run text = .success
        (((Success.skip (size space)).withMultiline (hasBreak space)).withTabs true) := by
  obtain ⟨space, rest, rfl, front⟩ := exists_isFront isWhiteSpace text
  by_cases some : space = []
  · rw [some, List.nil_append]
    exact .inl (blank_run_eq_none front.stops)
  · exact .inr ⟨space, rest, rfl, some, front, blank_run some front⟩

/-- What follows a blank is no white space, so it is no break either, and no pair is cut. -/
theorem not_splits_blank {space rest : Text} (front : IsFront isWhiteSpace space rest) :
    ¬ Splits space rest :=
  not_splits_of_head fun c first => not_isBreak_of_not_isWhiteSpace (front.stops c first)

theorem comment_run {body rest : Text} (front : IsFront (!isBreak ·) body rest) :
    comment.run ('/' :: '/' :: body ++ rest) =
      .success ((Success.skip (size ('/' :: '/' :: body))).withTabs true) := by
  change Outcome.success ((Success.skip
    (size ('/' :: '/' :: (body ++ rest).takeWhile (!isBreak ·)))).withTabs true) = _
  rw [front.takeWhile_eq]

/-- A text that does not start with two slashes is no comment. -/
theorem comment_run_eq_none {text : Text} (slashless : ¬ ['/', '/'] <+: text) :
    comment.run text = .none := by
  simp only [comment]
  split
  · next body => exact absurd ⟨body, rfl⟩ slashless
  · rfl

theorem comment_cases (text : Text) : comment.run text = .none ∨
    ∃ body rest, text = '/' :: '/' :: body ++ rest ∧ IsFront (!isBreak ·) body rest ∧
      comment.run text = .success ((Success.skip (size ('/' :: '/' :: body))).withTabs true) := by
  by_cases slashes : ['/', '/'] <+: text
  · obtain ⟨inside, rfl⟩ := slashes
    obtain ⟨body, rest, rfl, front⟩ := exists_isFront (!isBreak ·) inside
    refine .inr ⟨body, rest, rfl, front, ?_⟩
    have ran := comment_run front
    exact ran
  · exact .inl (comment_run_eq_none slashes)

/-- A comment ends before the line does. -/
theorem not_isBreak_of_mem_comment {body rest : Text} (front : IsFront (!isBreak ·) body rest) :
    ∀ c ∈ '/' :: '/' :: body, isBreak c = false := by
  have slash : isBreak '/' = false := by decide
  simpa [slash] using front.inside

/-- Only one slash after another starts a comment. -/
theorem not_slashes_of_head {c : Char} (other : c ≠ '/') (text : Text) :
    ¬ ['/', '/'] <+: c :: text := by
  rintro ⟨rest, whole⟩
  exact other (List.cons.inj whole).1.symm

/-! ### Literals -/

/-- What a literal with its opening quote takes in is what its length stands for. -/
theorem size_quoted (text : Text) :
    size ('"' :: (Literal.divide text).1) = (Literal.read 1 text).length :=
  (Literal.length_read 1 text).symm

/-- A body between quotes is a literal. -/
theorem literal_run {body rest : Text} (proper : Literal.Body body) :
    literal.run ('"' :: body ++ ['"'] ++ rest) =
      .success ((Success.tagged (size ('"' :: body ++ ['"'])) ["string"]).withTabs true) := by
  have quote : Char.utf8Size '"' = 1 := rfl
  -- The body stands between two quotes of one byte each.
  have length : size ('"' :: body ++ ['"']) = 1 + size body + 1 := by
    simp [quote, Nat.add_assoc]
  have whole : '"' :: body ++ ['"'] ++ rest = '"' :: (body ++ '"' :: rest) := by simp
  rw [whole, length]
  simp only [literal, Literal.read_body proper]
  rfl

/-- A literal with problems fails over all that it takes in. -/
theorem literal_run_of_problems {text : Text} (broken : (Literal.read 1 text).problems ≠ []) :
    literal.run ('"' :: text) = .failure
      ⟨(Claim.ofLength (size ('"' :: (Literal.divide text).1))).withTabs true,
        (Literal.read 1 text).problems⟩ := by
  have faulty : (Literal.read 1 text).problems.isEmpty = false := by simpa using broken
  rw [size_quoted]
  simp only [literal, faulty]
  rfl

theorem literal_run_eq_none {text : Text} (quoteless : ∀ c ∈ text.head?, c ≠ '"') :
    literal.run text = .none := by
  simp only [literal]
  split
  · exact absurd rfl (quoteless _ rfl)
  · rfl

/-- A literal claims what it takes in after its quote, with or without problems. -/
theorem literal_cases (text : Text) : literal.run text = .none ∨
    (∃ body rest, text = '"' :: body ++ ['"'] ++ rest ∧ Literal.Body body ∧
      literal.run text =
        .success ((Success.tagged (size ('"' :: body ++ ['"'])) ["string"]).withTabs true)) ∨
    ∃ inside, text = '"' :: inside ∧ (Literal.read 1 inside).problems ≠ [] ∧
      literal.run text = .failure
        ⟨(Claim.ofLength (size ('"' :: (Literal.divide inside).1))).withTabs true,
          (Literal.read 1 inside).problems⟩ := by
  cases text with
  | nil => exact .inl rfl
  | cons c inside =>
    by_cases quote : c = '"'
    · subst quote
      by_cases clean : (Literal.read 1 inside).problems = []
      · obtain ⟨body, proper, taken⟩ := Literal.exists_body_of_problems_eq_nil clean
        have whole : '"' :: inside = '"' :: body ++ ['"'] ++ (Literal.divide inside).2 := by
          rw [List.cons_append, ← taken, List.cons_append, Literal.divide_append]
        rw [whole]
        exact .inr (.inl ⟨body, _, rfl, proper, literal_run proper⟩)
      · exact .inr (.inr ⟨inside, rfl, clean, literal_run_of_problems clean⟩)
    · exact .inl (literal_run_eq_none (forall_head_ne quote inside))

/-! ### Numbers -/

theorem number_run {digits rest : Text} (some : digits ≠ [])
    (front : IsFront Char.isDigit digits rest)
    (apart : ∀ c ∈ rest.head?, Name.isStart c = false) :
    number.run (digits ++ rest) = .success (Success.tagged (size digits) ["number"]) := by
  have full : digits.isEmpty = false := by simpa using some
  have free : rest.head?.any Name.isStart = false := by
    cases rest with
    | nil => rfl
    | cons c rest => exact apart c rfl
  simp only [number, front.takeWhile_eq, front.dropWhile_eq, full, free]
  rfl

/-- Digits stop where a name starts. -/
theorem isFront_digits_of_stray {digits stray : Text} (digit : ∀ c ∈ digits, c.isDigit = true)
    (joined : ∃ c ∈ stray.head?, Name.isStart c = true) (rest : Text) :
    IsFront Char.isDigit digits (stray ++ rest) := by
  obtain ⟨c, first, start⟩ := joined
  obtain ⟨stray, rfl⟩ := List.head?_eq_some_iff.1 first
  exact ⟨digit, forall_head_cons (Name.not_isDigit_of_isStart start) _⟩

/-- Digits that run on into a name fail together with it. -/
theorem number_run_of_stray {digits stray rest : Text} (some : digits ≠ [])
    (digit : ∀ c ∈ digits, c.isDigit = true) (front : IsFront Name.isPart stray rest)
    (joined : ∃ c ∈ stray.head?, Name.isStart c = true) :
    number.run (digits ++ (stray ++ rest)) = .failure
      ((Failure.single (size (digits ++ stray)) (size digits)
        "invalid digit in number").withHighlight (size stray)) := by
  have digits_front := isFront_digits_of_stray digit joined rest
  obtain ⟨c, first, start⟩ := joined
  -- The part behind the digits is taken on its own, from its first character on.
  obtain ⟨stray, rfl⟩ := List.head?_eq_some_iff.1 first
  have taken : (c :: (stray ++ rest)).takeWhile Name.isPart = c :: stray := front.takeWhile_eq
  have full : digits.isEmpty = false := by simpa using some
  simp only [number, digits_front.takeWhile_eq, digits_front.dropWhile_eq, full]
  simp [start, taken]

/-- A text that does not start with a digit is no number. -/
theorem number_run_eq_none {text : Text} (digitless : ∀ c ∈ text.head?, c.isDigit = false) :
    number.run text = .none := by
  have empty : text.takeWhile Char.isDigit = [] := (IsFront.nil digitless).takeWhile_eq
  simp only [number, empty, List.isEmpty_nil, if_true]

/-- Digits at the front of a text stand apart from what follows, or run on into a name. -/
theorem exists_digits {c : Char} (digit : c.isDigit = true) (text : Text) :
    ∃ digits rest, c :: text = digits ++ rest ∧ digits ≠ [] ∧ IsFront Char.isDigit digits rest ∧
      ((∀ d ∈ rest.head?, Name.isStart d = false) ∨
        ∃ stray left, rest = stray ++ left ∧ IsFront Name.isPart stray left ∧
          ∃ d ∈ stray.head?, Name.isStart d = true) := by
  obtain ⟨more, rest, rfl, front⟩ := exists_isFront_cons digit text
  refine ⟨c :: more, rest, rfl, by simp, front, ?_⟩
  by_cases joined : ∃ d ∈ rest.head?, Name.isStart d = true
  · obtain ⟨d, first, start⟩ := joined
    obtain ⟨tail, rfl⟩ := List.head?_eq_some_iff.1 first
    obtain ⟨others, left, rfl, stray⟩ := exists_isFront_cons (Name.isPart_of_isStart start) tail
    exact .inr ⟨d :: others, left, rfl, stray, d, rfl, start⟩
  · left
    intro d first
    rw [Bool.eq_false_iff]
    intro start
    exact joined ⟨d, first, start⟩

theorem number_cases (text : Text) : number.run text = .none ∨
    (∃ digits rest, text = digits ++ rest ∧ digits ≠ [] ∧ IsFront Char.isDigit digits rest ∧
      number.run text = .success (Success.tagged (size digits) ["number"])) ∨
    ∃ digits stray rest, text = digits ++ stray ++ rest ∧ digits ≠ [] ∧
      (∀ c ∈ digits, c.isDigit = true) ∧ IsFront Name.isPart stray rest ∧
      number.run text = .failure ((Failure.single (size (digits ++ stray)) (size digits)
        "invalid digit in number").withHighlight (size stray)) := by
  cases text with
  | nil => exact .inl rfl
  | cons c text =>
    cases digit : c.isDigit with
    | false => exact .inl (number_run_eq_none (forall_head_cons digit text))
    | true =>
      obtain ⟨digits, rest, whole, some, front, apart | ⟨stray, left, rfl, stops, joined⟩⟩ :=
        exists_digits digit text
      · rw [whole]
        exact .inr (.inl ⟨digits, rest, rfl, some, front, number_run some front apart⟩)
      · rw [whole]
        exact .inr (.inr ⟨digits, stray, left, (List.append_assoc ..).symm, some, front.inside,
          stops, number_run_of_stray some front.inside stops joined⟩)

/-! ### Names -/

theorem name_run {c : Char} {more rest : Text} (start : Name.isStart c = true)
    (front : IsFront Name.isPart (c :: more) rest) : name.run (c :: more ++ rest) =
      .success (Success.tagged (size (c :: more)) ["identifier"]) := by
  have taken : (c :: (more ++ rest)).takeWhile Name.isPart = c :: more := front.takeWhile_eq
  simp [name, start, taken]

theorem name_run_eq_none {text : Text} (startless : ∀ c ∈ text.head?, Name.isStart c = false) :
    name.run text = .none := by
  cases text with
  | nil => rfl
  | cons c text => simp [name, startless c rfl]

theorem name_cases (text : Text) : name.run text = .none ∨
    ∃ c more rest, text = c :: more ++ rest ∧ Name.isStart c = true ∧
      IsFront Name.isPart (c :: more) rest ∧
      name.run text = .success (Success.tagged (size (c :: more)) ["identifier"]) := by
  cases text with
  | nil => exact .inl rfl
  | cons c text =>
    cases start : Name.isStart c with
    | false => exact .inl (name_run_eq_none (forall_head_cons start text))
    | true =>
      obtain ⟨more, rest, rfl, front⟩ := exists_isFront_cons (Name.isPart_of_isStart start) text
      exact .inr ⟨c, more, rest, rfl, start, front, name_run start front⟩

end Lexeme

/-! ### Symbols -/

namespace Symbol

/-- No symbol is empty, and none starts like a lexeme of another kind. -/
theorem exists_cons_of_mem {symbol : Symbol} (member : symbol ∈ all) : ∃ c more,
    symbol.text = c :: more ∧ Name.isPart c = false ∧ isWhiteSpace c = false ∧ c ≠ '"' := by
  -- There are finitely many symbols, and their first characters are looked up one by one.
  have each : all.all (·.text.head?.any fun c =>
      !Name.isPart c && !isWhiteSpace c && c != '"') = true := by decide +kernel
  have here := List.all_eq_true.1 each symbol member
  obtain ⟨c, first, other⟩ := (Option.any_eq_true _ _).1 here
  obtain ⟨more, shape⟩ := List.head?_eq_some_iff.1 first
  exact ⟨c, more, shape, by simpa [and_assoc] using other⟩

theorem text_ne_nil {symbol : Symbol} (member : symbol ∈ all) : symbol.text ≠ [] := by
  obtain ⟨c, more, shape, -⟩ := exists_cons_of_mem member
  rw [shape]
  exact List.cons_ne_nil c more

/-- No symbol holds white space. -/
theorem not_isWhiteSpace_of_mem {symbol : Symbol} (member : symbol ∈ all) :
    ∀ c ∈ symbol.text, isWhiteSpace c = false := by
  have each : all.all (·.text.all fun c => !isWhiteSpace c) = true := by decide +kernel
  have here := List.all_eq_true.1 each symbol member
  simpa using here

/-- No symbol holds a tab or a break. -/
theorem plain_of_mem {symbol : Symbol} (member : symbol ∈ all) :
    ∀ c ∈ symbol.text, c ≠ '\t' ∧ isBreak c = false := by
  intro c inside
  have dark := not_isWhiteSpace_of_mem member c inside
  refine ⟨?_, not_isBreak_of_not_isWhiteSpace dark⟩
  rintro rfl
  exact absurd dark (by decide)

/-- A symbol that is found stands at the front of the text. -/
theorem prefix_of_find? {text : Text} {symbol : Symbol}
    (found : all.find? (·.text.isPrefixOf text) = some symbol) :
    ∃ rest, text = symbol.text ++ rest := by
  have there : symbol.text.isPrefixOf text = true := by simpa using List.find?_some found
  obtain ⟨rest, whole⟩ := List.isPrefixOf_iff_prefix.1 there
  exact ⟨rest, whole.symm⟩

/-- No symbol stands at the front of a text in which none is found. -/
theorem not_prefix_of_find? {text : Text} (missing : all.find? (·.text.isPrefixOf text) = none) :
    ∀ s ∈ all, ¬ s.text <+: text := by
  simpa [List.find?_eq_none] using missing

/-- Of a table that is sorted by some measure, greater ones first, the first symbol at the front of
a text is the greatest one there. -/
theorem le_of_find? {table : List Symbol} {measure : Symbol → Nat} {text : Text} {symbol : Symbol}
    (descending : table.Pairwise fun a b => measure b ≤ measure a)
    (found : table.find? (·.text.isPrefixOf text) = some symbol) :
    ∀ other ∈ table, other.text <+: text → measure other ≤ measure symbol := by
  obtain ⟨-, before, after, whole, missed⟩ := List.find?_eq_some_iff_append.1 found
  intro other member there
  rw [whole] at member descending
  rcases List.mem_append.1 member with early | late
  · -- The search would have stopped at a symbol before the one it found.
    have absent := missed other early
    rw [List.isPrefixOf_iff_prefix.2 there] at absent
    contradiction
  · rcases List.mem_cons.1 late with rfl | later
    · exact Nat.le_refl _
    · exact (List.pairwise_cons.1 (List.pairwise_append.1 descending).2.1).1 other later

/-- The first symbol at the front of a text is the longest one there. -/
theorem longest_of_find? {text : Text} {symbol : Symbol}
    (found : all.find? (·.text.isPrefixOf text) = some symbol) :
    ∀ other ∈ all, other.text <+: text → other.text.length ≤ symbol.text.length :=
  le_of_find? (by decide : all.Pairwise fun a b => b.text.length ≤ a.text.length) found

/-- The symbol that is found in a text is found in every other one at whose front it stands, unless
that brings in more symbols. -/
theorem find?_of_forall_prefix {text other : Text} {symbol : Symbol}
    (found : all.find? (·.text.isPrefixOf text) = some symbol) (there : symbol.text <+: other)
    (noMore : ∀ s ∈ all, s.text <+: other → s.text <+: text) :
    all.find? (·.text.isPrefixOf other) = some symbol := by
  obtain ⟨-, before, after, whole, missed⟩ := List.find?_eq_some_iff_append.1 found
  rw [List.find?_eq_some_iff_append]
  refine ⟨List.isPrefixOf_iff_prefix.2 there, before, after, whole, ?_⟩
  intro early inside
  have member : early ∈ all := by simp [whole, inside]
  have absent := missed early inside
  simp only [Bool.not_eq_true', ← Bool.not_eq_true, List.isPrefixOf_iff_prefix] at absent ⊢
  intro starts
  exact absent (noMore early member starts)

end Symbol

namespace Lexeme

theorem symbol_run {text : Text} {found : Symbol}
    (first : Symbol.all.find? (·.text.isPrefixOf text) = some found) : symbol.run text =
      .success (Success.tagged (size found.text) ["punctuation", found.kind.tag]) := by
  simp only [symbol, first]

/-- A text without a symbol at its front is none. -/
theorem symbol_run_eq_none {text : Text} (missing : ∀ s ∈ Symbol.all, ¬ s.text <+: text) :
    symbol.run text = .none := by
  have empty : Symbol.all.find? (·.text.isPrefixOf text) = none := by
    simpa [List.find?_eq_none] using missing
  simp only [symbol, empty]

theorem symbol_cases (text : Text) : symbol.run text = .none ∨
    ∃ found rest, text = found.text ++ rest ∧ found ∈ Symbol.all ∧
      symbol.run text =
        .success (Success.tagged (size found.text) ["punctuation", found.kind.tag]) := by
  cases found : Symbol.all.find? (·.text.isPrefixOf text) with
  | none => exact .inl (symbol_run_eq_none (Symbol.not_prefix_of_find? found))
  | some symbol =>
    obtain ⟨rest, whole⟩ := Symbol.prefix_of_find? found
    exact .inr ⟨symbol, rest, whole, List.mem_of_find?_eq_some found, symbol_run found⟩

/-- A comment starts with a symbol. -/
theorem not_slashes_of_not_symbol {text : Text} (missing : ∀ s ∈ Symbol.all, ¬ s.text <+: text) :
    ¬ ['/', '/'] <+: text := by
  intro comment
  exact missing ⟨['/'], .operator⟩ (by decide) (List.IsPrefix.trans ⟨['/'], rfl⟩ comment)

/-- What starts like a lexeme of another kind starts with no symbol. -/
theorem not_symbol_of_head {c : Char} (text : Text)
    (other : Name.isPart c = true ∨ c = '"' ∨ isWhiteSpace c = true) :
    ∀ s ∈ Symbol.all, ¬ s.text <+: c :: text := by
  rintro s member ⟨rest, whole⟩
  obtain ⟨d, more, shape, part, dark, quote⟩ := Symbol.exists_cons_of_mem member
  rw [shape] at whole
  obtain rfl : d = c := (List.cons.inj whole).1
  -- In each case the first character is not the symbol's.
  rcases other with inside | rfl | white
  · rw [part] at inside
    contradiction
  · contradiction
  · rw [dark] at white
    contradiction

end Lexeme

end Lexing
