import Lexing.Lexeme.Literal

/-!
# What a literal takes in

Reading a literal yields a length and a list of problems. Here the same walk yields the text that
the length stands for and what is left behind it, so that a literal can be cut off its text. What
the walk accepts is told apart by a grammar of what may stand between the quotes.

## Main definitions

* `Literal.divide`: what a literal takes in after its opening quote, and what is left
* `Literal.Body`: what may stand between the quotes of a literal

## Main results

* `Literal.length_read`: the length of a literal is that of what it takes in
* `Literal.exists_body_of_problems_eq_nil`, `Literal.read_body`: literals without problems are those
  of the grammar
* `Literal.exists_of_mem_unknown`: an unknown escape lies at a backslash of the literal
-/

namespace Lexing.Literal

/-- Every other character stands for itself inside a literal. -/
def isPlain (c : Char) : Bool := c != '\\' && c != '"' && !Text.isBreak c

/-- What a literal takes in after its opening quote, and what is left. -/
def divide : Text → Text × Text
  | [] => ([], [])
  | ['\\'] => (['\\'], [])
  | '\\' :: c :: text => ('\\' :: c :: (divide text).1, (divide text).2)
  | c :: text =>
    if c = '"' then (['"'], text)
    else if Text.isBreak c then ([], c :: text)
    else (c :: (divide text).1, (divide text).2)

theorem isPlain_iff {c : Char} :
    isPlain c = true ↔ c ≠ '\\' ∧ c ≠ '"' ∧ Text.isBreak c = false := by
  simp [isPlain, and_assoc]

/-- A literal goes on with an escape or a plain character. It ends with the text, at a backslash
without a character, at a quote, or before a breaking character. -/
@[elab_as_elim]
theorem reading_induction {motive : Text → Prop} (ended : motive []) (slash : motive ['\\'])
    (escape : ∀ c text, motive text → motive ('\\' :: c :: text))
    (close : ∀ text, motive ('"' :: text))
    (stop : ∀ c text, Text.isBreak c = true → motive (c :: text))
    (plain : ∀ c text, isPlain c = true → motive text → motive (c :: text)) : ∀ text, motive text
  | [] => ended
  | c :: text => by
    by_cases backslash : c = '\\'
    · rw [backslash]
      cases text with
      | nil => exact slash
      | cons d text =>
        -- Whatever follows the backslash belongs to it, even a quote or a break.
        exact escape d text (reading_induction ended slash escape close stop plain text)
    · by_cases quote : c = '"'
      · rw [quote]
        exact close text
      · cases breaking : Text.isBreak c with
        | true => exact stop c text breaking
        | false =>
          have later := reading_induction ended slash escape close stop plain text
          exact plain c text (isPlain_iff.2 ⟨backslash, quote, breaking⟩) later

theorem ne_slash_of_isBreak {c : Char} (breaking : Text.isBreak c = true) : c ≠ '\\' := by
  rintro rfl
  exact absurd breaking (by decide)

theorem ne_quote_of_isBreak {c : Char} (breaking : Text.isBreak c = true) : c ≠ '"' := by
  rintro rfl
  exact absurd breaking (by decide)

/-! ### Reading, step by step -/

section Steps

variable (offset : Nat) (c : Char) (text : Text)

theorem read_nil : read offset [] = ⟨[], offset, false⟩ := rfl

theorem read_slash : read offset ['\\'] = ⟨[], offset + 1, false⟩ := rfl

theorem read_escape : read offset ('\\' :: c :: text) =
    { read (offset + 1 + c.utf8Size) text with
      unknown := (if isKnownEscape c then [] else [unknownEscape offset c]) ++
        (read (offset + 1 + c.utf8Size) text).unknown } := by
  rw [read]
  cases isKnownEscape c <;> rfl

theorem read_close : read offset ('"' :: text) = ⟨[], offset + 1, true⟩ := by
  rw [read]
  · rfl
  all_goals simp

variable {c}

theorem read_stop (breaking : Text.isBreak c = true) :
    read offset (c :: text) = ⟨[], offset, false⟩ := by
  rw [read]
  · simp [breaking, ne_quote_of_isBreak breaking]
  all_goals simp [ne_slash_of_isBreak breaking]

theorem read_plain (plain : isPlain c = true) :
    read offset (c :: text) = read (offset + c.utf8Size) text := by
  obtain ⟨backslash, quote, breaking⟩ := isPlain_iff.1 plain
  rw [read]
  · simp [breaking, quote]
  all_goals simp [backslash]

variable (c)

theorem divide_nil : divide [] = ([], []) := rfl

theorem divide_slash : divide ['\\'] = (['\\'], []) := rfl

theorem divide_escape :
    divide ('\\' :: c :: text) = ('\\' :: c :: (divide text).1, (divide text).2) := by
  rw [divide]

theorem divide_close : divide ('"' :: text) = (['"'], text) := by
  rw [divide]
  · rfl
  all_goals simp

variable {c}

theorem divide_stop (breaking : Text.isBreak c = true) : divide (c :: text) = ([], c :: text) := by
  rw [divide]
  · simp [breaking, ne_quote_of_isBreak breaking]
  all_goals simp [ne_slash_of_isBreak breaking]

theorem divide_plain (plain : isPlain c = true) :
    divide (c :: text) = (c :: (divide text).1, (divide text).2) := by
  obtain ⟨backslash, quote, breaking⟩ := isPlain_iff.1 plain
  rw [divide]
  · simp [breaking, quote]
  all_goals simp [backslash]

end Steps

/-! ### What is taken in -/

/-- Nothing is lost between what a literal takes in and what is left. -/
theorem divide_append (text : Text) : (divide text).1 ++ (divide text).2 = text := by
  induction text using reading_induction with
  | ended => rfl
  | slash => rfl
  | escape c text ih =>
    rw [divide_escape]
    simp [ih]
  | close text => rw [divide_close]; rfl
  | stop c text breaking => rw [divide_stop text breaking]; rfl
  | plain c text plain ih =>
    rw [divide_plain text plain]
    simp [ih]

/-- The length of a literal is that of what it takes in. -/
theorem length_read (offset : Nat) (text : Text) :
    (read offset text).length = offset + Text.size (divide text).1 := by
  induction text using reading_induction generalizing offset with
  | ended => rfl
  -- A backslash at the end of the text is taken in alone.
  | slash => rw [read_slash, divide_slash]; rfl
  | escape c text ih =>
    have slash : Char.utf8Size '\\' = 1 := rfl
    rw [read_escape, divide_escape]
    simp only [ih, Text.size_cons, slash]
    omega
  | close text => rw [read_close, divide_close]; rfl
  | stop c text breaking => rw [read_stop offset text breaking, divide_stop text breaking]; rfl
  | plain c text plain ih =>
    rw [read_plain offset text plain, divide_plain text plain]
    simp only [ih, Text.size_cons]
    omega

/-- What is reported is an escape inside the literal, at its backslash, and it is unknown. -/
theorem exists_of_mem_unknown {offset : Nat} {text : Text} {problem : Problem}
    (inside : problem ∈ (read offset text).unknown) :
    ∃ before c after, (divide text).1 = before ++ '\\' :: c :: after ∧
      isKnownEscape c = false ∧ problem = unknownEscape (offset + Text.size before) c := by
  induction text using reading_induction generalizing offset with
  | ended => simp [read_nil] at inside
  | slash => simp [read_slash] at inside
  | escape c text ih =>
    have slash : Char.utf8Size '\\' = 1 := rfl
    rw [read_escape] at inside
    rw [divide_escape]
    -- The escape at the front is the first to be reported, the others come from behind it.
    rcases List.mem_append.1 inside with here | later
    · split at here
      · simp at here
      next unknown =>
      exact ⟨[], c, (divide text).1, rfl, by simpa using unknown, by simpa using here⟩
    · obtain ⟨before, d, after, taken, unknown, rfl⟩ := ih later
      refine ⟨'\\' :: c :: before, d, after, by simp [taken], unknown, ?_⟩
      simp only [Text.size_cons, slash, Nat.add_assoc]
  | close text => simp [read_close] at inside
  | stop c text breaking => simp [read_stop offset text breaking] at inside
  | plain c text plain ih =>
    rw [read_plain offset text plain] at inside
    obtain ⟨before, d, after, taken, unknown, rfl⟩ := ih inside
    refine ⟨c :: before, d, after, by simp [divide_plain text plain, taken], unknown, ?_⟩
    simp only [Text.size_cons, Nat.add_assoc]

/-! ### Literals without problems -/

/-- What may stand between the quotes of a literal. -/
inductive Body : Text → Prop
  | nil : Body []
  | plain {c : Char} {text : Text} (plain : isPlain c = true) (more : Body text) : Body (c :: text)
  | escape {c : Char} {text : Text} (known : isKnownEscape c = true) (more : Body text) :
      Body ('\\' :: c :: text)

/-- What may stand between quotes has no breaks: no known escape is one. -/
theorem Body.not_hasBreak {body : Text} (proper : Body body) : Text.hasBreak body = false := by
  induction proper with
  | nil => rfl
  | plain plain more ih => simp [(isPlain_iff.1 plain).2.2, ih]
  | @escape c text known more ih =>
    -- None of the four characters of known escapes breaks a line.
    have unbroken : Text.isBreak c = false := by
      simp only [isKnownEscape, Bool.or_eq_true, beq_iff_eq] at known
      rcases known with ((rfl | rfl) | rfl) | rfl <;> decide
    have slash : Text.isBreak '\\' = false := by decide
    simp [unbroken, slash, ih]

/-- A body is read to the end and the quote behind it closes the literal. -/
theorem read_body {body : Text} (proper : Body body) (offset : Nat) (rest : Text) :
    read offset (body ++ '"' :: rest) = ⟨[], offset + Text.size body + 1, true⟩ := by
  induction proper generalizing offset with
  | nil => rw [List.nil_append, read_close]; rfl
  | @plain c text plain more ih =>
    rw [List.cons_append, read_plain offset _ plain, ih, Text.size_cons, Nat.add_assoc offset]
  | @escape c text known more ih =>
    have slash : Char.utf8Size '\\' = 1 := rfl
    rw [List.cons_append, List.cons_append, read_escape, ih, if_pos known, Text.size_cons,
      Text.size_cons, slash, ← Nat.add_assoc 1, ← Nat.add_assoc offset, ← Nat.add_assoc offset]
    rfl

theorem divide_body {body : Text} (proper : Body body) (rest : Text) :
    divide (body ++ '"' :: rest) = (body ++ ['"'], rest) := by
  induction proper with
  | nil => exact divide_close rest
  | plain plain more ih =>
    rw [List.cons_append, divide_plain _ plain, ih]
    rfl
  | escape known more ih =>
    rw [List.cons_append, List.cons_append, divide_escape, ih]
    rfl

/-- A literal without problems has a proper body, and takes in a quote after it. -/
theorem exists_body_of_problems_eq_nil {offset : Nat} {text : Text}
    (clean : (read offset text).problems = []) :
    ∃ body, Body body ∧ (divide text).1 = body ++ ['"'] := by
  induction text using reading_induction generalizing offset with
  | ended => simp [read_nil, Reading.problems] at clean
  | slash => simp [read_slash, Reading.problems] at clean
  | escape c text ih =>
    rw [read_escape] at clean
    simp only [Reading.problems, List.append_assoc, List.append_eq_nil_iff] at clean
    obtain ⟨here, later⟩ := clean
    obtain ⟨body, proper, taken⟩ := ih (List.append_eq_nil_iff.2 later)
    -- An escape that is not known would have been reported.
    have known : isKnownEscape c = true := by
      cases known : isKnownEscape c with
      | true => rfl
      | false => simp [known] at here
    refine ⟨'\\' :: c :: body, .escape known proper, ?_⟩
    rw [divide_escape, taken]
    rfl
  | close text => exact ⟨[], .nil, by rw [divide_close]; rfl⟩
  | stop c text breaking => simp [read_stop offset text breaking, Reading.problems] at clean
  | plain c text plain ih =>
    rw [read_plain offset text plain] at clean
    obtain ⟨body, proper, taken⟩ := ih clean
    refine ⟨c :: body, .plain plain proper, ?_⟩
    rw [divide_plain text plain, taken]
    rfl

end Lexing.Literal
