import Lexing.Proofs.Lexeme.Outcomes

/-!
# The grammar of the language

A text is in the language if it can be cut into pieces, each a lexeme of some kind. The same text
may have several cuts: two digits are one number or two, and an equality sign before another is a
symbol of its own or half of one. So a text is not in the language for the sake of one cut, and
whoever takes more than the first piece of a cut has to find another cut for what is left.

## Main definitions

* `Lexeme.Piece`: the pieces of a cut, each with what is left behind it
* `Lexeme.Cuts`: the texts that can be cut into pieces

## Main results

* `Lexeme.Cuts.behind_front`, `Lexeme.Cuts.behind_digits`: a cut may be taken up behind all
  characters of a class
* `Lexeme.Cuts.behind_break`: a cut may be taken up at every breaking character
* `Lexeme.Cuts.behind_symbol`: a cut may be taken up behind the longest symbol
-/

namespace Lexing.Lexeme

open Text Unicode

/-- A piece of a cut, before what is left of the text. -/
inductive Piece : Text → Text → Prop
  | blank {space rest : Text} (some : space ≠ []) (white : ∀ c ∈ space, isWhiteSpace c = true) :
      Piece space rest
  | comment {body rest : Text} (unbroken : ∀ c ∈ body, isBreak c = false) :
      Piece ('/' :: '/' :: body) rest
  | literal {body rest : Text} (proper : Literal.Body body) : Piece ('"' :: body ++ ['"']) rest
  /-- Digits are a number unless a name starts right behind them. -/
  | number {digits rest : Text} (some : digits ≠ []) (digit : ∀ c ∈ digits, c.isDigit = true)
      (apart : ∀ c ∈ rest.head?, Name.isStart c = false) : Piece digits rest
  | name {c : Char} {more rest : Text} (start : Name.isStart c = true)
      (part : ∀ d ∈ more, Name.isPart d = true) : Piece (c :: more) rest
  | symbol {symbol : Symbol} {rest : Text} (member : symbol ∈ Symbol.all) : Piece symbol.text rest

/-- The texts that can be cut into pieces. -/
inductive Cuts : Text → Prop
  | nil : Cuts []
  | cons {piece rest : Text} (first : Piece piece rest) (later : Cuts rest) : Cuts (piece ++ rest)

namespace Piece

variable {piece rest : Text}

theorem ne_nil (first : Piece piece rest) : piece ≠ [] := by
  cases first with
  | blank some white => exact some
  | number some digit apart => exact some
  | symbol member => exact Symbol.text_ne_nil member
  | comment | literal | name => simp

/-- A piece is white space, a number, a name, or it starts with a character of neither. -/
theorem kinds (first : Piece piece rest) :
    (∀ c ∈ piece, isWhiteSpace c = true) ∨
    ((∀ c ∈ piece, c.isDigit = true) ∧ ∀ c ∈ rest.head?, Name.isStart c = false) ∨
    ((∀ c ∈ piece.head?, Name.isStart c = true) ∧ ∀ c ∈ piece, Name.isPart c = true) ∨
    ∀ c ∈ piece.head?, isWhiteSpace c = false ∧ Name.isPart c = false := by
  cases first with
  | blank some white => exact .inl white
  | number some digit apart => exact .inr (.inl ⟨digit, apart⟩)
  | @name c more rest start part =>
    have all : ∀ d ∈ c :: more, Name.isPart d = true :=
      List.forall_mem_cons.2 ⟨Name.isPart_of_isStart start, part⟩
    exact .inr (.inr (.inl ⟨forall_head_cons start more, all⟩))
  | comment | literal => exact .inr (.inr (.inr (forall_head_cons (by decide) _)))
  | symbol member =>
    obtain ⟨c, more, shape, part, dark, -⟩ := Symbol.exists_cons_of_mem member
    rw [shape]
    exact .inr (.inr (.inr (forall_head_cons ⟨dark, part⟩ more)))

/-- A piece that starts with white space is white space. -/
theorem white_of_head {c : Char} (first : Piece piece rest) (head : c ∈ piece.head?)
    (white : isWhiteSpace c = true) : ∀ d ∈ piece, isWhiteSpace d = true := by
  have inside := List.mem_of_mem_head? head
  rcases first.kinds with blank | ⟨digit, -⟩ | ⟨-, part⟩ | other
  · exact blank
  · rw [Name.not_isWhiteSpace_of_isPart (Name.isPart_of_isDigit (digit c inside))] at white
    contradiction
  · rw [Name.not_isWhiteSpace_of_isPart (part c inside)] at white
    contradiction
  · rw [(other c head).1] at white
    contradiction

/-- A piece that starts with a digit is a number. -/
theorem number_of_head {c : Char} (first : Piece piece rest) (head : c ∈ piece.head?)
    (digit : c.isDigit = true) :
    (∀ d ∈ piece, d.isDigit = true) ∧ ∀ d ∈ rest.head?, Name.isStart d = false := by
  have part := Name.isPart_of_isDigit digit
  rcases first.kinds with blank | number | ⟨start, -⟩ | other
  · rw [Name.not_isPart_of_isWhiteSpace (blank c (List.mem_of_mem_head? head))] at part
    contradiction
  · exact number
  · have clash := start c head
    rw [Name.not_isStart_of_isDigit digit] at clash
    contradiction
  · rw [(other c head).2] at part
    contradiction

/-- A piece that starts with a character of names consists of such characters. -/
theorem part_of_head {c : Char} (first : Piece piece rest) (head : c ∈ piece.head?)
    (part : Name.isPart c = true) : ∀ d ∈ piece, Name.isPart d = true := by
  rcases first.kinds with blank | ⟨digit, -⟩ | ⟨-, all⟩ | other
  · rw [Name.not_isPart_of_isWhiteSpace (blank c (List.mem_of_mem_head? head))] at part
    contradiction
  · exact fun d inside => Name.isPart_of_isDigit (digit d inside)
  · exact all
  · rw [(other c head).2] at part
    contradiction

/-- A piece that starts with a quote is a literal. -/
theorem literal_of_head (first : Piece piece rest) (head : '"' ∈ piece.head?) :
    ∃ body, Literal.Body body ∧ piece = '"' :: body ++ ['"'] := by
  cases first with
  | literal proper => exact ⟨_, proper, rfl⟩
  | blank some white => exact absurd (white _ (List.mem_of_mem_head? head)) (by decide)
  | comment => exact absurd head (by simp)
  | number some digit => exact absurd (digit _ (List.mem_of_mem_head? head)) (by decide)
  | name start =>
    obtain rfl : _ = '"' := by simpa using head
    exact absurd start (by decide)
  | symbol member =>
    obtain ⟨c, more, shape, -, -, quote⟩ := Symbol.exists_cons_of_mem member
    rw [shape] at head
    exact absurd (by simpa using head) quote

/-- A piece that starts with none of the characters of other lexemes is a symbol. -/
theorem symbol_of_head {c : Char} (first : Piece piece rest) (head : c ∈ piece.head?)
    (dark : isWhiteSpace c = false) (quoteless : c ≠ '"') (digitless : c.isDigit = false)
    (startless : Name.isStart c = false) (slashless : ¬ ['/', '/'] <+: piece ++ rest) :
    ∃ symbol ∈ Symbol.all, piece = symbol.text := by
  cases first with
  | symbol member => exact ⟨_, member, rfl⟩
  | blank some white =>
    rw [white c (List.mem_of_mem_head? head)] at dark
    contradiction
  | comment => exact absurd ⟨_, rfl⟩ slashless
  | literal => exact absurd (by simpa using head.symm) quoteless
  | number some digit =>
    rw [digit c (List.mem_of_mem_head? head)] at digitless
    contradiction
  | name start =>
    obtain rfl : _ = c := by simpa using head
    rw [start] at startless
    contradiction

/-- Only white space holds a breaking character. -/
theorem white_of_isBreak {c : Char} (first : Piece piece rest) (inside : c ∈ piece)
    (breaking : isBreak c = true) : ∀ d ∈ piece, isWhiteSpace d = true := by
  have absent : isBreak c = false → ∀ d ∈ piece, isWhiteSpace d = true := by
    intro plain
    rw [plain] at breaking
    contradiction
  cases first with
  | blank some white => exact white
  | @comment body rest unbroken =>
    apply absent
    have slash : isBreak '/' = false := by decide
    have plain : ∀ d ∈ '/' :: '/' :: body, isBreak d = false := by
      simpa [slash] using unbroken
    exact plain c inside
  | @literal body rest proper =>
    apply absent
    have quote : isBreak '"' = false := by decide
    have unbroken : hasBreak ('"' :: body ++ ['"']) = false := by
      simp [quote, proper.not_hasBreak]
    simpa using List.any_eq_false.1 unbroken c inside
  | number some digit =>
    exact absent (Name.not_isBreak_of_isPart (Name.isPart_of_isDigit (digit c inside)))
  | @name d more rest start part =>
    have all : ∀ e ∈ d :: more, Name.isPart e = true :=
      List.forall_mem_cons.2 ⟨Name.isPart_of_isStart start, part⟩
    exact absent (Name.not_isBreak_of_isPart (all c inside))
  | symbol member => exact absent (Symbol.plain_of_mem member c inside).2

end Piece

namespace Cuts

variable {text front rest : Text}

/-- A text that is cut and not empty starts with a piece. -/
theorem exists_piece (cuts : Cuts text) (some : text ≠ []) :
    ∃ piece rest, text = piece ++ rest ∧ Piece piece rest ∧ Cuts rest := by
  cases cuts with
  | nil => contradiction
  | cons first later => exact ⟨_, _, rfl, first, later⟩

/-- A cut may be taken up behind all characters of a class that stand at the front, if no piece that
starts in the class goes beyond it. The last piece before that is all in the class, too. -/
theorem behind_front {kind : Char → Bool}
    (closed : ∀ {piece rest : Text} {c : Char}, Piece piece rest → c ∈ piece.head? →
      kind c = true → ∀ d ∈ piece, kind d = true)
    (cuts : Cuts (front ++ rest)) (isFront : IsFront kind front rest) (some : front ≠ []) :
    Cuts rest ∧ ∃ piece, piece ≠ [] ∧ (∀ c ∈ piece, kind c = true) ∧ Piece piece rest := by
  -- The induction is on the pieces of the cut. The front shrinks by each piece that lies inside it.
  generalize whole : front ++ rest = text at cuts
  induction cuts generalizing front with
  | nil => exact absurd (List.append_eq_nil_iff.1 whole).1 some
  | @cons piece tail first later ih =>
    obtain ⟨c, more, rfl⟩ := List.exists_cons_of_ne_nil some
    -- The first piece starts where the front does, so it is in the class.
    have head := head_of_cons_eq_append whole first.ne_nil
    have same := closed first head (isFront.inside c List.mem_cons_self)
    -- Either the piece reaches to the end of the front, or some of the front is left behind it.
    rcases List.append_eq_append_iff.1 whole with ⟨extra, rfl, rfl⟩ | ⟨left, shape, rfl⟩
    · cases extra with
      | nil => exact ⟨later, _, first.ne_nil, same, by simpa using first⟩
      | cons d extra =>
        -- The piece would take a character that the front stops at.
        have beyond : kind d = false := isFront.stops d rfl
        rw [same d (by simp)] at beyond
        contradiction
    · cases left with
      | nil => exact ⟨later, piece, first.ne_nil, same, first⟩
      | cons d left =>
        have remaining : IsFront kind (d :: left) rest := by
          refine ⟨?_, isFront.stops⟩
          intro e inside
          apply isFront.inside
          rw [shape]
          exact List.mem_append_right _ inside
        exact ih remaining (by simp) rfl

/-- A cut may be taken up behind all digits, and no name starts there. -/
theorem behind_digits (cuts : Cuts (front ++ rest)) (isFront : IsFront Char.isDigit front rest)
    (some : front ≠ []) : Cuts rest ∧ ∀ c ∈ rest.head?, Name.isStart c = false := by
  obtain ⟨later, piece, full, digit, last⟩ :=
    cuts.behind_front (fun first head digit => (first.number_of_head head digit).1) isFront some
  obtain ⟨c, more, rfl⟩ := List.exists_cons_of_ne_nil full
  exact ⟨later, (last.number_of_head rfl (digit c List.mem_cons_self)).2⟩

/-- A cut may be taken up at every breaking character: it stands inside white space. -/
theorem behind_break (cuts : Cuts (front ++ rest)) (stop : ∀ c ∈ rest.head?, isBreak c = true) :
    Cuts rest := by
  generalize whole : front ++ rest = text at cuts
  induction cuts generalizing front with
  | nil =>
    rw [(List.append_eq_nil_iff.1 whole).2]
    exact .nil
  | @cons piece tail first later ih =>
    rcases List.append_eq_append_iff.1 whole with ⟨space, rfl, rfl⟩ | ⟨left, rfl, rfl⟩
    · cases space with
      | nil => exact later
      | cons c space =>
        -- What is left of the piece is white space, and so a piece of its own.
        have white := first.white_of_isBreak (by simp) (stop c rfl)
        exact .cons (.blank (by simp) fun d inside => white d (List.mem_append_right _ inside))
          later
    · exact ih rfl

/-- A text that starts like a symbol is cut behind a symbol. -/
theorem exists_symbol {c : Char} (cuts : Cuts (c :: text)) (dark : isWhiteSpace c = false)
    (quoteless : c ≠ '"') (digitless : c.isDigit = false) (startless : Name.isStart c = false)
    (slashless : ¬ ['/', '/'] <+: c :: text) :
    ∃ symbol ∈ Symbol.all, ∃ rest, c :: text = symbol.text ++ rest ∧ Cuts rest := by
  obtain ⟨piece, rest, whole, first, later⟩ := cuts.exists_piece (by simp)
  have head := head_of_cons_eq_append whole first.ne_nil
  rw [whole] at slashless
  obtain ⟨symbol, member, same⟩ :=
    first.symbol_of_head head dark quoteless digitless startless slashless
  exact ⟨symbol, member, rest, by rw [whole, same], later⟩

/-- A symbol that goes on where another ends does so by one of two characters. -/
theorem symbol_goes_on {short long : Symbol} (short_mem : short ∈ Symbol.all)
    (long_mem : long ∈ Symbol.all) (starts : short.text <+: long.text)
    (shorter : short.text.length < long.text.length) :
    long.text = short.text ++ ['='] ∨ long.text = short.text ++ ['>'] := by
  have each : ∀ short ∈ Symbol.all, ∀ long ∈ Symbol.all, short.text <+: long.text →
      short.text.length < long.text.length →
      long.text = short.text ++ ['='] ∨ long.text = short.text ++ ['>'] := by decide
  exact each short short_mem long long_mem starts shorter

/-- These two characters are symbols, and only an equality sign ever follows them. -/
theorem symbol_of_second {c : Char} (second : c = '=' ∨ c = '>') {next : Symbol}
    (member : next ∈ Symbol.all) (head : next.text.head? = some c) :
    next.text = [c] ∨ next.text = [c, '='] := by
  have equality : ∀ next ∈ Symbol.all, next.text.head? = some '=' →
      next.text = ['='] ∨ next.text = ['=', '='] := by decide
  have greater : ∀ next ∈ Symbol.all, next.text.head? = some '>' →
      next.text = ['>'] ∨ next.text = ['>', '='] := by decide
  rcases second with rfl | rfl
  · exact equality next member head
  · exact greater next member head

/-- A cut that starts with one of these two characters may be taken up behind it. -/
theorem behind_second {c : Char} (second : c = '=' ∨ c = '>') (cuts : Cuts (c :: rest)) :
    Cuts rest := by
  have plain : isWhiteSpace c = false ∧ c ≠ '"' ∧ c.isDigit = false ∧ Name.isStart c = false ∧
      c ≠ '/' := by
    rcases second with rfl | rfl <;> decide
  obtain ⟨dark, quoteless, digitless, startless, slash⟩ := plain
  obtain ⟨next, member, behind, split, last⟩ :=
    cuts.exists_symbol dark quoteless digitless startless (not_slashes_of_head slash rest)
  have head := head_of_cons_eq_append split (Symbol.text_ne_nil member)
  rcases symbol_of_second second member head with alone | pair
  · rw [alone] at split
    have left : rest = behind := (List.cons.inj split).2
    rw [left]
    exact last
  · rw [pair] at split
    -- The equality sign is a symbol of its own.
    have left : rest = ['='] ++ behind := (List.cons.inj split).2
    rw [left]
    exact .cons (.symbol (by decide : (⟨['='], .operator⟩ : Symbol) ∈ Symbol.all)) last

/-- A cut may be taken up behind the longest symbol. Where its own piece is shorter, the piece after
it starts with the character that is missing. -/
theorem behind_symbol {found : Symbol} (cuts : Cuts (found.text ++ rest))
    (slashless : ¬ ['/', '/'] <+: found.text ++ rest)
    (first : Symbol.all.find? (·.text.isPrefixOf (found.text ++ rest)) = some found) :
    Cuts rest := by
  have member := List.mem_of_find?_eq_some first
  obtain ⟨c, more, shape, part, dark, quote⟩ := Symbol.exists_cons_of_mem member
  have digitless := Name.not_isDigit_of_not_isPart part
  have startless := Name.not_isStart_of_not_isPart part
  rw [shape, List.cons_append] at cuts slashless
  obtain ⟨other, other_mem, tail, whole, later⟩ :=
    cuts.exists_symbol dark quote digitless startless slashless
  rw [← List.cons_append, ← shape] at whole
  have longest := Symbol.longest_of_find? first other other_mem ⟨tail, whole.symm⟩
  -- The piece of the cut and the symbol start together, so one of them starts the other.
  rcases List.append_eq_append_iff.1 whole with ⟨extra, same, left⟩ | ⟨missing, same, rfl⟩
  · -- The piece is no longer than the symbol, so it is the symbol.
    have none : extra = [] := by
      rw [same, List.length_append] at longest
      exact List.length_eq_zero_iff.1 (by omega)
    rw [left, none]
    exact later
  · cases missing with
    | nil => exact later
    | cons d missing =>
      have shorter : other.text.length < found.text.length := by
        rw [same, List.length_append, List.length_cons]
        omega
      -- The symbol ends with one character of the next piece.
      have goes_on := symbol_goes_on other_mem member ⟨_, same.symm⟩ shorter
      rw [same] at goes_on
      rcases goes_on with equality | greater
      · obtain ⟨rfl, rfl⟩ := List.cons.inj (List.append_cancel_left equality)
        exact behind_second (.inl rfl) later
      · obtain ⟨rfl, rfl⟩ := List.cons.inj (List.append_cancel_left greater)
        exact behind_second (.inr rfl) later

end Cuts

end Lexing.Lexeme
