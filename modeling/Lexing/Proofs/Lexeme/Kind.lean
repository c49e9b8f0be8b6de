import Lexing.Proofs.Lexeme.Grammar
import Lexing.Proofs.Lexeme.Turn
import Lexing.Proofs.Text.Boundary

/-!
# Lexemes without their surroundings

Each kind of lexeme is a set of texts, told without saying what stands behind them: a run of digits
is a number whatever follows it, and so is each of its fronts. Whoever looks for the lexemes at the
front of a text finds several of them, of one kind or of two, and the recognizers have to choose.

They are tried one after the other, and the first that succeeds is taken. This is not a search for
the longest lexeme. It comes to one because no recognizer stops short of what its kind could take,
and because a text that starts like a lexeme of one kind starts like no other, except that a
comment starts with a symbol.

## Main definitions

* `Lexeme.Kind`, `Lexeme.Kind.recognizer`: the kinds of lexemes, and who recognizes them
* `Lexeme.IsLexeme`: the lexemes of each kind
* `Lexeme.Kind.ofText`: the kind that a lexeme has by how it starts

## Main results

* `Lexeme.IsLexeme.unique`: a lexeme is of one kind
* `Lexeme.exists_isLexeme_of_success`: a recognizer that succeeds has found a lexeme of its kind
* `Symbol.longest_of_find?_mergeSort`: in a table with longer symbols first, the first symbol that
  starts a text is the longest
* `Lexeme.Turn.longest`: no lexeme at the front of a text runs beyond the turn there
-/

namespace Lexing

open Text Unicode

namespace Lexeme

/-- The kinds of lexemes. -/
inductive Kind where
  | blank
  | comment
  | literal
  | number
  | name
  | symbol
  deriving DecidableEq, Repr

/-- Who recognizes the lexemes of a kind. -/
def Kind.recognizer : Kind → Recognizer
  | blank => Lexeme.blank
  | comment => Lexeme.comment
  | literal => Lexeme.literal
  | number => Lexeme.number
  | name => Lexeme.name
  | symbol => Lexeme.symbol

/-- The lexemes of each kind. -/
inductive IsLexeme : Kind → Text → Prop
  | blank {space : Text} (some : space ≠ []) (white : ∀ c ∈ space, isWhiteSpace c = true) :
      IsLexeme .blank space
  | comment {body : Text} (unbroken : ∀ c ∈ body, isBreak c = false) :
      IsLexeme .comment ('/' :: '/' :: body)
  | literal {body : Text} (proper : Literal.Body body) : IsLexeme .literal ('"' :: body ++ ['"'])
  | number {digits : Text} (some : digits ≠ []) (digit : ∀ c ∈ digits, c.isDigit = true) :
      IsLexeme .number digits
  | name {c : Char} {more : Text} (start : Name.isStart c = true)
      (part : ∀ d ∈ more, Name.isPart d = true) : IsLexeme .name (c :: more)
  | symbol {found : Symbol} (member : found ∈ Symbol.all) : IsLexeme .symbol found.text

/-- The kind that a lexeme has by how it starts. -/
def Kind.ofText : Text → Kind
  | '/' :: '/' :: _ => .comment
  | [] => .symbol
  | c :: _ =>
    if c = '"' then .literal
    else if isWhiteSpace c then .blank
    else if c.isDigit then .number
    else if Name.isStart c then .name
    else .symbol

/-- The recognizers of the language are those of the kinds. -/
theorem exists_kind_of_mem {recognizer : Recognizer} (member : recognizer ∈ standard) :
    ∃ kind : Kind, recognizer = kind.recognizer := by
  simp only [standard, List.mem_cons, List.not_mem_nil, or_false] at member
  rcases member with rfl | rfl | rfl | rfl | rfl | rfl
  · exact ⟨.blank, rfl⟩
  · exact ⟨.comment, rfl⟩
  · exact ⟨.literal, rfl⟩
  · exact ⟨.number, rfl⟩
  · exact ⟨.name, rfl⟩
  · exact ⟨.symbol, rfl⟩

namespace Kind

/-- A text that starts with another character than a slash is told apart by that. -/
theorem ofText_cons {c : Char} (slash : c ≠ '/') (text : Text) : ofText (c :: text) =
    if c = '"' then .literal
    else if isWhiteSpace c then .blank
    else if c.isDigit then .number
    else if Name.isStart c then .name
    else .symbol := by
  rw [ofText]
  simp [slash]

end Kind

namespace IsLexeme

variable {kind other : Kind} {piece : Text}

/-- A lexeme is a piece, where nothing follows it. -/
theorem toPiece (lexeme : IsLexeme kind piece) : Piece piece [] := by
  cases lexeme with
  | blank some white => exact .blank some white
  | comment unbroken => exact .comment unbroken
  | literal proper => exact .literal proper
  | number some digit => exact .number some digit (by simp)
  | name start part => exact .name start part
  | symbol member => exact .symbol member

/-- How a lexeme starts tells its kind. -/
theorem ofText_eq (lexeme : IsLexeme kind piece) : Kind.ofText piece = kind := by
  cases lexeme with
  | blank some white =>
    obtain ⟨c, more, rfl⟩ := List.exists_cons_of_ne_nil some
    have first := white c List.mem_cons_self
    have slash : c ≠ '/' := by
      rintro rfl
      exact absurd first (by decide)
    have quote : c ≠ '"' := by
      rintro rfl
      exact absurd first (by decide)
    rw [Kind.ofText_cons slash, if_neg quote, if_pos first]
  | comment unbroken => rfl
  | literal proper => rfl
  | number some digit =>
    obtain ⟨c, more, rfl⟩ := List.exists_cons_of_ne_nil some
    have first := digit c List.mem_cons_self
    have part := Name.isPart_of_isDigit first
    rw [Kind.ofText_cons (Name.ne_slash_of_isPart part), if_neg (Name.ne_quote_of_isPart part),
      Name.not_isWhiteSpace_of_isPart part, if_pos first]
    rfl
  | name start more =>
    have part := Name.isPart_of_isStart start
    rw [Kind.ofText_cons (Name.ne_slash_of_isPart part), if_neg (Name.ne_quote_of_isPart part),
      Name.not_isWhiteSpace_of_isPart part, Name.not_isDigit_of_isStart start, if_pos start]
    rfl
  | symbol member =>
    have each : ∀ found ∈ Symbol.all, Kind.ofText found.text = .symbol := by decide +kernel
    exact each _ member

/-- A lexeme is of one kind. -/
theorem unique (lexeme : IsLexeme kind piece) (also : IsLexeme other piece) : other = kind :=
  also.ofText_eq.symm.trans lexeme.ofText_eq

end IsLexeme

/-- A recognizer that succeeds has found a lexeme of its kind, and claims it. -/
theorem exists_isLexeme_of_success {kind : Kind} {text : Text} {success : Success}
    (ran : kind.recognizer.run text = .success success) :
    ∃ piece rest, text = piece ++ rest ∧ IsLexeme kind piece ∧
      size piece = success.claim.length := by
  have claims : ∀ {other : Success} {piece rest : Text}, text = piece ++ rest →
      IsLexeme kind piece → kind.recognizer.run text = .success other →
      size piece = other.claim.length → ∃ piece rest, text = piece ++ rest ∧
        IsLexeme kind piece ∧ size piece = success.claim.length := by
    intro other piece rest whole lexeme found length
    obtain rfl := Outcome.success.inj (found.symm.trans ran)
    exact ⟨piece, rest, whole, lexeme, length⟩
  have silent : kind.recognizer.run text ≠ .none := by simp [ran, Outcome.none]
  cases kind with
  | blank =>
    rcases blank_cases text with none | ⟨space, rest, whole, some, front, found⟩
    · exact absurd none silent
    · exact claims whole (.blank some front.inside) found rfl
  | comment =>
    rcases comment_cases text with none | ⟨body, rest, whole, front, found⟩
    · exact absurd none silent
    · exact claims whole (.comment (by simpa using front.inside)) found rfl
  | literal =>
    rcases literal_cases text with none | ⟨body, rest, whole, proper, found⟩ | ⟨_, _, _, failed⟩
    · exact absurd none silent
    · exact claims whole (.literal proper) found rfl
    · exact absurd (failed.symm.trans ran) (by simp)
  | number =>
    rcases number_cases text with none | ⟨digits, rest, whole, some, front, found⟩ |
      ⟨_, _, _, _, _, _, _, failed⟩
    · exact absurd none silent
    · exact claims whole (.number some front.inside) found rfl
    · exact absurd (failed.symm.trans ran) (by simp)
  | name =>
    rcases name_cases text with none | ⟨c, more, rest, whole, start, front, found⟩
    · exact absurd none silent
    · have part : ∀ d ∈ more, Name.isPart d = true := fun d inside =>
        front.inside d (List.mem_cons_of_mem _ inside)
      exact claims whole (.name start part) found rfl
  | symbol =>
    rcases symbol_cases text with none | ⟨symbol, rest, whole, member, found⟩
    · exact absurd none silent
    · exact claims whole (.symbol member) found rfl

end Lexeme

/-! ### Longer symbols first -/

namespace Symbol

/-- The longer one of two symbols goes first. -/
def longerFirst (a b : Symbol) : Bool := decide (size b.text ≤ size a.text)

/-- In a table with longer symbols first, the first symbol that starts a text is the longest one
that does, in whatever order the table was before. -/
theorem longest_of_find?_mergeSort {table : List Symbol} {text : Text} {symbol : Symbol}
    (found : (table.mergeSort longerFirst).find? (·.text.isPrefixOf text) = some symbol) :
    ∀ other ∈ table, other.text <+: text → other.text <+: symbol.text := by
  have descending : (table.mergeSort longerFirst).Pairwise fun a b => longerFirst a b = true := by
    apply List.pairwise_mergeSort
    · intro a b c
      simp only [longerFirst, decide_eq_true_eq]
      omega
    · intro a b
      simp only [longerFirst, Bool.or_eq_true, decide_eq_true_eq]
      omega
  simp only [longerFirst, decide_eq_true_eq] at descending
  intro other member starts
  have shorter := le_of_find? descending found other (List.mem_mergeSort.2 member) starts
  have there : symbol.text.isPrefixOf text = true := by simpa using List.find?_some found
  obtain ⟨left, short⟩ := starts
  obtain ⟨rest, long⟩ := List.isPrefixOf_iff_prefix.1 there
  obtain ⟨more, longer, -⟩ := exists_append_of_size_le (short.trans long.symm) shorter
  exact ⟨more, longer.symm⟩

/-- The table of the language has longer symbols first already. -/
theorem mergeSort_all : all.mergeSort longerFirst = all := by
  apply List.mergeSort_of_pairwise
  decide

end Symbol

namespace Lexeme

/-- A piece that starts a text starts with its first character. -/
theorem head_of_prefix {piece text : Text} {c : Char} (there : piece <+: c :: text)
    (some : piece ≠ []) : piece.head? = .some c := by
  obtain ⟨rest, whole⟩ := there
  exact head_of_cons_eq_append whole.symm some

/-- No lexeme at the front of a text runs beyond the turn there, if that succeeds. -/
theorem Turn.longest {span rest piece : Text} {success : Success} {kind : Kind}
    (turn : Turn span rest (.accepted success)) (lexeme : IsLexeme kind piece)
    (there : piece <+: span ++ rest) : piece <+: span := by
  have first := lexeme.toPiece
  cases turn with
  | blank some front =>
    obtain ⟨c, space, rfl⟩ := List.exists_cons_of_ne_nil some
    have head := head_of_prefix there first.ne_nil
    have white := first.white_of_head head (front.inside c List.mem_cons_self)
    -- White space cannot reach into what follows a blank.
    refine @prefix_of_prefix_append (!isWhiteSpace ·) _ _ _ ?_ ?_ there
    · simpa using white
    · simpa using front.stops
  | @comment body rest front =>
    have head := head_of_prefix there first.ne_nil
    refine @prefix_of_prefix_append isBreak _ _ _ ?_ ?_ there
    · intro c inside
      rw [Bool.eq_false_iff]
      intro breaking
      have white := first.white_of_isBreak inside breaking '/' (List.mem_of_mem_head? head)
      exact absurd white (by decide)
    · simpa using front.stops
  | @literal body rest proper =>
    have head := head_of_prefix there first.ne_nil
    obtain ⟨other, also, rfl⟩ := first.literal_of_head head
    obtain ⟨left, whole⟩ := there
    -- Both literals are what is taken in behind the same quote.
    have divided := Literal.divide_body proper rest
    rw [show body ++ '"' :: rest = other ++ '"' :: left by simpa using whole.symm,
      Literal.divide_body also left] at divided
    have same : '"' :: other ++ ['"'] = '"' :: body ++ ['"'] :=
      congrArg ('"' :: ·) (Prod.mk.inj divided).1
    exact ⟨[], (List.append_nil _).trans same⟩
  | number some front apart =>
    obtain ⟨c, digits, rfl⟩ := List.exists_cons_of_ne_nil some
    have head := head_of_prefix there first.ne_nil
    have digit := (first.number_of_head head (front.inside c List.mem_cons_self)).1
    refine @prefix_of_prefix_append (!Char.isDigit ·) _ _ _ ?_ ?_ there
    · simpa using digit
    · simpa using front.stops
  | name start front =>
    have head := head_of_prefix there first.ne_nil
    have part := first.part_of_head head (Name.isPart_of_isStart start)
    refine @prefix_of_prefix_append (!Name.isPart ·) _ _ _ ?_ ?_ there
    · simpa using part
    · simpa using front.stops
  | @symbol found rest slashless search =>
    obtain ⟨c, more, shape, part, dark, quote⟩ :=
      Symbol.exists_cons_of_mem (List.mem_of_find?_eq_some search)
    have starts : piece <+: c :: (more ++ rest) := by rwa [shape] at there
    have head := head_of_prefix starts first.ne_nil
    have slashes : ¬ ['/', '/'] <+: piece ++ [] := by
      rw [List.append_nil]
      intro comment
      exact slashless (comment.trans there)
    obtain ⟨symbol, member, rfl⟩ := first.symbol_of_head head dark quote
      (Name.not_isDigit_of_not_isPart part) (Name.not_isStart_of_not_isPart part) slashes
    rw [← Symbol.mergeSort_all] at search
    exact Symbol.longest_of_find?_mergeSort search symbol member there

end Lexeme

end Lexing
