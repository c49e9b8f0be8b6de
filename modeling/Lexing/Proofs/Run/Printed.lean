import Lexing.Keyword
import Lexing.Proofs.Lexeme.Context
import Lexing.Proofs.Run.Turns

/-!
# Tokens that are printed and read again

The tokens of a text, printed with white space between them, make up another text, and that text has
the same tokens and nothing wrong with it. It does not matter what was wrong with the first text: a
token that stood behind a bad number or before half a literal is a token of its own.

## Main definitions

* `Token.shown`: what a token shows wherever it stands, its text and its tags
* `Token.Standalone`: the text of a token is a token of the language by itself
* `Token.printAll`: the texts of tokens with white space between them

## Main results

* `Cursor.Turns.standalone`: all tokens of a run are such
* `Cursor.shown_of_printed`: such tokens are read back as they were printed
* `Cursor.tokens_of_printed`: printing the tokens of a text and reading them again changes nothing
-/

namespace Lexing

open Text Unicode Lexeme

/-! ### What is printed of tokens -/

namespace Token

/-- The text and the tags of a token, without its place. -/
def shown (token : Token) : Text × TagSet := (token.content.text, token.tags)

/-- The text of the token, standing alone, is one turn, which asks for the tags of the token. -/
def Standalone (token : Token) : Prop :=
  ∃ success tags, Turn token.content.text [] (.accepted success) ∧ success.tags = some tags ∧
    token.tags = .ofList tags

/-- The texts of tokens, with `space` between each and the next. -/
def printAll (space : Text) (tokens : List Token) : Text :=
  List.intercalate space (tokens.map (·.content.text))

theorem printAll_cons_cons (space : Text) (first second : Token) (tokens : List Token) :
    printAll space (first :: second :: tokens) =
      first.content.text ++ (space ++ printAll space (second :: tokens)) := by
  rw [printAll, List.map_cons, List.map_cons, List.intercalate_cons_cons, List.append_assoc]
  rfl

/-- Becoming a keyword changes no text. -/
@[simp] theorem content_promote (token : Token) : token.promote.content = token.content := by
  unfold promote
  split <;> rfl

theorem printAll_promoteAll (space : Text) (tokens : List Token) :
    printAll space (promoteAll tokens) = printAll space tokens := by
  simp [printAll, promoteAll, Function.comp_def]

/-- Whether a token becomes a keyword can be told from what it shows. -/
theorem shown_promote {a b : Token} (same : a.shown = b.shown) :
    a.promote.shown = b.promote.shown := by
  obtain ⟨text, tags⟩ := Prod.mk.inj same
  have spells : a.spellsKeyword = b.spellsKeyword := by rw [spellsKeyword, spellsKeyword, text]
  have named : a.has "identifier" = b.has "identifier" := by rw [has, has, tags]
  rw [promote, promote, spells, named]
  split
  · rw [shown, shown, add, add, delete, delete, text, tags]
  · exact same

theorem shown_promoteAll {tokens others : List Token}
    (same : tokens.map shown = others.map shown) :
    (promoteAll tokens).map shown = (promoteAll others).map shown := by
  induction tokens generalizing others with
  | nil =>
    obtain rfl : others = [] := by simpa using same.symm
    rfl
  | cons token tokens ih =>
    obtain ⟨other, others, rfl, first, rest⟩ := List.map_eq_cons_iff.1 same.symm
    exact congrArg₂ List.cons (shown_promote first.symm) (ih rest.symm)

/-- What is printed of tokens starts with no white space if the first of them can stand alone. -/
theorem Standalone.not_isWhiteSpace_of_printAll {token : Token} (standalone : token.Standalone)
    (space : Text) (tokens : List Token) :
    ∀ c ∈ (printAll space (token :: tokens)).head?, isWhiteSpace c = false := by
  obtain ⟨success, tags, turn, tagged, -⟩ := standalone
  have telling : ∀ other, Verdict.accepted success = .accepted other → other.tags ≠ none := by
    rintro _ ⟨⟩
    simp [tagged]
  have dark := turn.not_isWhiteSpace_of_head telling
  rw [List.append_nil] at dark
  cases tokens with
  | nil => simpa [printAll] using dark
  | cons second tokens =>
    rw [printAll_cons_cons]
    exact forall_head_append dark fun none => absurd none turn.span_ne_nil

end Token

namespace Cursor

variable {cursor : Cursor}

/-- The tokens of a run can all stand alone. -/
theorem Turns.standalone {run : Run} (turns : Turns cursor run) :
    ∀ token ∈ run.tokens, token.Standalone := by
  induction turns with
  | complete done => simp [Run.tokens]
  | @after cursor span rest verdict run ahead turn later ih =>
    intro token made
    rw [Run.tokens_after, List.mem_append, Option.mem_toList] at made
    rcases made with here | there
    · obtain ⟨success, tags, rfl, tagged, rfl⟩ := exists_of_mem_token here
      exact ⟨success, tags, turn.alone, tagged, rfl⟩
    · exact ih token there

/-- A token that can stand alone is read where white space or nothing follows it. -/
theorem run_of_standalone {token : Token} {rest : Text} (standalone : token.Standalone)
    (white : ∀ c ∈ rest.head?, isWhiteSpace c = true)
    (ahead : cursor.ahead = token.content.text ++ rest) :
    ∃ next : Cursor, next.ahead = rest ∧
      (cursor.run standard).diagnostics = (next.run standard).diagnostics ∧
      (cursor.run standard).tokens.map Token.shown =
        token.shown :: (next.run standard).tokens.map Token.shown := by
  obtain ⟨success, tags, turn, tagged, same⟩ := standalone
  have here : Turn token.content.text rest (.accepted success) :=
    turn.append white (.inr (by simp [tagged]))
  refine ⟨cursor.beyond success.claim token.content.text rest, rfl, ?_⟩
  rw [run_of_turn ahead here, Run.diagnostics_after, Run.tokens_after]
  refine ⟨rfl, ?_⟩
  simp [played, Verdict.token, Verdict.claim, Token.ofSuccess?, tagged, Token.ofTags, Token.shown,
    same]

/-- Tokens that can stand alone are read back as they were printed. -/
theorem shown_of_printed {space : Text} {tokens : List Token} (some : space ≠ [])
    (white : ∀ c ∈ space, isWhiteSpace c = true)
    (standalone : ∀ token ∈ tokens, token.Standalone)
    (ahead : cursor.ahead = Token.printAll space tokens) :
    (cursor.run standard).diagnostics = [] ∧
      (cursor.run standard).tokens.map Token.shown = tokens.map Token.shown := by
  induction tokens generalizing cursor with
  | nil =>
    rw [run_of_ahead_eq_nil ahead]
    exact ⟨rfl, rfl⟩
  | cons first tokens ih =>
    obtain ⟨alone, others⟩ := List.forall_mem_cons.1 standalone
    cases tokens with
    | nil =>
      -- Nothing is put behind the last token.
      have last : cursor.ahead = first.content.text ++ [] := by simpa [Token.printAll] using ahead
      obtain ⟨next, done, reported, read⟩ := run_of_standalone alone (by simp) last
      rw [reported, read, run_of_ahead_eq_nil done]
      exact ⟨rfl, rfl⟩
    | cons second tokens =>
      rw [Token.printAll_cons_cons] at ahead
      -- The white space in front of the second token is all in one blank.
      have front : IsFront isWhiteSpace space (Token.printAll space (second :: tokens)) :=
        ⟨white, (others second List.mem_cons_self).not_isWhiteSpace_of_printAll space tokens⟩
      have starts : ∀ c ∈ (space ++ Token.printAll space (second :: tokens)).head?,
          isWhiteSpace c = true :=
        forall_head_append (fun c first => white c (List.mem_of_mem_head? first))
          fun none => absurd none some
      obtain ⟨next, left, reported, read⟩ := run_of_standalone alone starts ahead
      obtain ⟨same, silent, -⟩ := run_of_blank left front
      obtain ⟨clean, later⟩ := ih others
        (ahead_beyond next ⟨size space, hasBreak space, true⟩ space _)
      rw [reported, read, same, silent, clean, later]
      exact ⟨rfl, rfl⟩

/-- Printing the tokens of a text, with the same white space between each and the next, and reading
them again changes nothing, whatever was wrong with the text: there is nothing wrong any more, and
the same tokens come out, keywords included. Neither the names of the two files nor their tab rules
play any part. -/
theorem tokens_of_printed {space : Text} (some : space ≠ [])
    (white : ∀ c ∈ space, isWhiteSpace c = true) (file other : String) (rule otherRule : TabRule)
    (text : Text) :
    let run := (ofText file rule text).run standard
    let tokens := Token.promoteAll run.tokens
    let again := (ofText other otherRule (Token.printAll space tokens)).run standard
    run.ending = .complete ∧ again.ending = .complete ∧ again.diagnostics = [] ∧
      (Token.promoteAll again.tokens).map Token.shown = tokens.map Token.shown := by
  intro run tokens again
  have turns : Turns (ofText file rule text) run := turns_run _
  have printed : (ofText other otherRule (Token.printAll space tokens)).ahead =
      Token.printAll space run.tokens := Token.printAll_promoteAll space run.tokens
  obtain ⟨silent, same⟩ := shown_of_printed some white turns.standalone printed
  exact ⟨turns.ending_eq, (turns_run _).ending_eq, silent, Token.shown_promoteAll same⟩

/-- A text with a number that runs on into a name, an unknown escape, a keyword right before a
slash, two slashes apart, and a comment. Printed on lines of their own its tokens are read back. -/
theorem tokens_of_printed_lines :
    let text : Text := "9z \"a\\q\" let/ /==\"b\"x//c".toList
    let run := (ofText "file" .flat text).run standard
    let again := (ofText "file" .flat (Token.printAll ['\n'] (Token.promoteAll run.tokens))).run
      standard
    run.diagnostics ≠ [] ∧
    run.tokens.map (·.content.text) =
      [['l', 'e', 't'], ['/'], ['/'], ['=', '='], ['"', 'b', '"'], ['x']] ∧
    again.diagnostics = [] ∧ (Token.promoteAll again.tokens).map Token.shown =
      (Token.promoteAll run.tokens).map Token.shown := by
  intro text run again
  have feed : isWhiteSpace '\n' = true := by decide
  have white : ∀ c ∈ ['\n'], isWhiteSpace c = true := by simpa using feed
  obtain ⟨-, -, silent, same⟩ := tokens_of_printed (by simp) white "file" "file" .flat .flat text
  exact ⟨by decide +kernel, by decide +kernel, silent, same⟩

end Cursor

end Lexing
