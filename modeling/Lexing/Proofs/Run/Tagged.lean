import Lexing.Proofs.Run.Printed
import Mathlib.Data.List.Forall2

/-!
# Tags that the text decides

The tags of a token come from the recognizer that won the round, and a second pass over all tokens
changes some of them. Whoever holds a token sees neither: what was tried before in the round, what
stood around the token, which of its tags the second pass put there. Nor need they. In the language
a text has one set of tags, which can be read off the text alone, for most of it off the first
character.

The second pass knows less than that. It is given tokens with any texts and any tags, of whatever
origin, and must leave alone all that are not names, though they spell a keyword.

## Main definitions

* `Token.NamesKeyword`: a token is a name and spells a keyword
* `Token.Promoted`: what the second pass may change of a token
* `Lexeme.tags?`: the tags of a text

## Main results

* `Token.promoted_promote`, `Token.promote_promote`: the second pass, token by token
* `Token.Standalone.tags?_eq`: a token of the language has the tags of its text
* `Cursor.tags_of_content`: all tokens of all texts have the tags of their text
-/

namespace Lexing

open Text

/-! ### The second pass -/

namespace Token

variable {token : Token}

/-- The token is a name and spells a keyword. -/
def NamesKeyword (token : Token) : Prop :=
  "identifier" ∈ token.tags ∧ String.ofList token.content.text ∈ keywords

/-- What the second pass may make of a token: it stays where it is and shows what it showed. If it
names a keyword, it becomes one and is a name no more, whatever else it is; otherwise it keeps its
tags. -/
structure Promoted (token promoted : Token) : Prop where
  origin : promoted.origin = token.origin
  content : promoted.content = token.content
  tags : token.NamesKeyword →
    ∀ tag, tag ∈ promoted.tags ↔ tag = "keyword" ∨ tag ∈ token.tags ∧ tag ≠ "identifier"
  kept : ¬ token.NamesKeyword → promoted.tags = token.tags

/-- The test of the second pass is whether a token names a keyword. -/
theorem namesKeyword_iff :
    (token.has "identifier" && token.spellsKeyword) = true ↔ token.NamesKeyword := by
  rw [Bool.and_eq_true, has, TagSet.contains_iff, spellsKeyword, List.contains_iff_mem,
    NamesKeyword]

theorem promote_of_namesKeyword (names : token.NamesKeyword) :
    token.promote = (token.delete "identifier").add "keyword" :=
  if_pos (namesKeyword_iff.2 names)

theorem promote_of_not_namesKeyword (other : ¬ token.NamesKeyword) : token.promote = token :=
  if_neg (mt namesKeyword_iff.1 other)

theorem promoted_promote (token : Token) : Promoted token token.promote := by
  by_cases names : token.NamesKeyword
  · rw [promote_of_namesKeyword names]
    exact {
      origin := rfl
      content := rfl
      tags := fun _ tag => by simp [add, delete]
      kept := fun other => absurd names other }
  · rw [promote_of_not_namesKeyword names]
    exact {
      origin := rfl
      content := rfl
      tags := fun also => absurd also names
      kept := fun _ => rfl }

/-- No token names a keyword once it was promoted. -/
theorem not_namesKeyword_promote (token : Token) : ¬ token.promote.NamesKeyword := by
  by_cases names : token.NamesKeyword
  · rintro ⟨name, -⟩
    rcases ((promoted_promote token).tags names "identifier").1 name with keyword | ⟨-, other⟩
    · exact absurd keyword (by decide)
    · exact other rfl
  · rwa [promote_of_not_namesKeyword names]

theorem promote_promote (token : Token) : token.promote.promote = token.promote :=
  promote_of_not_namesKeyword (not_namesKeyword_promote token)

theorem forall₂_promoteAll (tokens : List Token) :
    List.Forall₂ Promoted tokens (promoteAll tokens) := by
  rw [promoteAll, List.forall₂_map_right_iff, List.forall₂_same]
  exact fun token _ => promoted_promote token

theorem promoteAll_promoteAll (tokens : List Token) :
    promoteAll (promoteAll tokens) = promoteAll tokens := by
  rw [promoteAll, promoteAll, List.map_map]
  exact List.map_congr_left fun token _ => promote_promote token

end Token

/-! ### The tags of a text -/

namespace Lexeme

/-- The tags that a text has in the language, where keywords are told apart from names. A text that
starts like no lexeme and is no symbol has none. -/
def tags? : Text → Option TagSet
  | [] => none
  | c :: more =>
    if c = '"' then some (.ofList ["string"])
    else if c.isDigit then some (.ofList ["number"])
    else if String.ofList (c :: more) ∈ Token.keywords then some (.ofList ["keyword"])
    else if Name.isStart c then some (.ofList ["identifier"])
    else (Symbol.all.find? (·.text == c :: more)).map fun symbol =>
      .ofList ["punctuation", symbol.kind.tag]

theorem tags?_of_isDigit {c : Char} (digit : c.isDigit = true) (more : Text) :
    tags? (c :: more) = some (.ofList ["number"]) := by
  have quoteless := Name.ne_quote_of_isPart (Name.isPart_of_isDigit digit)
  rw [tags?, if_neg quoteless, if_pos digit]

/-- What starts like a name is a keyword or a name. -/
theorem tags?_of_isStart {c : Char} (start : Name.isStart c = true) (more : Text) :
    tags? (c :: more) =
      if String.ofList (c :: more) ∈ Token.keywords then some (.ofList ["keyword"])
      else some (.ofList ["identifier"]) := by
  have quoteless := Name.ne_quote_of_isPart (Name.isPart_of_isStart start)
  have digitless := Name.not_isDigit_of_isStart start
  rw [tags?, if_neg quoteless, if_neg (by simp [digitless]), if_pos start]

/-- A symbol is found by its text, and starts like nothing else. -/
theorem tags?_symbol {symbol : Symbol} (member : symbol ∈ Symbol.all) :
    tags? symbol.text = some (.ofList ["punctuation", symbol.kind.tag]) := by
  -- There are finitely many symbols, and each is looked up.
  have each : ∀ symbol ∈ Symbol.all,
      tags? symbol.text = some (.ofList ["punctuation", symbol.kind.tag]) := by decide +kernel
  exact each symbol member

/-- What a success asks for can be told from what it passes, save that it does not know keywords. -/
theorem Turn.tags?_eq {span rest : Text} {success : Success} {tags : List String}
    (turn : Turn span rest (.accepted success)) (tagged : success.tags = some tags) :
    tags? span = some (
      if "identifier" ∈ tags ∧ String.ofList span ∈ Token.keywords then
        ((TagSet.ofList tags).erase "identifier").insert "keyword"
      else .ofList tags) := by
  cases turn with
  | blank | comment => contradiction
  | literal proper =>
    obtain rfl : ["string"] = tags := Option.some.inj tagged
    rw [if_neg (by simp)]
    rfl
  | number some front apart =>
    obtain rfl : ["number"] = tags := Option.some.inj tagged
    obtain ⟨c, digits, rfl⟩ := List.exists_cons_of_ne_nil some
    rw [if_neg (by simp), tags?_of_isDigit (front.inside c List.mem_cons_self)]
  | name start front =>
    obtain rfl : ["identifier"] = tags := Option.some.inj tagged
    have replaced : ((TagSet.ofList ["identifier"]).erase "identifier").insert "keyword" =
        .ofList ["keyword"] := by decide
    rw [tags?_of_isStart start, replaced]
    simp only [List.mem_cons_self, true_and]
    split <;> rfl
  | @symbol found _ slashless first =>
    obtain rfl : ["punctuation", found.kind.tag] = tags := Option.some.inj tagged
    have nameless : "identifier" ∉ ["punctuation", found.kind.tag] := by
      cases found.kind <;> decide
    rw [if_neg fun both => nameless both.1, tags?_symbol (List.mem_of_find?_eq_some first)]

end Lexeme

open Lexeme

/-- A token of the language has the tags of its text, once it is promoted where it names a keyword.
-/
theorem Token.Standalone.tags?_eq {token : Token} (standalone : token.Standalone) :
    tags? token.content.text = some token.promote.tags := by
  obtain ⟨success, tags, turn, tagged, same⟩ := standalone
  have asked : "identifier" ∈ tags ∧ String.ofList token.content.text ∈ keywords ↔
      token.NamesKeyword := by
    rw [NamesKeyword, same, TagSet.mem_ofList]
  rw [turn.tags?_eq tagged, ← same]
  by_cases names : token.NamesKeyword
  · rw [promote_of_namesKeyword names, if_pos (asked.2 names)]
    rfl
  · rw [promote_of_not_namesKeyword names, if_neg (mt asked.1 names)]

namespace Cursor

/-- The tags of every token of every text, after the second pass, are those of what the token shows:
they do not depend on where it stands or on what stands around it. And whatever the second pass is
given, it changes nothing but the tags of those tokens that name a keyword, and a further pass
changes nothing at all. -/
theorem tags_of_content (file : String) (rule : TabRule) (text : Text) :
    (∀ token ∈ Token.promoteAll ((ofText file rule text).run standard).tokens,
      tags? token.content.text = some token.tags) ∧
    ∀ tokens, List.Forall₂ Token.Promoted tokens (Token.promoteAll tokens) ∧
      Token.promoteAll (Token.promoteAll tokens) = Token.promoteAll tokens := by
  constructor
  · intro promoted inside
    obtain ⟨token, made, rfl⟩ := List.mem_map.1 inside
    rw [Token.content_promote]
    exact ((turns_run _).standalone token made).tags?_eq
  · exact fun tokens => ⟨Token.forall₂_promoteAll tokens, Token.promoteAll_promoteAll tokens⟩

/-- A literal that holds a keyword, a keyword, two names that start like keywords, a symbol that
starts with another, and a number. -/
theorem tags_of_content_like_keyword :
    let tokens := Token.promoteAll
      ((ofText "file" .flat "\"let\" let lets ifé->12".toList).run standard).tokens
    (∀ token ∈ tokens, tags? token.content.text = some token.tags) ∧
    tokens.map (·.tags.toList) = [["string"], ["keyword"], ["identifier"], ["identifier"],
      ["arrow", "punctuation"], ["number"]] := by
  intro tokens
  exact ⟨(tags_of_content "file" .flat _).1, by decide +kernel⟩

end Cursor

end Lexing
