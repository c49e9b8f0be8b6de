import Lexing.Proofs.Lexeme.Turn
import Lexing.Proofs.Round.Decides
import Lexing.Proofs.Run.Plays

/-!
# The order of the recognizers

The recognizers are tried in the order of a list, and both rules that decide a round look at that
order: the first success wins, and so does the first of the failures that got equally far. Still the
language could list its recognizers in almost any order. Recognizers that have no business with a
text do not count there, and the first character leaves one recognizer that may have, or two: a
comment starts with what would otherwise be a symbol.

## Main definitions

* `Recognizer.speakers`: the recognizers that have any business with a text
* `Lexeme.openedBy`: the recognizers that may have, by the first character

## Main results

* `Recognizer.judge_speakers`: the others may be left out
* `Lexeme.speakers_standard`: the first character tells who may have business with a text
* `Cursor.run_congr`: lists that decide every text alike have the same runs
* `Cursor.run_of_perm`: runs do not depend on the order, as long as comments come before symbols
-/

namespace Lexing

open Text Unicode

/-! ### Recognizers without business -/

namespace Recognizer

/-- The recognizers that have any business with a text. -/
def speakers (text : Text) (recognizers : List Recognizer) : List Recognizer :=
  recognizers.filter (·.run text ≠ .none)

variable {text : Text} {recognizer : Recognizer}

theorem speakers_cons_of_none (ran : recognizer.run text = .none) (others : List Recognizer) :
    speakers text (recognizer :: others) = speakers text others :=
  List.filter_cons_of_neg (by simpa using ran)

theorem speakers_cons (others : List Recognizer) : speakers text (recognizer :: others) =
    speakers text [recognizer] ++ speakers text others :=
  List.filter_append [recognizer] others

/-- Recognizers that have no business with a text may be left out, whatever failed before. -/
theorem judgeFrom_speakers (text : Text) (deepest : Option Failure)
    (recognizers : List Recognizer) :
    judgeFrom text deepest (speakers text recognizers) = judgeFrom text deepest recognizers := by
  induction recognizers generalizing deepest with
  | nil => rfl
  | cons recognizer recognizers ih =>
    by_cases ran : recognizer.run text = .none
    · rw [speakers_cons_of_none ran, judgeFrom_of_none _ ran, ih]
    · have kept : speakers text (recognizer :: recognizers) =
          recognizer :: speakers text recognizers := List.filter_cons_of_pos (by simpa using ran)
      rw [kept, judgeFrom, judgeFrom]
      cases recognizer.run text with
      | success success => rfl
      | failure failure => exact ih _

/-- Recognizers that have no business with a text may be left out. -/
theorem judge_speakers (text : Text) (recognizers : List Recognizer) :
    judge (speakers text recognizers) text = judge recognizers text :=
  judgeFrom_speakers text none recognizers

end Recognizer

/-! ### Who may have business with a text -/

namespace Lexeme

open Recognizer

/-- The recognizers that may have business with a text that starts with a character. -/
def openedBy (c : Char) : List Recognizer :=
  if isWhiteSpace c then [blank]
  else if c = '"' then [literal]
  else if c.isDigit then [number]
  else if Name.isStart c then [name]
  else [comment, symbol]

section Speakers

variable {c : Char} (text : Text)

/-- What starts with white space is left to the recognizer of blanks. -/
theorem speakers_of_isWhiteSpace (white : isWhiteSpace c = true) :
    speakers (c :: text) standard = speakers (c :: text) [blank] := by
  have outside := Name.not_isPart_of_isWhiteSpace white
  have slash : c ≠ '/' := by
    rintro rfl
    exact absurd white (by decide)
  have quote : c ≠ '"' := by
    rintro rfl
    exact absurd white (by decide)
  have digitless := Name.not_isDigit_of_not_isPart outside
  have startless := Name.not_isStart_of_not_isPart outside
  have noComment := comment_run_eq_none (not_slashes_of_head slash text)
  have noLiteral := literal_run_eq_none (forall_head_ne quote text)
  have noNumber := number_run_eq_none (forall_head_cons digitless text)
  have noName := name_run_eq_none (forall_head_cons startless text)
  have noSymbol := symbol_run_eq_none (not_symbol_of_head text (.inr (.inr white)))
  simp [speakers, standard, List.filter_cons, noComment, noLiteral, noNumber, noName, noSymbol]

/-- What starts with a quote is left to the recognizer of literals. -/
theorem speakers_of_quote :
    speakers ('"' :: text) standard = speakers ('"' :: text) [literal] := by
  have noBlank : blank.run ('"' :: text) = .none :=
    blank_run_eq_none (forall_head_cons (by decide) text)
  have noComment : comment.run ('"' :: text) = .none :=
    comment_run_eq_none (not_slashes_of_head (by decide) text)
  have noNumber : number.run ('"' :: text) = .none :=
    number_run_eq_none (forall_head_cons (by decide) text)
  have noName : name.run ('"' :: text) = .none :=
    name_run_eq_none (forall_head_cons (by decide) text)
  have noSymbol := symbol_run_eq_none (not_symbol_of_head text (.inr (.inl rfl)))
  simp [speakers, standard, List.filter_cons, noBlank, noComment, noNumber, noName, noSymbol]

/-- What starts like a name or a number is left to the recognizers of these. -/
theorem speakers_of_isPart (inside : Name.isPart c = true) :
    speakers (c :: text) standard = speakers (c :: text) [number, name] := by
  have dark := Name.not_isWhiteSpace_of_isPart inside
  have noBlank := blank_run_eq_none (forall_head_cons dark text)
  have noComment :=
    comment_run_eq_none (not_slashes_of_head (Name.ne_slash_of_isPart inside) text)
  have noLiteral := literal_run_eq_none (forall_head_ne (Name.ne_quote_of_isPart inside) text)
  have noSymbol := symbol_run_eq_none (not_symbol_of_head text (.inl inside))
  simp [speakers, standard, List.filter_cons, noBlank, noComment, noLiteral, noSymbol]

/-- The first character tells who may have business with a text. -/
theorem speakers_standard (c : Char) :
    speakers (c :: text) standard = speakers (c :: text) (openedBy c) := by
  rw [openedBy]
  cases white : isWhiteSpace c with
  | true => exact speakers_of_isWhiteSpace text white
  | false =>
    by_cases quote : c = '"'
    · subst quote
      exact speakers_of_quote text
    · rw [if_neg Bool.false_ne_true, if_neg quote]
      cases digit : c.isDigit with
      | true =>
        -- A digit is a character of names, but none starts with it.
        have startless := Name.not_isStart_of_isDigit digit
        have noName := name_run_eq_none (forall_head_cons startless text)
        rw [speakers_of_isPart text (Name.isPart_of_isDigit digit), if_pos rfl, speakers_cons,
          speakers_cons_of_none noName]
        exact List.append_nil _
      | false =>
        have noNumber := number_run_eq_none (forall_head_cons digit text)
        rw [if_neg Bool.false_ne_true]
        cases start : Name.isStart c with
        | true =>
          rw [speakers_of_isPart text (Name.isPart_of_isStart start), if_pos rfl,
            speakers_cons_of_none noNumber]
        | false =>
          have noBlank := blank_run_eq_none (forall_head_cons white text)
          have noLiteral := literal_run_eq_none (forall_head_ne quote text)
          have noName := name_run_eq_none (forall_head_cons start text)
          simp [speakers, standard, List.filter_cons, noBlank, noLiteral, noNumber, noName]

end Speakers

/-- At most one recognizer has business with a text, or the two that slashes are for. -/
theorem speakers_standard_cases (text : Text) :
    (speakers text standard).length ≤ 1 ∨ speakers text standard = [comment, symbol] := by
  cases text with
  | nil => exact .inl (by decide)
  | cons c text =>
    have found : (speakers (c :: text) (openedBy c)).Sublist (openedBy c) := List.filter_sublist
    rw [speakers_standard]
    generalize speakers (c :: text) (openedBy c) = few at found ⊢
    -- Any proper part of two recognizers is one at most.
    have bound : (openedBy c).length ≤ 1 ∨ openedBy c = [comment, symbol] := by
      unfold openedBy
      split_ifs <;> simp
    rcases bound with one | two
    · exact .inl (found.length_le.trans one)
    · rw [two] at found
      rcases Nat.lt_or_ge few.length 2 with less | most
      · exact .inl (Nat.le_of_lt_succ less)
      · exact .inr (found.eq_of_length_le most)

section Perm

variable {pair one other : List Recognizer} {text : Text}

/-- Where both recognizers that slashes are for have business with a text, no other has, and they
are tried as they stand in the list. -/
theorem speakers_eq_pair (slashes : pair.Perm [comment, symbol]) (order : one.Perm standard)
    (placed : pair.Sublist one) (both : speakers text standard = [comment, symbol]) :
    speakers text one = pair := by
  have same : (speakers text one).Perm pair := by
    have filtered : (speakers text one).Perm (speakers text standard) := order.filter _
    rw [both] at filtered
    exact filtered.trans slashes.symm
  have speaking : speakers text pair = pair := by
    refine List.filter_eq_self.2 fun recognizer inside => ?_
    have spoken := slashes.mem_iff.1 inside
    rw [← both] at spoken
    exact (List.mem_filter.1 spoken).2
  have kept : (speakers text pair).Sublist (speakers text one) := placed.filter _
  rw [speaking] at kept
  exact (kept.eq_of_length same.length_eq.symm).symm

/-- A single recognizer with any business is the same in every order. -/
theorem speakers_eq_of_length_le (few : (speakers text standard).length ≤ 1)
    (order : one.Perm standard) : speakers text one = speakers text standard := by
  have same : (speakers text one).Perm (speakers text standard) := order.filter _
  generalize speakers text standard = lone at few same
  rcases lone with _ | ⟨recognizer, _ | ⟨next, others⟩⟩
  · exact List.perm_nil.1 same
  · exact List.perm_singleton.1 same
  · simp at few

/-- Two orders of the language that agree on comments and symbols try the same recognizers in the
same order, where those without business are left out. -/
theorem speakers_eq_of_perm (slashes : pair.Perm [comment, symbol]) (order : one.Perm standard)
    (order' : other.Perm standard) (placed : pair.Sublist one) (placed' : pair.Sublist other)
    (text : Text) : speakers text one = speakers text other := by
  rcases speakers_standard_cases text with few | both
  · rw [speakers_eq_of_length_le few order, speakers_eq_of_length_le few order']
  · rw [speakers_eq_pair slashes order placed both, speakers_eq_pair slashes order' placed' both]

/-- Comments come before symbols in an order of the language, or symbols before comments. -/
theorem sublist_or_swapped (order : one.Perm standard) :
    [comment, symbol].Sublist one ∨ [symbol, comment].Sublist one := by
  have different : symbol ≠ comment := fun same =>
    absurd (congrArg Recognizer.name same) (by decide)
  have comments : comment ∈ one := order.mem_iff.2 (by simp [standard])
  have symbols : symbol ∈ one := order.mem_iff.2 (by simp [standard])
  obtain ⟨before, after, rfl⟩ := List.append_of_mem comments
  rcases List.mem_append.1 symbols with early | late
  · right
    exact (List.singleton_sublist.2 early).append (List.singleton_sublist.2 List.mem_cons_self)
  · left
    have later := (List.mem_cons.1 late).resolve_left different
    exact ((List.singleton_sublist.2 later).cons_cons comment).trans (List.sublist_append_right ..)

end Perm

end Lexeme

namespace Cursor

open Recognizer Lexeme

section Congr

variable {one other : List Recognizer} {cursor : Cursor}

/-- A round looks at its recognizers only through what they decide. -/
theorem round_congr (same : judge one cursor.ahead = judge other cursor.ahead) :
    cursor.round one = cursor.round other := by
  rw [round_eq, round_eq, same]

/-- Lists that decide every text alike play the same rounds. -/
theorem Plays.congr {run : Run} (same : ∀ text, judge one text = judge other text)
    (plays : Plays one cursor run) : Plays other cursor run := by
  induction plays with
  | complete done => exact .complete done
  | refused more ran => exact .refused more ((round_congr (same _)).symm.trans ran)
  | endless more ran still => exact .endless more ((round_congr (same _)).symm.trans ran) still
  | after more ran moved later ih =>
    exact .after more ((round_congr (same _)).symm.trans ran) moved ih

/-- Lists that decide every text alike have the same runs. -/
theorem run_congr (same : ∀ text, judge one text = judge other text) (cursor : Cursor) :
    cursor.run one = cursor.run other :=
  ((plays_run one cursor).congr same).run_eq.symm

end Congr

variable {recognizers : List Recognizer}

/-- Two orders of the language that agree on comments and symbols have the same runs. -/
theorem run_eq_of_perm {pair one other : List Recognizer} (slashes : pair.Perm [comment, symbol])
    (order : one.Perm standard) (order' : other.Perm standard) (placed : pair.Sublist one)
    (placed' : pair.Sublist other) (cursor : Cursor) : cursor.run one = cursor.run other := by
  refine run_congr (fun text => ?_) cursor
  rw [← judge_speakers, speakers_eq_of_perm slashes order order' placed placed', judge_speakers]

/-- Two slashes are two symbols for an order in which symbols come before comments. -/
theorem tokens_of_slashes (order : recognizers.Perm standard)
    (symbols : [symbol, comment].Sublist recognizers) :
    let cursor := ofText "file" .flat ['/', '/']
    (cursor.run recognizers).tokens ≠ (cursor.run standard).tokens := by
  intro cursor same
  have slashes : [symbol, comment].Perm [comment, symbol] := List.Perm.swap ..
  have placed : [symbol, comment].Sublist standard.reverse := by simp [standard]
  -- One order of that kind stands for all of them.
  rw [run_eq_of_perm slashes order (List.reverse_perm standard) symbols placed] at same
  have two : (cursor.run standard.reverse).tokens.length = 2 := by decide +kernel
  have none : (cursor.run standard).tokens.length = 0 := by decide +kernel
  rw [same, none] at two
  contradiction

/-- The language may list its recognizers in any order in which comments come before symbols: every
run from every cursor is the same, with its tokens, its diagnostics and where it stops. In all other
orders, some run finds other tokens. -/
theorem run_of_perm (order : recognizers.Perm standard) :
    ([comment, symbol].Sublist recognizers →
      ∀ cursor : Cursor, cursor.run recognizers = cursor.run standard) ∧
    ((∀ cursor : Cursor, (cursor.run recognizers).tokens = (cursor.run standard).tokens) →
      [comment, symbol].Sublist recognizers) := by
  constructor
  · intro placed cursor
    have placed' : [comment, symbol].Sublist standard := by simp [standard]
    exact run_eq_of_perm (List.Perm.refl _) order (List.Perm.refl _) placed placed' cursor
  · intro same
    rcases sublist_or_swapped order with placed | swapped
    · exact placed
    · exact absurd (same _) (tokens_of_slashes order swapped)

/-- Blanks may be tried last, but symbols may not be tried first. -/
theorem run_of_rotated :
    let late := [comment, literal, number, name, symbol] ++ [blank]
    let early := [symbol] ++ [blank, comment, literal, number, name]
    (∀ cursor : Cursor, cursor.run late = cursor.run standard) ∧
      ∃ cursor : Cursor, (cursor.run early).tokens ≠ (cursor.run standard).tokens := by
  intro late early
  have lateOrder : late.Perm standard := List.perm_append_comm
  have earlyOrder : early.Perm standard := List.perm_append_comm
  refine ⟨(run_of_perm lateOrder).1 (by simp [late]), ?_⟩
  by_contra same
  have placed := (run_of_perm earlyOrder).2 (not_exists_not.1 same)
  exact absurd (placed.map Recognizer.name) (by decide)

end Cursor

end Lexing
