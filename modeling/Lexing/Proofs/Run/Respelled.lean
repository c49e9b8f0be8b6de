import Lexing.Proofs.Lexeme.Respelled
import Lexing.Proofs.Run.InStep
import Lexing.Proofs.Run.Spans

/-!
# One text with two line terminators

How the lines of a text end shows in offsets and nowhere else. The runs over a text and over the
same text with another spelling for its line feeds are in step: what the one yields, the other
yields in the same line and column, behind as many more bytes as the line feeds in front of it have
more.

## Main definitions

* `Text.added`: how many bytes are added in front of an offset
* `Cursor.Respelled`: cursors before a text and before the same text respelt

## Main results

* `Position.Moved.past_respell`: a blank leads to the same line and column however it is spelt
* `Cursor.inStep_respelled`: turns lead from such cursors to such cursors
* `Cursor.run_respelled`: how lines end changes the offsets of a run and nothing else
-/

namespace Lexing

open Text Unicode Lexeme

/-! ### Offsets -/

/-- The bytes that are added in front of an offset when line feeds are respelt. -/
def Text.added (ending text : Text) (offset : Nat) : Nat :=
  (size ending - 1) * (fit offset text).1.count '\n'

/-- What is added depends on what stands in front. -/
theorem Text.added_append (ending before after : Text) :
    added ending (before ++ after) (size before) = (size ending - 1) * before.count '\n' := by
  rw [added, fit_of_size]

/-- A span that tells whether it has breaks leads to the same line and column however these are
spelt. -/
theorem Position.Moved.past_respell {bytes : Nat} {a b : Position} {ending span : Text}
    (moved : Moved 0 bytes a b) (terminator : ending ∈ terminators) (returnless : '\r' ∉ span)
    (rule : TabRule) : Moved 0 (bytes + (size ending - 1) * span.count '\n')
      (a.past rule (hasBreak span) true span)
      (b.past rule (hasBreak (respell ending span)) true (respell ending span)) where
  line := by
    rw [line_past_of_announced, line_past_of_announced, breaks_respell terminator returnless,
      moved.line]
    omega
  column := by
    cases breaking : hasBreak span with
    | true =>
      -- Behind a break only the last line counts.
      have also : hasBreak (respell ending span) = true := by
        rw [hasBreak_respell terminator, breaking]
      rw [also, column_past_of_hasBreak breaking (fun _ => rfl) a rule [],
        column_past_of_hasBreak also (fun _ => rfl) b rule [], List.nil_append, List.nil_append,
        columnAfter, columnAfter, lastLine_respell terminator]
    | false =>
      rw [respell_of_not_mem (not_mem_of_not_hasBreak breaking), breaking]
      exact (moved.past rule false true span).column
  offset := by
    rw [offset_past, offset_past, size_respell terminator, moved.offset]
    omega

namespace Cursor

/-- A cursor at its place in a text, and one in the respelt text that has passed the same. -/
structure Respelled (ending text : Text) (a b : Cursor) : Prop where
  file : b.file = a.file
  tabRule : b.tabRule = a.tabRule
  input : a.input = text
  aligned : Aligned a
  ahead : b.ahead = respell ending a.ahead
  position : Position.Moved 0 ((size ending - 1) * a.behind.count '\n') a.position b.position

theorem respelled_ofText (file : String) (rule : TabRule) (ending text : Text) :
    Respelled ending text (ofText file rule text) (ofText file rule (respell ending text)) where
  file := rfl
  tabRule := rfl
  input := rfl
  aligned := aligned_ofText file rule text
  ahead := rfl
  position := ⟨rfl, rfl, by simp [ofText]⟩

namespace Respelled

variable {ending text span rest : Text} {a b : Cursor}

/-- What is added in front of a piece that the cursor comes to next, if the piece before that has no
line feeds. -/
theorem added_eq (respelled : Respelled ending text a b) {before after : Text}
    (ahead : a.ahead = before ++ after) (feedless : '\n' ∉ before) :
    added ending text (a.position.offset + size before) =
      (size ending - 1) * a.behind.count '\n' := by
  have whole : text = a.behind.reverse ++ before ++ after := by
    rw [List.append_assoc, ← ahead]
    exact respelled.input.symm
  have offset : a.position.offset + size before = size (a.behind.reverse ++ before) := by
    rw [size_append, size_reverse, respelled.aligned]
  rw [whole, offset, added_append, List.count_append, List.count_reverse,
    List.count_eq_zero.2 feedless, Nat.add_zero]

theorem added_offset (respelled : Respelled ending text a b) :
    added ending text a.position.offset = (size ending - 1) * a.behind.count '\n' :=
  @added_eq _ _ _ _ respelled [] a.ahead rfl (by simp)

/-- A span without line feeds is the same in both texts. -/
theorem beyond (respelled : Respelled ending text a b) (ahead : a.ahead = span ++ rest)
    (feedless : '\n' ∉ span) (claim : Claim) :
    Respelled ending text (a.beyond claim span rest)
      (b.beyond claim span (respell ending rest)) where
  file := respelled.file
  tabRule := respelled.tabRule
  input := (input_beyond ahead claim).trans respelled.input
  aligned := respelled.aligned.beyond claim span rest
  ahead := rfl
  position := by
    rw [position_beyond, position_beyond, behind_beyond, respelled.tabRule, List.count_append,
      List.count_reverse, List.count_eq_zero.2 feedless, Nat.zero_add]
    exact respelled.position.past ..

/-- White space is spelt in two ways. -/
theorem beyond_blank (respelled : Respelled ending text a b) (ahead : a.ahead = span ++ rest)
    (terminator : ending ∈ terminators) (returnless : '\r' ∉ span) :
    Respelled ending text (a.beyond ⟨size span, hasBreak span, true⟩ span rest)
      (b.beyond ⟨size (respell ending span), hasBreak (respell ending span), true⟩
        (respell ending span) (respell ending rest)) where
  file := respelled.file
  tabRule := respelled.tabRule
  input := (input_beyond ahead _).trans respelled.input
  aligned := respelled.aligned.beyond _ span rest
  ahead := rfl
  position := by
    have moved := respelled.position.past_respell terminator returnless a.tabRule
    rw [position_beyond, position_beyond, behind_beyond, respelled.tabRule, List.count_append,
      List.count_reverse, Nat.mul_add, Nat.add_comm (_ * span.count '\n')]
    exact moved

end Respelled

/-- Turns over a text and over the same text respelt are in step. -/
theorem inStep_respelled {ending text : Text} (terminator : ending ∈ terminators)
    (respellable : Respellable text) : InStep (Respelled ending text)
      (fun a b => Token.Moved 0 (added ending text a.origin.position.offset) a b)
      (fun a b => Diagnostic.Moved 0 (added ending text a.position.offset) a b) where
  done := by
    intro a b respelled done
    rw [respelled.ahead, done, respell_nil]
  turn := by
    intro a b span rest verdict respelled ahead turn
    have left : Respellable (span ++ rest) := by
      rw [← respelled.input, input, ahead] at respellable
      exact respellable.rest
    have right : b.ahead = respell ending span ++ respell ending rest := by
      rw [respelled.ahead, ahead, respell_append]
    rcases turn.blank_or_respell terminator left with ⟨front, rfl⟩ | ⟨feedless, same⟩
    · have white : ∀ c ∈ respell ending span, isWhiteSpace c = true :=
        forall_mem_respell terminator front.inside fun c => isWhiteSpace_of_isBreak
      have stopped := front.respell terminator fun dark => absurd dark (by decide)
      have returnless : '\r' ∉ span := fun inside =>
        left.returnless (List.mem_append_left _ inside)
      exact ⟨_, _, _, right, .blank (respell_ne_nil terminator turn.span_ne_nil)
        ⟨white, stopped.stops⟩, .nil, .nil,
        respelled.beyond_blank ahead terminator returnless⟩
    · rw [respell_of_not_mem feedless] at right
      refine ⟨span, respell ending rest, verdict, right, same, ?_, ?_, ?_⟩
      · have position := respelled.position
        rw [← respelled.added_offset] at position
        apply forall₂_token
        exact token_moved respelled.file position
      · apply forall₂_diagnostics
        intro problem reported
        obtain ⟨moved, before, after, rfl, place⟩ :=
          diagnose_moved respelled.tabRule respelled.position turn ahead right reported
        -- No line feed stands between the start of the turn and the problem.
        have clean : '\n' ∉ before := fun inside => feedless (List.mem_append_left _ inside)
        rw [List.append_assoc] at ahead
        rw [place, respelled.added_eq ahead clean]
        exact moved
      · rw [claim_eq_of_turn turn ahead right]
        exact respelled.beyond ahead feedless _

/-- A text ends its lines with line feeds, none of them right behind a backslash. If all of them are
spelt in another way, as a carriage return or as a pair, the run of the text changes in its offsets
only. There are the same tokens and the same diagnostics, each in the same line and column, and the
run stops there, too. Each offset grows by what is added in front of it: for each line feed, the
bytes that its spelling has more. -/
theorem run_respelled (file : String) (rule : TabRule) {ending text : Text}
    (terminator : ending ∈ terminators) (returnless : '\r' ∉ text)
    (unescaped : ¬ ['\\', '\n'] <:+: text) :
    let run := (ofText file rule text).run standard
    let other := (ofText file rule (respell ending text)).run standard
    run.ending = .complete ∧ other.ending = .complete ∧
    List.Forall₂ (fun a b => Token.Moved 0 (added ending text a.origin.position.offset) a b)
      run.tokens other.tokens ∧
    List.Forall₂ (fun a b => Diagnostic.Moved 0 (added ending text a.position.offset) a b)
      run.diagnostics other.diagnostics ∧
    Position.Moved 0 (added ending text run.stop.position.offset) run.stop.position
      other.stop.position := by
  intro run other
  have turns : Turns (ofText file rule text) run := turns_run _
  obtain ⟨tokens, diagnostics, stop⟩ :=
    (inStep_respelled terminator ⟨returnless, unescaped⟩).run turns (respelled_ofText ..)
  refine ⟨turns.ending_eq, (turns_run _).ending_eq, tokens, diagnostics, ?_⟩
  rw [stop.added_offset]
  exact stop.position

/-- A backslash before a line feed makes a difference. The literal takes the line feed in and is
closed, but of a pair it takes in the first half only and is cut short by the second. -/
example :
    let text : Text := ['"', '\\', '\n', '"']
    let paired : Text := ['"', '\\', '\r', '\n', '"']
    paired = respell ['\r', '\n'] text ∧
    ((ofText "file" .flat text).run standard).diagnostics.map (·.position.offset) = [1] ∧
    ((ofText "file" .flat paired).run standard).diagnostics.map (·.position.offset) =
      [1, 0, 4] := by
  decide +kernel

/-- A comment, an empty line, a literal that its line cuts short behind a tab, and a number that
went wrong. With line terminators of two characters the number is reported three bytes further on.
-/
theorem run_respelled_pairs :
    let text : Text := "a//b\n\n\t\"x\n9z c".toList
    let run := (ofText "file" (.ofWidth 4) text).run standard
    let other := (ofText "file" (.ofWidth 4) (respell ['\r', '\n'] text)).run standard
    run.tokens.map (·.origin.position) = [⟨1, 1, 0⟩, ⟨4, 4, 13⟩] ∧
    run.diagnostics.map (·.position) = [⟨3, 5, 7⟩, ⟨4, 2, 11⟩] ∧
    other.diagnostics.map (·.position) = [⟨3, 5, 9⟩, ⟨4, 2, 14⟩] ∧
    List.Forall₂ (fun a b => Token.Moved 0 (added ['\r', '\n'] text a.origin.position.offset) a b)
      run.tokens other.tokens ∧
    Position.Moved 0 3 run.stop.position other.stop.position := by
  intro text run other
  have terminator : ['\r', '\n'] ∈ terminators := by decide
  obtain ⟨-, -, tokens, -, stop⟩ := @run_respelled "file" (.ofWidth 4) ['\r', '\n'] text terminator
    (by decide +kernel) (by decide +kernel)
  have three : added ['\r', '\n'] text run.stop.position.offset = 3 := by decide +kernel
  rw [three] at stop
  exact ⟨by decide +kernel, by decide +kernel, by decide +kernel, tokens, stop⟩

end Cursor

end Lexing
