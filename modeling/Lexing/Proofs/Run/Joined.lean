import Lexing.Proofs.Lexeme.Context
import Lexing.Proofs.Position.After
import Lexing.Proofs.Run.InStep

/-!
# Texts joined by a line feed

A text in which nothing is wrong may be followed by a line feed and any other text. Its tokens stay
what and where they are, and the other text is read as it would be from the start of a file, only
further down. What has to be seen to is the seam: the white space at the end of the first text, the
line feed and the white space in front of the second are one blank, and the breaks in it may pair up
across the line feed.

## Main definitions

* `Cursor.Moved`: cursors before the same text, at positions some way apart
* `Cursor.Seam`: where a run comes out behind the seam

## Main results

* `Cursor.Turns.exists_seam`: a run without diagnostics comes to the seam
* `Cursor.inStep_moved`: from there on it is in step with a run of the second text
* `Cursor.run_joined`: the run of the joined texts is put together from their runs
-/

namespace Lexing

open Text Unicode Lexeme

namespace Cursor

/-! ### Behind the seam -/

/-- Cursors in the same file, before the same text, at positions some way apart. -/
structure Moved (lines bytes : Nat) (a b : Cursor) : Prop where
  file : b.file = a.file
  tabRule : b.tabRule = a.tabRule
  ahead : b.ahead = a.ahead
  position : Position.Moved lines bytes a.position b.position

/-- Runs over the same text stay in step, wherever they start. -/
theorem inStep_moved (lines bytes : Nat) : InStep (Moved lines bytes)
    (Token.Moved lines bytes) (Diagnostic.Moved lines bytes) where
  done := fun moved done => moved.ahead.trans done
  turn := by
    intro a b span rest verdict moved ahead turn
    have right : b.ahead = span ++ rest := moved.ahead.trans ahead
    refine ⟨span, rest, verdict, right, turn, ?_, ?_, ?_⟩
    · exact forall₂_token verdict (token_moved moved.file moved.position)
    · exact forall₂_diagnostics fun problem reported =>
        (diagnose_moved moved.tabRule moved.position turn ahead right reported).1
    · rw [claim_eq_of_turn turn ahead right]
      exact {
        file := moved.file
        tabRule := moved.tabRule
        ahead := rfl
        position := by
          rw [position_beyond, position_beyond, moved.tabRule]
          exact moved.position.past .. }

/-! ### The seam -/

/-- The cursor `next` stands behind all that lies ahead of `cursor`, a line feed and `space`. Its
line is that of `stop`, where a run from `cursor` stops, and the breaks in between, unless some of
these pair up with the line feed. -/
structure Seam (cursor stop : Cursor) (space : Text) (next : Cursor) : Prop where
  file : next.file = cursor.file
  tabRule : next.tabRule = cursor.tabRule
  column : next.position.column = Position.columnAfter cursor.tabRule space
  offset : next.position.offset = cursor.position.offset + size cursor.ahead + 1 + size space
  line_le : cursor.position.line + breaks space ≤ next.position.line
  line : cursor.ahead.getLast? ≠ some '\r' → space.head? ≠ some '\r' →
    next.position.line = stop.position.line + 1 + breaks space

variable {cursor other stop next : Cursor} {run : Run} {space span rest : Text}

/-- The seam of a run is that of the run from a turn before it. -/
theorem Seam.before {claim : Claim} (seam : Seam (cursor.beyond claim span rest) stop space next)
    (ahead : cursor.ahead = span ++ rest) : Seam cursor stop space next where
  file := seam.file
  tabRule := seam.tabRule
  column := seam.column
  offset := by
    rw [seam.offset, position_beyond, Position.offset_past, ahead_beyond, ahead, size_append]
    omega
  line_le := by
    have line_le := seam.line_le
    rw [position_beyond, Position.line_past] at line_le
    omega
  line := by
    intro before behind
    refine seam.line ?_ behind
    -- What is left ends as all of it does, unless nothing is left.
    intro last
    rw [ahead_beyond] at last
    apply before
    rw [ahead, List.getLast?_append, last]
    rfl

/-- Only a carriage return before a line feed, or behind it, belongs to it. -/
theorem breaks_seam {text : Text} (before : text.getLast? ≠ some '\r')
    (behind : space.head? ≠ some '\r') :
    breaks (text ++ '\n' :: space) = breaks text + 1 + breaks space := by
  have apart : ¬ Splits text ('\n' :: space) := by
    rintro ⟨c, last, d, first, pair⟩
    obtain rfl : '\n' = d := by simpa using first
    have return_before : c = '\r' := by simpa [isPair] using pair
    exact before (by rw [← return_before]; exact last)
  have alone : ∀ d ∈ space.head?, isPair '\n' d = false := by
    intro d first
    have other_than : d ≠ '\r' := by
      rintro rfl
      exact behind first
    simpa [isPair] using other_than
  rw [breaks_append_of_not_splits apart, breaks_of_single (by decide) alone]
  omega

/-- Behind white space, the line feed and `space`, all in one span, is the seam. -/
theorem seam_beyond (origin : other.origin = cursor.origin) (rule : other.tabRule = cursor.tabRule)
    (line : stop.position.line = cursor.position.line + breaks cursor.ahead) (rest : Text) :
    let gap := cursor.ahead ++ '\n' :: space
    Seam cursor stop space (other.beyond ⟨size gap, hasBreak gap, true⟩ gap rest) := by
  intro gap
  obtain ⟨file, position⟩ := Origin.mk.inj origin
  have breaking : hasBreak gap = true := by
    have feed : isBreak '\n' = true := by decide
    simp [gap, feed]
  have line_beyond : (other.beyond ⟨size gap, hasBreak gap, true⟩ gap rest).position.line =
      cursor.position.line + breaks gap := by
    rw [position_beyond, Position.line_past_of_announced, position]
  exact {
    file := file
    tabRule := rule
    column := by
      rw [position_beyond, breaking,
        Position.column_past_of_hasBreak breaking (fun _ => rfl) _ _ [], rule, List.nil_append,
        Position.columnAfter_append_cons (by decide)]
    offset := by
      have feed : Char.utf8Size '\n' = 1 := rfl
      rw [position_beyond, Position.offset_past, position, size_append, size_cons, feed]
      omega
    line_le := by
      have more := breaks_le_breaks_append (cursor.ahead ++ ['\n']) space
      rw [List.append_assoc, List.singleton_append] at more
      rw [line_beyond]
      exact Nat.add_le_add_left more _
    line := by
      intro before behind
      rw [line_beyond, line, breaks_seam before behind]
      omega }

/-- White space before the seam is one blank with it. -/
theorem exists_seam_of_white (turns : Turns cursor run)
    (white : ∀ c ∈ cursor.ahead, isWhiteSpace c = true) (origin : other.origin = cursor.origin)
    (rule : other.tabRule = cursor.tabRule) (front : IsFront isWhiteSpace space rest)
    (ahead : other.ahead = cursor.ahead ++ '\n' :: (space ++ rest)) :
    ∃ next, Seam cursor run.stop space next ∧ next.ahead = rest ∧ run.tokens = [] ∧
      (other.run standard).tokens = (next.run standard).tokens ∧
      (other.run standard).diagnostics = (next.run standard).diagnostics := by
  -- Alone, the white space is passed to the end.
  have trail : IsFront isWhiteSpace cursor.ahead [] := ⟨white, by simp⟩
  obtain ⟨tokens, -, stop⟩ := run_of_blank (List.append_nil cursor.ahead).symm trail
  rw [run_of_ahead_eq_nil (ahead_beyond ..), turns.plays.run_eq] at tokens stop
  have line : run.stop.position.line = cursor.position.line + breaks cursor.ahead := by
    rw [stop, position_beyond, Position.line_past_of_announced]
  have gap : IsFront isWhiteSpace (cursor.ahead ++ '\n' :: space) rest := by
    refine ⟨?_, front.stops⟩
    exact List.forall_mem_append.2 ⟨white, List.forall_mem_cons.2 ⟨by decide, front.inside⟩⟩
  have split : other.ahead = cursor.ahead ++ '\n' :: space ++ rest := by simp [ahead]
  obtain ⟨same, reported, -⟩ := run_of_blank split gap
  exact ⟨_, seam_beyond origin rule line rest, ahead_beyond .., tokens, same, reported⟩

/-- A run without diagnostics comes to the seam with the same tokens, and what is reported then is
reported behind the seam. -/
theorem Turns.exists_seam (turns : Turns cursor run) (silent : run.diagnostics = [])
    (origin : other.origin = cursor.origin) (rule : other.tabRule = cursor.tabRule)
    (front : IsFront isWhiteSpace space rest)
    (ahead : other.ahead = cursor.ahead ++ '\n' :: (space ++ rest)) :
    ∃ tokens next, Seam cursor run.stop space next ∧ next.ahead = rest ∧
      List.Forall₂ (fun a b => (a == b) = true) run.tokens tokens ∧
      (other.run standard).tokens = tokens ++ (next.run standard).tokens ∧
      (other.run standard).diagnostics = (next.run standard).diagnostics := by
  induction turns generalizing other with
  | @complete cursor done =>
    obtain ⟨next, seam, left, -, tokens, reported⟩ :=
      exists_seam_of_white (.complete done) (by simp [done]) origin rule front ahead
    exact ⟨[], next, seam, left, .nil, tokens, reported⟩
  | @after cursor span tail verdict run split turn later ih =>
    obtain ⟨here, there⟩ := List.append_eq_nil_iff.1 ((Run.diagnostics_after _ _).symm.trans silent)
    obtain ⟨success, rfl⟩ := turn.exists_accepted here
    rcases turn.append_break (space ++ rest) with extended | ⟨rfl, white⟩
    · -- The turn is taken at the other cursor, too, and leads to cursors that agree again.
      obtain ⟨file, position⟩ := Origin.mk.inj origin
      have whole : other.ahead = span ++ (tail ++ '\n' :: (space ++ rest)) := by
        rw [ahead, split, List.append_assoc]
      have moved : (other.beyond success.claim span (tail ++ '\n' :: (space ++ rest))).origin =
          (cursor.beyond success.claim span tail).origin := by
        simp only [Cursor.origin, file_beyond, position_beyond, file, position, rule]
      obtain ⟨tokens, next, seam, left, same, made, reported⟩ := ih there moved rule rfl
      generalize tail ++ '\n' :: (space ++ rest) = behind at *
      refine ⟨(other.played (.accepted success) span behind).token.toList ++ tokens, next,
        seam.before split, left, ?_, ?_, ?_⟩
      · rw [Run.tokens_after]
        refine List.rel_append (forall₂_token _ ?_) same
        intro tags
        exact Token.beq_iff.2 ⟨origin.symm, rfl, rfl⟩
      · rw [run_of_turn whole extended, Run.tokens_after, List.append_assoc, ← made]
        rfl
      · rw [run_of_turn whole extended, Run.diagnostics_after, ← reported]
        rfl
    · have blank : ∀ c ∈ cursor.ahead, isWhiteSpace c = true := by
        rw [split, List.append_nil]
        exact white
      obtain ⟨next, seam, left, none, tokens, reported⟩ :=
        exists_seam_of_white (.after split turn later) blank origin rule front ahead
      exact ⟨[], next, seam, left, by rw [none]; exact .nil, tokens, reported⟩

/-! ### The joined texts -/

/-- From the start of a file, the same white space leads to the column of the seam. -/
theorem Seam.moved {file : String} {rule : TabRule} {text : Text}
    (seam : Seam (ofText file rule text) stop space next) (left : next.ahead = rest) :
    Moved (next.position.line - (1 + breaks space)) (size text + 1)
      ((ofText file rule (space ++ rest)).beyond ⟨size space, hasBreak space, true⟩ space rest)
      next where
  file := seam.file
  tabRule := seam.tabRule
  ahead := left
  position := by
    have line_le : 1 + breaks space ≤ next.position.line := seam.line_le
    have offset : next.position.offset = 0 + size text + 1 + size space := seam.offset
    have start : (ofText file rule (space ++ rest)).position = Position.start := rfl
    have line : Position.start.line = 1 := rfl
    have nothing : Position.start.offset = 0 := rfl
    refine ⟨?_, ?_, ?_⟩
    · rw [position_beyond, Position.line_past_of_announced, start, line]
      omega
    · rw [seam.column, position_beyond]
      exact (Position.column_past_after (fun _ => rfl)
        (congrArg Position.column (Position.after_nil rule)).symm).symm
    · rw [offset, position_beyond, Position.offset_past, start, nothing]
      omega

/-- A text and another one behind it, with a line feed in between, where a run of the first reports
nothing. The run of both makes the tokens of the first, unchanged, and then those of the second. It
reports what is reported of the second. Whatever is made or reported of the second keeps its column.
It lies as many bytes further on as stand before the second text, and a number of lines that is the
same for all. Unless a carriage return meets the line feed from either side, that number is the line
at which a run of the first text stops. -/
theorem run_joined (file : String) (rule : TabRule) (text other : Text)
    (silent : ((ofText file rule text).run standard).diagnostics = []) :
    let first := (ofText file rule text).run standard
    let second := (ofText file rule other).run standard
    let whole := (ofText file rule (text ++ '\n' :: other)).run standard
    whole.ending = .complete ∧ ∃ lines front back, whole.tokens = front ++ back ∧
      List.Forall₂ (fun a b => (a == b) = true) first.tokens front ∧
      List.Forall₂ (Token.Moved lines (size text + 1)) second.tokens back ∧
      List.Forall₂ (Diagnostic.Moved lines (size text + 1)) second.diagnostics whole.diagnostics ∧
      (text.getLast? ≠ some '\r' → other.head? ≠ some '\r' →
        lines = first.stop.position.line) := by
  intro first second whole
  have turns : Turns (ofText file rule text) first := turns_run _
  obtain ⟨space, rest, rfl, front⟩ := exists_isFront isWhiteSpace other
  have origin : (ofText file rule (text ++ '\n' :: (space ++ rest))).origin =
      (ofText file rule text).origin := rfl
  obtain ⟨tokens, next, seam, left, same, made, reported⟩ :=
    turns.exists_seam silent origin rfl front rfl
  -- The second text alone is read from behind its white space, too.
  have alone : (ofText file rule (space ++ rest)).ahead = space ++ rest := rfl
  obtain ⟨others, problems, -⟩ := run_of_blank alone front
  obtain ⟨back, diagnostics, -⟩ := (inStep_moved _ _).run (turns_run _) (seam.moved left)
  refine ⟨(turns_run _).ending_eq, next.position.line - (1 + breaks space), tokens,
    (next.run standard).tokens, made, same, ?_, ?_, ?_⟩
  · rw [others]
    exact back
  · rw [problems, reported]
    exact diagnostics
  · intro before behind
    have apart : space.head? ≠ some '\r' := by
      intro return_first
      exact behind (by rw [List.head?_append, return_first]; rfl)
    have total := seam.line before apart
    omega

/-- A carriage return at the end of the first text pairs up with the line feed: the first text
stops on its second line, and so the second text would start on the third. It starts on the second.
-/
example :
    ((ofText "file" .flat ['x', '\r']).run standard).stop.position.line = 2 ∧
    ((ofText "file" .flat ['x', '\r', '\n', 'y']).run standard).tokens.map (·.origin.position) =
      [⟨1, 1, 0⟩, ⟨2, 1, 3⟩] := by
  decide +kernel

/-- A text that ends with a comment, a break and a tab, and one that starts with a blank and has a
number that went wrong. The number is reported two lines further down, in the same column. -/
theorem run_joined_lines :
    let text : Text := "let x//c\n\t".toList
    let other : Text := " \"q\"9z".toList
    let first := (ofText "file" (.ofWidth 4) text).run standard
    let second := (ofText "file" (.ofWidth 4) other).run standard
    let whole := (ofText "file" (.ofWidth 4) (text ++ '\n' :: other)).run standard
    first.diagnostics = [] ∧ first.stop.position.line = 2 ∧
    whole.tokens.map (·.origin.position) = [⟨1, 1, 0⟩, ⟨1, 5, 4⟩, ⟨3, 2, 12⟩] ∧
    second.diagnostics.map (·.position) = [⟨1, 6, 5⟩] ∧
    List.Forall₂ (Diagnostic.Moved 2 (size text + 1)) second.diagnostics whole.diagnostics := by
  intro text other first second whole
  have silent : first.diagnostics = [] := by decide +kernel
  have stop : first.stop.position.line = 2 := by decide +kernel
  obtain ⟨-, lines, front, back, -, -, -, diagnostics, line⟩ :=
    run_joined "file" (.ofWidth 4) text other silent
  have two : lines = 2 := (line (by decide) (by decide)).trans stop
  rw [two] at diagnostics
  exact ⟨silent, stop, by decide +kernel, by decide +kernel, diagnostics⟩

end Cursor

end Lexing
