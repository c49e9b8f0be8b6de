import Lexing.Position
import Lexing.Tab
import Lexing.Text.LineBreak

/-!
# Moving a position over a span

How far a span of text moves a position depends on what is known of the span. Where it may hold line
breaks they are counted, and the column starts anew after the last one, even if there is none. Where
it may hold tabs they are widened. What is not announced is not looked for: a tab or a line break in
a span that does not announce it counts as one column.

## Main definitions

* `Position.past`: where a position ends up after a span
-/

namespace Lexing.Position

/-- The columns of a span, with tabs widened if there may be some. -/
def spanColumns (rule : TabRule) (tabs : Bool) (span : Text) : Nat :=
  if tabs then rule.columns span else Text.size span

/-- The position after a span. An empty span changes nothing. -/
def past (position : Position) (rule : TabRule) (multiline tabs : Bool) (span : Text) : Position :=
  if span = [] then position
  else if multiline then
    -- Only what follows the last break counts, and nothing of the old column is kept.
    { line := position.line + Text.breaks span
      column := Word.clampedAdd (spanColumns rule tabs (Text.lastLine span)) 1
      offset := position.offset + Text.size span }
  else
    { line := position.line
      column := Word.clampedAdd position.column (spanColumns rule tabs span)
      offset := position.offset + Text.size span }

@[simp] theorem past_nil (position : Position) (rule : TabRule) (multiline tabs : Bool) :
    position.past rule multiline tabs [] = position := rfl

/-- Every span moves the offset by its bytes. -/
@[simp] theorem offset_past (position : Position) (rule : TabRule) (multiline tabs : Bool)
    (span : Text) : (position.past rule multiline tabs span).offset =
      position.offset + Text.size span := by
  unfold past
  split
  · next none => simp [none]
  · split <;> rfl

end Lexing.Position
