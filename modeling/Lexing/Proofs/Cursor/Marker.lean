import Lexing.Cursor
import Lexing.Proofs.Position.After
import Lexing.Proofs.Window.Parts

/-!
# Moving by offsets

A cursor divides its text, so it cannot stand anywhere but between two characters. A marker knows no
more than the text and a position. To move it, ranges of the text are taken by offset, and offsets
and lines are added up, one field after the other: a range may be out of order, run past the end or
cut a character, and a sum may leave the word. Each of these is a fault, which ends everything. A
refused claim is none: the marker goes on from where the refusal left it.

## Main definitions

* `Fault`: what ends a movement for good
* `Marker`, `Marker.Movement`: a place in a text, and what can be done with it
* `Marker.head`, `Marker.scan`, `Marker.columns`: the parts of a movement
* `Marker.peek`, `Marker.advance`, `Marker.accept`: look, move, and move for a token
* `Marker.perform`: what comes of a movement

## Main results

* `Marker.scan_zero`, `Marker.perform_turn`: in a short text, looking for the last line and turning
  to it do not fault
-/

namespace Lexing

/-- What ends a movement for good. -/
inductive Fault where
  | overflow (cause : Overflow)
  /-- A difference of words is less than nothing. -/
  | underflow
  | badRange (cause : RangeError)
  deriving DecidableEq, Repr

/-- A place in the text of a file, given by its position alone. -/
structure Marker where
  file : String
  tabRule : TabRule
  text : Text
  position : Position

namespace Marker

/-- What is done with a marker yields something or is refused, and leaves a marker in both cases. -/
abbrev Movement := ExceptT ClaimError (StateT Marker (Except Fault))

/-- The marker before the first character of a text. -/
def ofText (file : String) (tabRule : TabRule) (text : Text) : Marker :=
  ⟨file, tabRule, text, .start⟩

/-! ### Words and ranges -/

/-- The sum of two words. -/
def add (a b : Nat) : Except Fault Nat := (Word.add a b).mapError .overflow

/-- The difference of two words. -/
def subtract (a b : Nat) : Except Fault Nat := if b ≤ a then .ok (a - b) else .error .underflow

/-- The window on a range of a text. -/
def range (text : Text) (start stop : Nat) : Except Fault Window :=
  (Window.ofRange text start stop).mapError .badRange

/-- The columns of a text, where the one sum that is not clamped is checked. -/
def columns (rule : TabRule) (text : Text) : Except Fault Nat :=
  match rule with
  | .flat => .ok (Text.size text)
  | .one => add (Text.size text) (TabRule.tabs text)
  | .more extra =>
    .ok (Word.clampedAdd (Text.size text) (Word.clampedMul (TabRule.tabs text) extra))

/-! ### Line breaks by offset -/

/-- Passes a break of `length` bytes that is found `found` bytes behind the offset `next`. -/
def passBreak (next found breaks length : Nat) : Except Fault (Nat × Nat) := do
  let place ← add next found
  let stop ← add place length
  let breaks ← add breaks 1
  return (stop, breaks)

/-- Counts the breaks of a text on from `breaks`. The last of them ends at the offset `next`, and
`found` more bytes have been looked at. Yields the count and where the last break ends. -/
def scan (next found breaks : Nat) : Text → Except Fault (Nat × Nat)
  | c :: d :: text =>
    if Text.isPair c d then do
      let (next, breaks) ← passBreak next found breaks 2
      scan next 0 breaks text
    else if Text.isBreak c then do
      let (next, breaks) ← passBreak next found breaks 1
      scan next 0 breaks (d :: text)
    else scan next (found + c.utf8Size) breaks (d :: text)
  | [c] =>
    if Text.isBreak c then do
      let (next, breaks) ← passBreak next found breaks 1
      return (breaks, next)
    else return (breaks, next)
  | [] => return (breaks, next)

/-! ### Movements -/

/-- Goes on with what has been worked out, unless working it out is a fault. -/
def checked {α : Type} (work : Except Fault α) : Movement α := ExceptT.lift (StateT.lift work)

/-- Changes the position of the marker. -/
def move (change : Position → Position) : Movement Unit :=
  modify fun marker => { marker with position := change marker.position }

/-- The next `length` bytes, if that many are left and they end with a character. -/
def head (length : Nat) : Movement Text := do
  let marker ← get
  let remaining ← checked (subtract (Text.size marker.text) marker.position.offset)
  if remaining < length then throw (.tooLong length remaining)
  else
    let stop ← checked (add marker.position.offset length)
    match Window.ofRange marker.text marker.position.offset stop with
    | .ok window => return window.text
    | .error _ => throw (.insideCharacter stop)

/-- The window on the next `length` bytes. -/
def peek (length : Nat) : Movement Window := do
  let marker ← get
  -- Looking for the end of the range first refuses what is too long or cuts a character.
  let _ ← head length
  let stop ← checked (add marker.position.offset length)
  checked (range marker.text marker.position.offset stop)

/-- Puts the marker on the line and column behind a span. The offset stays. -/
def turn (multiline tabs : Bool) (span : Text) : Movement Unit := do
  let marker ← get
  if multiline then
    let (breaks, start) ← checked (scan 0 0 0 span)
    let trailing ← checked (range span start (Text.size span))
    let width ← checked
      (if tabs then columns marker.tabRule trailing.text else .ok (Text.size trailing.text))
    -- The line is a checked sum. The column is clamped, so it cannot fault.
    let line ← checked (add marker.position.line breaks)
    move fun position => { position with line }
    move fun position => { position with column := Word.clampedAdd width 1 }
  else
    let width ← checked (if tabs then columns marker.tabRule span else .ok (Text.size span))
    move fun position => { position with column := Word.clampedAdd position.column width }

/-- Moves past what a claim covers, taking its flags at their word. -/
def advance (claim : Claim) : Movement Unit := do
  let span ← head claim.length
  if span = [] then return
  else
    turn claim.multiline claim.tabs span
    let marker ← get
    -- The offset comes last, so the parts before it see where the span starts.
    let offset ← checked (add marker.position.offset claim.length)
    move fun position => { position with offset }

/-- Moves past a success, and makes the token it asks for. -/
def accept (success : Success) : Movement (Option Token) := do
  let marker ← get
  let content ← peek success.claim.length
  advance success.claim
  return Token.ofSuccess? ⟨marker.file, marker.position⟩ content success

/-- What has not been passed yet. -/
def tail (marker : Marker) : Except Fault Window :=
  range marker.text marker.position.offset (Text.size marker.text)

/-! ### Movements step by step -/

/-- What comes of a movement from a marker. -/
def perform {α : Type} (marker : Marker) (movement : Movement α) :
    Except Fault (Except ClaimError α × Marker) :=
  movement.run.run marker

section Perform

variable {α β : Type} {marker stop : Marker}

theorem perform_get : marker.perform get = .ok (.ok marker, marker) := rfl

theorem perform_checked {work : Except Fault α} {value : α} (worked : work = .ok value) :
    marker.perform (checked work) = .ok (.ok value, marker) := by
  rw [worked]
  rfl

theorem perform_move (change : Position → Position) : marker.perform (move change) =
    .ok (.ok (), { marker with position := change marker.position }) := rfl

/-- Where the first part of a movement succeeds, the second goes on from there. -/
theorem perform_bind {movement : Movement α} {next : α → Movement β} {value : α}
    (ran : marker.perform movement = .ok (.ok value, stop)) :
    marker.perform (movement >>= next) = stop.perform (next value) := by
  -- A movement is a function of the marker, and its first part is run on the same one.
  change (movement marker >>= _) = _
  change movement marker = _ at ran
  rw [ran]
  rfl

/-- Where the first part of a movement is refused, the second is not tried. -/
theorem perform_bind_of_error {movement : Movement α} {next : α → Movement β}
    {refused : ClaimError} (ran : marker.perform movement = .ok (.error refused, stop)) :
    marker.perform (movement >>= next) = .ok (.error refused, stop) := by
  change (movement marker >>= _) = _
  change movement marker = _ at ran
  rw [ran]
  rfl

/-- A movement whose result is only renamed is refused where it was. -/
theorem perform_bind_pure {movement : Movement α} {result : Except ClaimError α}
    (ran : marker.perform movement = .ok (result, stop)) (rename : α → β) :
    marker.perform (movement >>= fun value => pure (rename value)) =
      .ok (result.map rename, stop) := by
  cases result with
  | error refused => exact perform_bind_of_error ran
  | ok value => exact perform_bind ran

end Perform

/-! ### Words and ranges that do not fault -/

theorem add_of_le {a b : Nat} (fits : a + b ≤ Word.greatest) : add a b = .ok (a + b) := by
  rw [add, Word.add, if_pos fits]
  rfl

theorem subtract_of_le {a b : Nat} (ordered : b ≤ a) : subtract a b = .ok (a - b) := by
  simp [subtract, ordered]

/-- A range that starts at a cut is no window exactly if there is no second cut to end it. -/
theorem ofRange_of_cut {passed ahead : Text} {length : Nat} (left : length ≤ Text.size ahead) :
    Window.ofRange (passed ++ ahead) (Text.size passed) (Text.size passed + length) =
      match Text.cut? length ahead with
      | some (text, rest) => .ok ⟨passed.reverse, text, rest⟩
      | none => .error .insideCharacter := by
  have ordered : ¬ Text.size passed + length < Text.size passed := by omega
  have within : ¬ Text.size (passed ++ ahead) < Text.size passed + length := by
    rw [Text.size_append]
    omega
  have first : Text.cut? (Text.size passed) (passed ++ ahead) = some (passed, ahead) :=
    Text.cut?_eq_some_iff.2 ⟨rfl, rfl⟩
  -- The range is in order and inside the text, so only its two cuts decide.
  simp only [Window.ofRange, ordered, within, if_false, Window.narrow?, Window.ofText,
    Nat.le_add_right, if_true, first, Option.bind_eq_bind, Option.bind_some,
    Nat.add_sub_cancel_left]
  cases Text.cut? length ahead with
  | none => rfl
  | some pieces => simp

/-- A division of a text into three pieces is a window on the second. -/
theorem range_of_division (passed text rest : Text) :
    range (passed ++ (text ++ rest)) (Text.size passed) (Text.size passed + Text.size text) =
      .ok ⟨passed.reverse, text, rest⟩ := by
  have start : Text.size passed.reverse = Text.size passed := Text.size_reverse passed
  have made : Window.ofRange (passed ++ (text ++ rest)) (Text.size passed)
      (Text.size passed + Text.size text) = .ok ⟨passed.reverse, text, rest⟩ :=
    Window.ofRange_eq_ok_iff.2 ⟨by simp [Window.whole], start, congrArg (· + _) start⟩
  rw [range, made]
  rfl

theorem columns_of_le {rule : TabRule} {text : Text} (fits : 2 * Text.size text ≤ Word.greatest) :
    columns rule text = .ok (rule.columns text) := by
  cases rule with
  | flat => rfl
  | one =>
    have few := TabRule.tabs_le_size text
    exact add_of_le (by omega)
  | more extra => rfl

/-! ### The scan for line breaks -/

theorem utf8Size_of_isBreak {c : Char} (breaking : Text.isBreak c = true) : c.utf8Size = 1 := by
  simp only [Text.isBreak, Bool.or_eq_true, beq_iff_eq] at breaking
  rcases breaking with rfl | rfl <;> rfl

theorem passBreak_of_le {next found breaks length : Nat}
    (fits : next + found + length ≤ Word.greatest) (counted : breaks + 1 ≤ Word.greatest) :
    passBreak next found breaks length = .ok (next + found + length, breaks + 1) := by
  have place := add_of_le (Nat.le_of_add_right_le fits)
  simp only [passBreak, place, add_of_le fits, add_of_le counted, bind, Except.bind, pure,
    Except.pure]

theorem scan_of_not_isBreak {c : Char} (unbroken : Text.isBreak c = false)
    (next found breaks : Nat) (text : Text) :
    scan next found breaks (c :: text) = scan next (found + c.utf8Size) breaks text := by
  cases text with
  | nil => simp [scan, unbroken]
  | cons d text =>
    have apart : Text.isPair c d = false := by
      rw [Bool.eq_false_iff]
      intro joined
      rw [(Text.isBreak_of_isPair joined).1] at unbroken
      contradiction
    simp [scan, unbroken, apart]

theorem scan_of_isPair {c d : Char} (joined : Text.isPair c d = true) {next found breaks : Nat}
    (fits : next + found + 2 ≤ Word.greatest) (counted : breaks + 1 ≤ Word.greatest)
    (text : Text) :
    scan next found breaks (c :: d :: text) = scan (next + found + 2) 0 (breaks + 1) text := by
  rw [scan, if_pos joined, passBreak_of_le fits counted]
  rfl

theorem scan_of_single {c : Char} {text : Text} (breaking : Text.isBreak c = true)
    (alone : ∀ d ∈ text.head?, Text.isPair c d = false) {next found breaks : Nat}
    (fits : next + found + 1 ≤ Word.greatest) (counted : breaks + 1 ≤ Word.greatest) :
    scan next found breaks (c :: text) = scan (next + found + 1) 0 (breaks + 1) text := by
  cases text with
  | nil =>
    rw [scan, if_pos breaking, passBreak_of_le fits counted]
    rfl
  | cons d text =>
    rw [scan, if_neg (by simpa using alone), if_pos breaking, passBreak_of_le fits counted]
    rfl

/-- Behind a break the last line starts where the scan of the rest finds it. -/
private theorem start_behind_break (stop : Nat) (text : Text) :
    (if Text.hasBreak text then stop + 0 + Text.size text - Text.size (Text.lastLine text)
      else stop) = stop + Text.size text - Text.size (Text.lastLine text) := by
  cases more : Text.hasBreak text with
  | true => rw [if_pos rfl, Nat.add_zero]
  | false =>
    rw [Text.lastLine_of_not_hasBreak more, Nat.add_sub_cancel]
    simp

/-- The scan counts the breaks of a text, and finds where its last line starts. -/
theorem scan_eq {next found breaks : Nat} {text : Text}
    (fits : next + found + Text.size text ≤ Word.greatest) (counted : breaks ≤ next) :
    scan next found breaks text = .ok (breaks + Text.breaks text,
      if Text.hasBreak text then next + found + Text.size text - Text.size (Text.lastLine text)
      else next) := by
  -- The scan reads the text as breaks are counted. That there are no more breaks than bytes keeps
  -- their count inside the word wherever the offset is.
  induction text using Text.breaks_induction generalizing next found breaks with
  | nil =>
    rw [scan, Text.breaks_nil]
    rfl
  | plain c text unbroken ih =>
    rw [Text.size_cons] at fits
    rw [scan_of_not_isBreak unbroken, ih (by omega) counted,
      Text.breaks_cons_of_not_isBreak unbroken, Text.hasBreak_cons, unbroken, Bool.false_or]
    cases more : Text.hasBreak text with
    | false => rfl
    | true =>
      have last : Text.lastLine (c :: text) = Text.lastLine text :=
        Text.lastLine_append_of_hasBreak more [c]
      rw [last, Text.size_cons]
      simp only [if_true, Nat.add_assoc]
  | pair c d text joined ih =>
    obtain ⟨first, second⟩ := Text.isBreak_of_isPair joined
    have last : Text.lastLine (c :: d :: text) = Text.lastLine text := by
      rw [Text.lastLine_cons_of_isBreak first, Text.lastLine_cons_of_isBreak second]
    have total : Text.size (c :: d :: text) = 2 + Text.size text := by
      rw [Text.size_cons, Text.size_cons, utf8Size_of_isBreak first, utf8Size_of_isBreak second]
      omega
    rw [total] at fits ⊢
    rw [scan_of_isPair joined (by omega) (by omega), ih (by omega) (by omega),
      Text.breaks_of_isPair joined, Text.hasBreak_cons, first, last, start_behind_break,
      Bool.true_or, if_pos rfl, Except.ok.injEq, Prod.mk.injEq]
    omega
  | single c text breaking alone ih =>
    have total : Text.size (c :: text) = 1 + Text.size text := by
      rw [Text.size_cons, utf8Size_of_isBreak breaking]
    rw [total] at fits ⊢
    rw [scan_of_single breaking alone (by omega) (by omega), ih (by omega) (by omega),
      Text.breaks_of_single breaking alone, Text.hasBreak_cons, breaking,
      Text.lastLine_cons_of_isBreak breaking, start_behind_break, Bool.true_or, if_pos rfl,
      Except.ok.injEq, Prod.mk.injEq]
    omega

/-- From the start of a text, the scan finds its breaks and the size of all but its last line. -/
theorem scan_zero {text : Text} (fits : Text.size text ≤ Word.greatest) :
    scan 0 0 0 text =
      .ok (Text.breaks text, Text.size text - Text.size (Text.lastLine text)) := by
  rw [scan_eq (by omega) (Nat.le_refl 0), Nat.zero_add, Nat.zero_add]
  cases more : Text.hasBreak text with
  | true => rw [if_pos rfl]
  | false =>
    rw [Text.lastLine_of_not_hasBreak more, Nat.sub_self]
    simp

/-- What the scan finds to be the last line is a window on it. -/
theorem exists_range_lastLine (text : Text) :
    ∃ window, range text (Text.size text - Text.size (Text.lastLine text)) (Text.size text) =
      .ok window ∧ window.text = Text.lastLine text := by
  obtain ⟨front, whole⟩ := Text.lastLine_suffix text
  have total : Text.size text = Text.size front + Text.size (Text.lastLine text) := by
    rw [← Text.size_append, whole]
  have window := range_of_division front (Text.lastLine text) []
  rw [List.append_nil, whole] at window
  refine ⟨⟨front.reverse, Text.lastLine text, []⟩, ?_, rfl⟩
  rw [total, Nat.add_sub_cancel]
  exact window

/-- The columns of a short span never fault. -/
theorem columns_if_of_le {rule : TabRule} {tabs : Bool} {span : Text}
    (fits : 2 * Text.size span ≤ Word.greatest) :
    (if tabs then columns rule span else .ok (Text.size span)) =
      .ok (Position.spanColumns rule tabs span) := by
  cases tabs with
  | true => exact columns_of_le fits
  | false => rfl

/-- The marker turns to the line and column that the span leads to. -/
theorem perform_turn {marker : Marker} {multiline tabs : Bool} {span : Text}
    (some_span : span ≠ []) (fits : 2 * Text.size span ≤ Word.greatest)
    (lines : marker.position.line + Text.breaks span ≤ Word.greatest) :
    marker.perform (turn multiline tabs span) = .ok (.ok (),
      { marker with position :=
        { marker.position.past marker.tabRule multiline tabs span with
          offset := marker.position.offset } }) := by
  rw [turn, perform_bind perform_get]
  cases multiline with
  | true =>
    obtain ⟨window, ranged, text⟩ := exists_range_lastLine span
    -- The last line is part of the span, so its columns fit where those of the span do.
    have last := Text.size_lastLine_le span
    have width :
        (if tabs then columns marker.tabRule window.text else .ok (Text.size window.text)) =
          .ok (Position.spanColumns marker.tabRule tabs (Text.lastLine span)) := by
      rw [text]
      exact columns_if_of_le (by omega)
    rw [if_pos rfl, perform_bind (perform_checked (scan_zero (by omega))),
      perform_bind (perform_checked ranged), perform_bind (perform_checked width),
      perform_bind (perform_checked (add_of_le lines)), perform_bind (perform_move _),
      perform_move]
    simp [Position.past, some_span]
  | false =>
    rw [if_neg (by simp), perform_bind (perform_checked (columns_if_of_le fits)), perform_move]
    simp [Position.past, some_span]

end Marker

end Lexing
