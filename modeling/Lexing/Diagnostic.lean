import Lexing.Cursor

/-!
# Diagnostics

A problem lies at an offset from the start of an attempt; a diagnostic lies at a position. The
offset becomes a position by walking over the text from where the attempt started.

## Main definitions

* `Diagnostic`, `Diagnostic.display`
* `Cursor.locate`: the position of an offset from a cursor
* `Cursor.diagnose`: the diagnostic for a problem of an attempt at a cursor
-/

namespace Lexing

/-- Something wrong at a position. -/
structure Diagnostic where
  position : Position
  highlight : Nat
  message : String
  deriving DecidableEq, Repr

/-- The written form of a diagnostic in a file. -/
def Diagnostic.display (file : String) (diagnostic : Diagnostic) : String :=
  file ++ ":" ++ diagnostic.position.display ++ ": error: " ++ diagnostic.message ++
    " (highlight " ++ toString diagnostic.highlight ++ ")"

namespace Cursor

/-- The position of an offset from the cursor. An offset past the end means the end, and one inside
a character means the start of that character. What lies behind the cursor is not looked at: a
negative offset goes back byte by byte on the same line, as far as its first column. -/
def locate (cursor : Cursor) (offset : Int) : Position :=
  if offset < 0 then
    { cursor.position with
      column := max 1 (cursor.position.column - offset.natAbs)
      offset := cursor.position.offset - offset.natAbs }
  else
    let span := (Text.fit offset.toNat cursor.ahead).1
    cursor.position.past cursor.tabRule (Text.hasBreak span) true span

/-- The diagnostic for a problem of an attempt at the cursor. -/
def diagnose (cursor : Cursor) (problem : Problem) : Diagnostic :=
  ⟨cursor.locate problem.offset, problem.highlight, problem.message⟩

end Cursor

end Lexing
