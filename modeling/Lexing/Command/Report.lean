import Lexing.Command.ReadError
import Lexing.Keyword
import Lexing.Lexeme.Standard
import Lexing.Run
import Lexing.Text.Numeral

/-!
# The command

The command takes a tab width and the path of a file, both of which may be left out, and lists the
tokens of the file, or of the standard input. What is wrong with the text goes to the error output,
one line each. The exit code is 0 if nothing is wrong, 1 if something is, and 2 if the command could
not do its work.

How an input is read is no concern of the command: it asks a reader, at most once, and takes what
comes of it.

## Main definitions

* `Command.Request`, `Command.request`: what the arguments ask for
* `Command.Refusal`: why the command could not do its work
* `Command.Report`, `Command.report`: what the command prints for an input
* `Command.Reader`, `Command.execute`: the whole command, with a reader for its input
-/

namespace Lexing.Command

/-- What the arguments ask for. -/
structure Request where
  tabWidth : Int
  /-- The path of the file to read, or none for the standard input. -/
  path : Option String

/-- Why the command could not do its work. -/
inductive Refusal where
  /-- The first argument is no signed 64-bit number. -/
  | badTabWidth (argument : String)
  /-- The input could not be read. -/
  | unreadable (cause : ReadError)
  /-- A recognizer claimed what it could not. -/
  | badClaim (cause : ClaimError)
  deriving DecidableEq, Repr

/-- The wording of a refusal. -/
def Refusal.message : Refusal → String
  | badTabWidth argument => "invalid tab width `" ++ argument ++ "`"
  | unreadable cause => "could not read input: " ++ cause.message
  | badClaim cause => cause.message

/-- What the command leaves behind. -/
structure Report where
  exitCode : Nat
  output : String
  errors : String
  deriving DecidableEq, Repr

/-- The report of a command that could not do its work. -/
def Refusal.report (refusal : Refusal) : Report := ⟨2, "", "Error: " ++ refusal.message ++ "\n"⟩

/-- What the arguments ask for. The first is the tab width, the second the path; others are not
looked at. -/
def request (arguments : List String) : Except Refusal Request :=
  match arguments with
  | [] => .ok ⟨TabRule.defaultWidth, none⟩
  | width :: rest =>
    match Text.readInt64? width.toList with
    | some tabWidth => .ok ⟨tabWidth, rest.head?⟩
    | none => .error (.badTabWidth width)

/-- The name that positions are given in. -/
def Request.fileName (request : Request) : String := request.path.getD "<stdin>"

/-- Each text on a line of its own. -/
def lines (texts : List String) : String := String.join (texts.map (· ++ "\n"))

/-- Lists the tokens of a text and what is wrong with it. -/
def listing (file : String) (tabWidth : Int) (text : Text) : Report :=
  let run := (Cursor.ofText file (.ofWidth tabWidth) text).run Lexeme.standard
  match run.ending with
  | .refused cause => (Refusal.badClaim cause).report
  -- The standard recognizers claim something whenever they succeed, so no run of them is endless.
  | .complete | .endless =>
    { exitCode := if run.diagnostics.isEmpty then 0 else 1
      output := lines ((Token.promoteAll run.tokens).map Token.display)
      errors := lines (run.diagnostics.map (Diagnostic.display file)) }

/-- What the command prints for what it read. -/
def report (request : Request) (input : Except ReadError ByteArray) : Report :=
  match input with
  | .error cause => (Refusal.unreadable cause).report
  | .ok bytes =>
    match String.fromUTF8? bytes with
    | none => (Refusal.unreadable .notText).report
    | some text => listing request.fileName request.tabWidth text.toList

/-- How the standard input is read, and the file of a path. -/
abbrev Reader (m : Type → Type) := Option String → m (Except ReadError ByteArray)

/-- The whole command. The arguments are looked at before anything is read. -/
def execute {m : Type → Type} [Monad m] (read : Reader m) (arguments : List String) : m Report :=
  match request arguments with
  | .error refusal => return refusal.report
  | .ok request => return report request (← read request.path)

end Lexing.Command
