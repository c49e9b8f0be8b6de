import Lexing.Command.Report

/-!
# The command line

Runs the command on the files and the standard input of the system, prints its report and exits with
its code.
-/

namespace Lexing.Command

/-- The number of an error of the system, which some calls report as its negative. -/
def systemCode (code : UInt32) : Nat := min code.toNat (-code).toNat

/-- The wording that the system has for a number. Other numbers keep the wording that came with
them. -/
def systemWording (code : Nat) (wording : String) : String :=
  match code with
  | 2 => "No such file or directory"
  | 5 => "Input/output error"
  | 6 => "No such device or address"
  | 13 => "Permission denied"
  | 20 => "Not a directory"
  | 21 => "Is a directory"
  | 36 => "File name too long"
  | 40 => "Too many levels of symbolic links"
  | _ => wording

/-- A refusal of the system, by its number. -/
def refusalOf (code : Nat) (wording : String) : ReadError :=
  .system (systemWording code wording) code

/-- The cause of an error that the system reports. -/
def causeOf : IO.Error → ReadError
  | .alreadyExists _ code wording
  | .otherError code wording
  | .resourceBusy code wording
  | .resourceVanished code wording
  | .unsupportedOperation code wording
  | .hardwareFault code wording
  | .unsatisfiedConstraints code wording
  | .illegalOperation code wording
  | .protocolError code wording
  | .timeExpired code wording
  | .interrupted _ code wording
  | .noFileOrDirectory _ code wording
  | .invalidArgument _ code wording
  | .permissionDenied _ code wording
  | .resourceExhausted _ code wording
  | .inappropriateType _ code wording
  | .noSuchThing _ code wording => refusalOf (systemCode code) wording
  | .unexpectedEof => .other "end of file"
  | .userError message => .other message

/-- Reads the standard input or the file of a path. -/
def readInput : Reader IO := fun path => do
  try
    match path with
    | none => return .ok (← (← IO.getStdin).readBinToEnd)
    | some path => return .ok (← IO.FS.readBinFile path)
  catch error => return .error (causeOf error)

/-- Prints a report and gives its exit code. -/
def emit (report : Report) : IO UInt32 := do
  (← IO.getStdout).putStr report.output
  (← IO.getStderr).putStr report.errors
  return report.exitCode.toUInt32

end Lexing.Command

/-- Runs the command. -/
def main (arguments : List String) : IO UInt32 := do
  Lexing.Command.emit (← Lexing.Command.execute Lexing.Command.readInput arguments)
