import SamTemplate.CommandLine.Run

/-!
# The program

Runs the command that the arguments spell on the files of the machine. Output goes
to the standard output, notices and errors to the standard error output.
-/

namespace SamTemplate

namespace CommandLine

/-- What is said if the arguments spell no command. -/
def usage : String :=
  "usage: samc compile|fingerprint [-f FILE] [-p KEY=VALUE]... [--config FILE]\n"
    ++ "       samc compile ... [--format yaml|json]\n       samc schema"

/-- What is found under a path on this machine. -/
def lookOnMachine (path : String) : IO FileState := do
  try
    return .text (← IO.FS.readFile path)
  catch error =>
    match error with
    | .noFileOrDirectory .. => return .absent
    | _ => return .unreadable

end CommandLine

end SamTemplate

open SamTemplate in
/-- Prints the report of a command, or says why there is none. -/
def main (arguments : List String) : IO UInt32 := do
  match Command.ofArguments? arguments with
  | none =>
    IO.eprintln CommandLine.usage
    return 2
  | some command =>
    match ← (CommandLine.run CommandLine.lookOnMachine command).run with
    | .ok report =>
      for warning in report.warnings do
        IO.eprintln ("warning: " ++ warning)
      IO.print report.output
      return 0
    | .error error =>
      IO.eprintln ("error: " ++ error.message)
      return 1
