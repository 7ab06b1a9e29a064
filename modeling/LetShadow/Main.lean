/-
**The program.**

The arguments are options and targets. Standard input holds a snapshot of the files, with the
concrete trees that the Ruby parser has made of them. The report goes to standard output; the exit
code is the status of the run.
-/

import LetShadow.CommandLine.Run
import LetShadow.Files.Snapshot
import LetShadow.Json.Reader

namespace LetShadow.CommandLine

/-- The usage of the program. -/
def usage : String :=
  "usage: letshadow [-h] [--format table|plain] [--input auto|ruby|sexp] [--debug] target ..."

/-- The exit code of a run that ends without a status. -/
def breakdownCode : UInt32 :=
  1

/-- The exit code of a status. -/
def exitCode (status : Status) : UInt32 :=
  UInt32.ofNat status.code

/-- The files of the snapshot on standard input. -/
def readFiles : IO (Option FileTree) := do
  let text ← (← IO.getStdin).readToEnd
  return (Json.parse text.toList).toOption.bind FileTree.ofSnapshot?

/-- Checks the files. -/
def check (options : Options) : IO UInt32 := do
  match ← readFiles with
  | none =>
    IO.eprintln "standard input holds no snapshot of the files"
    return exitCode .failed
  | some root =>
    if options.debug then
      for path in (collect root options.targets).toOption.getD [] do
        IO.eprintln ("checking " ++ path.toString)
    match runWith root options with
    | .ok outcome =>
      IO.print (printed outcome.lines)
      return exitCode outcome.status
    | .error breakdown =>
      IO.eprintln breakdown.message
      return breakdownCode

/-- Runs the program. -/
def start (arguments : List String) : IO UInt32 := do
  match Options.parse arguments with
  | .ok options => check options
  | .error .help =>
    IO.println usage
    return exitCode .clean
  | .error .wrongUsage =>
    IO.eprintln usage
    return exitCode .failed

end LetShadow.CommandLine

/-- The entry point. -/
def main (arguments : List String) : IO UInt32 :=
  LetShadow.CommandLine.start arguments
