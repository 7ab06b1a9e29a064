/-
**Runs.**

* `Status` — how a run ends, as its exit code tells: a file with an error outweighs an offense.
* `runWith` — **a run with options.** Targets that do not exist end it before any file is read; else
  all files are analyzed, in the order of the targets, before anything is printed.
* `run` — **a run with arguments.** Only a breakdown keeps it from ending with a status.
-/

import LetShadow.CommandLine.Options
import LetShadow.Files.Search
import LetShadow.Report.Table

namespace LetShadow.CommandLine

/-- How a run ends. -/
inductive Status where
  /-- There is nothing to report. -/
  | clean
  /-- There are offenses. -/
  | offending
  /-- Some file has an error, some target does not exist, or the usage is wrong. -/
  | failed
deriving DecidableEq, Repr

/-- The exit code of a status. -/
def Status.code : Status → Nat
  | .clean => 0
  | .offending => 1
  | .failed => 2

/-- The status that results lead to. -/
def Status.ofResults (results : List Result) : Status :=
  if results.any fun result => result.error.isSome then .failed
  else if results.any fun result => !result.offenses.isEmpty then .offending
  else .clean

/-- How a run ends, and the lines that it prints. -/
structure Outcome where
  status : Status
  lines : List String := []
deriving DecidableEq, Repr

/-- Why a run ends without a status. -/
inductive Breakdown where
  /-- A file cannot be analyzed, and no report covers why. -/
  | analysis (abort : Abort)
  /-- A target cannot be looked up. -/
  | search (long : LongPath)
  /-- A text cannot be shown. -/
  | report (fault : Report.MarkupFault)
deriving DecidableEq, Repr

/-- The report of a breakdown. -/
def Breakdown.message : Breakdown → String
  | .analysis abort => abort.message
  | .search long => long.message
  | .report fault => fault.message

/-- The line for a target that does not exist. -/
def missingLine (target : Path) : Except Report.MarkupFault String := do
  let text ← Report.shown <| Report.red <|
    "Error: ".toList ++ target.toString.toList ++ " does not exist".toList
  return String.ofList (Report.expandTabs text)

/-- The report of some results in the form that is asked for. -/
def ReportForm.lines : ReportForm → List Result → Except Report.MarkupFault (List String)
  | .table => tableReport
  | .plain => plainReport

/-- The targets that do not exist. -/
def missingTargets (root : FileTree) (targets : List Path) : Except LongPath (List Path) :=
  targets.filterM fun target => do return !(← root.holds target)

/-- The results of the files that the targets stand for. -/
def results (root : FileTree) (options : Options) : Except Breakdown (List Result) := do
  let paths ← (collect root options.targets).mapError .search
  paths.mapM fun path => (analyzeFile root options.input path.toString).mapError .analysis

/-- A run with options. -/
def runWith (root : FileTree) (options : Options) : Except Breakdown Outcome := do
  match ← (missingTargets root options.targets).mapError .search with
  | [] =>
    let results ← results root options
    let lines ← (options.format.lines results).mapError .report
    return { status := .ofResults results, lines }
  | missing =>
    let lines ← (missing.mapM missingLine).mapError .report
    return { status := .failed, lines }

/-- A run with arguments. -/
def run (root : FileTree) (arguments : List String) : Except Breakdown Outcome :=
  match Options.parse arguments with
  | .ok options => runWith root options
  | .error .help => .ok { status := .clean }
  | .error .wrongUsage => .ok { status := .failed }

end LetShadow.CommandLine
