/-
**Plain reports.**

A plain report has one line for each file that could not be analyzed, then one line for each
offense. The line of an offense is shown without regard to tags, but emoji codes in it are replaced,
and control characters do not reach the output. A file or an error whose text closes a tag that is
not open keeps the whole report from being made.

* `errorLines` — **the lines of the files with errors.**
* `offenseLines` — the lines of all offenses, in the order of the results.
* `plainReport` — **the report.**
* `printed` — lines as they are printed, each with a line end.
-/

import LetShadow.Report.Control
import LetShadow.Report.Line
import LetShadow.Report.Markup

namespace LetShadow

open Report

/-- The line of a file with an error. -/
def errorLine (file error : String) : Except MarkupFault String := do
  let text ← shown <| red <|
    "Error analyzing ".toList ++ escape file.toList ++ ": ".toList ++ escape error.toList
  return String.ofList (expandTabs text)

/-- The files with errors, and their errors. -/
def fileErrors (results : List Result) : List (String × String) :=
  results.filterMap fun result => result.error.map fun error => (result.file, error)

/-- The lines of the files with errors. -/
def errorLines (results : List Result) : Except MarkupFault (List String) :=
  (fileErrors results).mapM fun (file, error) => errorLine file error

/-- The lines of all offenses. -/
def offenseLines (results : List Result) : List String :=
  results.flatMap fun result =>
    result.offenses.map fun offense =>
      String.ofList (printable (showEmoji (offense.line result.file).toList))

/-- The lines of a plain report. -/
def plainReport (results : List Result) : Except MarkupFault (List String) := do
  return (← errorLines results) ++ offenseLines results

/-- Lines as they are printed. -/
def printed (lines : List String) : String :=
  String.join (lines.map fun line => line ++ "\n")

end LetShadow
