/-
**Summaries.**

Only files without an error count as analyzed, and only their offenses count.

* `Summary.ofResults` — **the numbers of a summary.**
* `Summary.lines` — the lines that it is shown as.
-/

import LetShadow.Check.Result
import LetShadow.Total

namespace LetShadow

/-- The numbers of a summary. -/
structure Summary where
  /-- The files without an error. -/
  analyzed : Nat
  /-- The files with an error. -/
  failed : Nat
  /-- The offenses in the files without an error. -/
  offenses : Nat
  /-- The files without an error that have offenses. -/
  offending : Nat
deriving DecidableEq, Repr

namespace Summary

/-- The summary of some results. -/
def ofResults (results : List Result) : Summary :=
  let analyzed := results.filter fun result => result.error.isNone
  { analyzed := analyzed.length
    failed := results.length - analyzed.length
    offenses := total (fun result => result.offenses.length) analyzed
    offending := analyzed.countP fun result => !result.offenses.isEmpty }

/-- The lines of a summary. -/
def lines (summary : Summary) : List String :=
  [ "",
    "Summary:",
    "Files analyzed: " ++ toString summary.analyzed,
    "Overridden let declarations: " ++ toString summary.offenses ] ++
  (if summary.failed = 0 then [] else ["Files with errors: " ++ toString summary.failed]) ++
  [ if summary.offenses = 0 then "No overridden let declarations found."
    else toString summary.offending ++ " file(s) need attention." ]

end Summary

end LetShadow
