/-
**Reports with a table.**

The table lists all offenses, those of files with errors as well. Places and messages are shown as
text with tags, names as they are. Control characters do not reach the cells. All tags are read
before the table is drawn, and the styles are checked as it is drawn, row by row.

* `tableRows` — **a row for each offense,** in the order of the results.
* `offenseTable` — the drawn table.
* `tableReport` — **the report:** files with errors, the table if there is any offense, the summary.
-/

import LetShadow.Report.Grid
import LetShadow.Report.Plain
import LetShadow.Report.Summary

namespace LetShadow

open Report

/-- What the table says of an offense. -/
structure TableRow where
  place : String
  name : String
  message : String
deriving DecidableEq, Repr

/-- The title of the table. -/
def tableTitle : String :=
  "Overridden let Declarations"

/-- The headings of its columns. -/
def tableHeadings : List String :=
  ["Location", "Let", "Message"]

/-- The rows of the table. -/
def tableRows (results : List Result) : List TableRow :=
  results.flatMap fun result =>
    result.offenses.map fun offense =>
      { place := offense.place result.file, name := offense.shownName, message := offense.message }

/-- The cells of a row, with its place and its message as they have been read. -/
def TableRow.cells (row : TableRow) (place message : Marked) :
    Except MarkupFault (List (List Char)) := do
  return [← place.shown, dropControls row.name.toList, ← message.shown]

/-- The table of some rows. All places are read before any message. -/
def offenseTable (rows : List TableRow) : Except MarkupFault Grid := do
  let places ← rows.mapM fun row => readMarkup row.place.toList
  let messages ← rows.mapM fun row => readMarkup row.message.toList
  let rows ← (rows.zip (places.zip messages)).mapM fun (row, place, message) =>
    row.cells place message
  return { title := tableTitle.toList, headings := tableHeadings.map String.toList, rows }

/-- The lines of the table, if there is any offense. -/
def tableLines (results : List Result) : Except MarkupFault (List String) :=
  match tableRows results with
  | [] => .ok []
  | rows => do return (← offenseTable rows).drawn.map String.ofList

/-- The lines of a report with a table. -/
def tableReport (results : List Result) : Except MarkupFault (List String) := do
  let errors ← errorLines results
  let table ← tableLines results
  return errors ++ table ++ (Summary.ofResults results).lines

end LetShadow
