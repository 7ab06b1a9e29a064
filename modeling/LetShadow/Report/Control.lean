/-
**Control characters in printed text.**

* `dropControls` — a text without the characters that would move the cursor back or ring the bell.
* `expandTabs` — **a text with blanks for its tabs:** each tab leads to the next multiple of eight
  cells.
* `printable` — a text as a line of a report shows it, without both.
-/

import LetShadow.Text.Width

namespace LetShadow.Report

/-- The characters that are not printed: bell, backspace, vertical tab, form feed and carriage
return. -/
def droppedControls : List Char :=
  ['\x07', '\x08', '\x0b', '\x0c', '\x0d']

/-- A text without the characters that are not printed. -/
def dropControls (text : List Char) : List Char :=
  text.filter fun char => !droppedControls.contains char

/-- The number of cells between two tab stops. -/
def tabSize : Nat :=
  8

/-- The number of blanks from a column to the next tab stop; none at a tab stop. -/
def toTabStop (column : Nat) : Nat :=
  (tabSize - column % tabSize) % tabSize

/-- A text with blanks for its tabs; `column` is the number of cells before the begun part of its
line, which is `part`, in reverse. A tab is one blank at least. -/
def expandTabsFrom (column : Nat) (part : List Char) : List Char → List Char
  | [] => part.reverse
  | char :: rest =>
    if char = '\n' then part.reverse ++ '\n' :: expandTabsFrom 0 [] rest
    else if char = '\t' then
      let shown := part.reverse ++ [' ']
      let column := column + Text.width shown
      let blanks := toTabStop column
      shown ++ List.replicate blanks ' ' ++ expandTabsFrom (column + blanks) [] rest
    else expandTabsFrom column (char :: part) rest

/-- A text with blanks for its tabs. -/
def expandTabs (text : List Char) : List Char :=
  expandTabsFrom 0 [] text

/-- A text as a line of a report shows it. -/
def printable (text : List Char) : List Char :=
  expandTabs (dropControls text)

end LetShadow.Report
