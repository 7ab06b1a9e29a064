/-
**Tables drawn with lines.**

* `Grid` — a title, a heading for each column, and rows of cells. A cell may hold several lines.
* `Grid.drawn` — **the drawn table.** A column is as wide as its widest line, with one blank at
  either side; the title stands in the middle above the table.
-/

import LetShadow.Report.Control

namespace LetShadow.Report

/-- A table of texts. -/
structure Grid where
  title : List Char
  headings : List (List Char)
  rows : List (List (List Char))
deriving Repr

/-- The lines of a text; `line` is the line begun so far, in reverse. -/
def linesFrom (line : List Char) : List Char → List (List Char)
  | [] => [line.reverse]
  | char :: rest =>
    if char = '\n' then line.reverse :: linesFrom [] rest else linesFrom (char :: line) rest

/-- The lines of a text. There is always one, however short. -/
def lines (text : List Char) : List (List Char) :=
  linesFrom [] text

/-- The number of cells of the widest line of a text. -/
def widest (text : List Char) : Nat :=
  ((lines text).map Text.width).foldl max 0

/-- A line with the blanks that it lacks to a width. -/
def fillOnce (width : Nat) (line : List Char) : List Char :=
  line ++ List.replicate (width - Text.width line) ' '

/-- A line, filled up with blanks to a width. A joiner at its end hides the first blank, which the
second time makes up for. -/
def fill (width : Nat) (line : List Char) : List Char :=
  fillOnce width (fillOnce width line)

/-- A line in the middle of a width; an odd blank stands behind it. -/
def centre (width : Nat) (line : List Char) : List Char :=
  fill width (List.replicate ((width - Text.width line) / 2) ' ' ++ line)

namespace Grid

/-- The widths of the columns. -/
def widths (grid : Grid) : List Nat :=
  grid.rows.foldl (fun widths row => List.zipWith max widths (row.map widest))
    (grid.headings.map widest)

/-- A horizontal line: what it begins with, what it is drawn with, what it crosses columns with, and
what it ends with. -/
def rule (left line cross right : Char) (widths : List Nat) : List Char :=
  left :: [cross].intercalate (widths.map fun width => List.replicate (width + 2) line) ++ [right]

/-- One line of a row, from a line of each of its cells. -/
def rowLine (bar : Char) (widths : List Nat) (texts : List (List Char)) : List Char :=
  let cells := List.zipWith (fun width text => ' ' :: fill width text ++ [' ']) widths texts
  bar :: [bar].intercalate cells ++ [bar]

/-- The lines of a row. Cells with fewer lines than the tallest are blank below. Tabs are expanded
in the cells by themselves, and count nothing for the widths of the columns. -/
def rowLines (bar : Char) (widths : List Nat) (cells : List (List Char)) : List (List Char) :=
  let cells := cells.map fun cell => lines (expandTabs cell)
  let height := (cells.map List.length).foldl max 0
  (List.range height).map fun level =>
    rowLine bar widths (cells.map fun cell => cell.getD level [])

/-- The lines of a table. -/
def drawn (grid : Grid) : List (List Char) :=
  let widths := grid.widths
  let top := rule '┏' '━' '┳' '┓' widths
  [centre (Text.width top) grid.title, top] ++
    rowLines '┃' widths grid.headings ++
    [rule '┡' '━' '╇' '┩' widths] ++
    grid.rows.flatMap (rowLines '│' widths) ++
    [rule '└' '─' '┴' '┘' widths]

end Grid

end LetShadow.Report
