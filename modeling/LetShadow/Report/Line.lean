/-
**The line of an offense.**

* `Offense.place` — the path, and the line and column if the declaration has a place. Columns are
  shown counted from one.
* `Offense.line` — **one offense as a line of text:** its place, its message and its name.
-/

import LetShadow.Check.Result

namespace LetShadow

/-- The place of an offense in a file. -/
def Offense.place (offense : Offense) (file : String) : String :=
  match offense.location with
  | none => file
  | some location => file ++ ":" ++ toString location.line ++ ":" ++ toString (location.column + 1)

/-- The name of an offense, shown as a symbol. -/
def Offense.shownName (offense : Offense) : String :=
  (Name.known offense.name).shown

/-- An offense as a line of text. -/
def Offense.line (offense : Offense) (file : String) : String :=
  offense.place file ++ ": " ++ offense.message ++ " (" ++ offense.shownName ++ ")"

end LetShadow
