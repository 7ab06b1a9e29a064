/-
**Results of the check, file by file.**

* `Result` — what is known of one file: its offenses, or why it could not be analyzed.
* `Result.agrees` — when two results say the same. **The number of groups does not matter,** and
  offenses agree only if they are about the same declaration.
* `analyzeTree` — the result for a tree that is at hand.
-/

import LetShadow.Check.Checker

namespace LetShadow

/-- The outcome of the analysis of one file; `error` is set if it could not be analyzed. -/
structure Result where
  file : String
  offenses : List Offense := []
  error : Option String := none
  scopes : Nat := 0
deriving Repr

/-- Two offenses are about the same declaration and say the same. -/
def Offense.agrees (first second : Offense) : Bool :=
  first.declaration.pos == second.declaration.pos && first.name == second.name &&
    first.message == second.message

/-- Two results say the same of the same file. -/
def Result.agrees (first second : Result) : Bool :=
  first.file == second.file && first.error == second.error &&
    first.offenses.length == second.offenses.length &&
    (first.offenses.zip second.offenses).all fun pair => pair.1.agrees pair.2

/-- The result of a check that went through. -/
def Progress.result (progress : Progress) (file : String) : Result :=
  { file, offenses := progress.offenses.toList, scopes := progress.scopes }

/-- The result of a check or a reading that failed. -/
def Result.failed (file error : String) : Result :=
  { file, error := some error }

/-- The result for a tree. -/
def analyzeTree (tree : Node) (file : String) : Except Unresolvable Result :=
  (analyze tree).map fun progress => progress.result file

end LetShadow
