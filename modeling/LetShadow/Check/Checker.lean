/-
**The check for overridden declarations.**

Every example group is looked at once. A declaration made directly in it is an offense if a group
around it declares the same name. What the groups around are is told by the scope index of one tree,
which need not be the tree that is visited. What is declared in a group is asked of a view, which
may be shared with other checks.

* `Progress` — the groups counted and the offenses found so far. **A failure keeps it:** the group
  at which a check fails is counted, and the offenses found before stay.
* `Checker.visit` — checks the groups of a tree, in the order of the walk.
* `analyze` — **checks a whole tree against itself.**
-/

import LetShadow.Syntax.Visit
import LetShadow.Scope.Lookup

namespace LetShadow

/-- What is said about a declaration that overrides another. -/
def offenseMessage : String :=
  "Do not override let."

/-- A declaration that overrides one of a group around it. -/
structure Offense where
  declaration : Occurrence
  name : String
  message : String := offenseMessage
deriving Repr

/-- The place of an offense is that of its declaration. -/
def Offense.location (offense : Offense) : Option Location :=
  offense.declaration.node.location

/-- The example groups counted and the offenses found so far, in the order they were found. -/
structure Progress where
  scopes : Nat := 0
  offenses : Array Offense := #[]
deriving Repr

/-- Steps of a check: they make progress with the help of a view, and may fail at a name without
losing what was done before. -/
abbrev Check :=
  ExceptT Unresolvable (StateT Progress (StateM ScopeView))

/-- A question asked in a check makes no progress. -/
def Lookup.asked {α : Type} (lookup : Lookup α) : Check α :=
  ExceptT.mk (StateT.lift lookup.run)

/-- Counts one example group. -/
def Progress.count (progress : Progress) : Progress :=
  { progress with scopes := progress.scopes + 1 }

/-- Adds one offense. -/
def Progress.report (offense : Offense) (progress : Progress) : Progress :=
  { progress with offenses := progress.offenses.push offense }

/-- Checks one declaration made directly in the group at a position. -/
def checkDeclaration (index : ScopeIndex) (group : Nat) (declaration : Occurrence) :
    Check Unit := do
  match ← liftM declaration.resolve with
  | .indeterminate => pure ()
  | .known name =>
    if ← (index.declaredAbove group (.known name)).asked then
      modify (Progress.report { declaration, name })

/-- Counts an example group and checks its declarations; passes over any other block. -/
def checkBlock (index : ScopeIndex) (here : Occurrence) : Check Unit := do
  if here.node.isGroup then
    modify Progress.count
    forM (← liftM (ScopeView.declarations here)) (checkDeclaration index here.pos)

/-- The visitor that checks blocks. -/
def overrideVisitor (index : ScopeIndex) : Visitor Check where
  handler?
    | .block => some (checkBlock index)
    | _ => none

/-- A check in progress. -/
structure Checker where
  index : ScopeIndex
  progress : Progress := {}

namespace Checker

/-- A checker for the tree at a place, which has looked at nothing yet. -/
def ofTree (root : Occurrence) : Checker :=
  { index := ScopeIndex.ofTree root }

/-- Checks the groups of the tree at a place with the help of a view; tells the failure that ended
the visit, if any. -/
def visit (checker : Checker) (here : Occurrence) :
    StateM ScopeView (Option Unresolvable × Checker) := do
  let (outcome, progress) ← ((overrideVisitor checker.index).visit here).run.run checker.progress
  let failure :=
    match outcome with
    | .ok () => none
    | .error error => some error
  return (failure, { checker with progress })

end Checker

/-- Checks a whole tree, with a view of its own. -/
def analyze (tree : Node) : Except Unresolvable Progress :=
  let root : Occurrence := ⟨0, tree⟩
  match (((Checker.ofTree root).visit root).run {}).1 with
  | (none, checker) => .ok checker.progress
  | (some error, _) => .error error

end LetShadow
