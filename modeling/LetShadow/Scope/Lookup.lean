/-
**Looking a name up in the groups around.**

The groups around a node are searched nearest first, and the declarations of each in source order.
The search ends at the first declaration that has the name. A declaration with an indeterminate name
is passed over, and one whose name cannot be resolved is an error only if the search comes to it.

* `ScopeIndex.declaredAbove` — **does a group around the node declare the name?**
-/

import LetShadow.Scope.Index
import LetShadow.Scope.View

namespace LetShadow

/-- Does a declaration have the name? -/
def Occurrence.hasName (name : Name) (declaration : Occurrence) : Lookup Bool :=
  return (← liftM declaration.resolve).agrees name

/-- Does a group directly declare the name? The first declaration that has it, or that cannot be
resolved, decides. -/
def Occurrence.declares (group : Occurrence) (name : Name) : Lookup Bool := do
  (← ScopeView.declarations group).anyM (Occurrence.hasName name)

/-- Does an example group around the node at a position declare the name? An indeterminate name is
not looked up at all. -/
def ScopeIndex.declaredAbove (index : ScopeIndex) (pos : Nat) : Name → Lookup Bool
  | .indeterminate => return false
  | .known value => (index.enclosing pos).anyM fun group => group.declares (.known value)

end LetShadow
