/-
**Collecting direct declarations once.**

The direct declarations of a group are asked for many times: when the group is checked, and again
for every declaration below it. A view keeps what was collected for a block and gives that out from
then on. Several checks may ask one view.

* `ScopeView.declarations` — **the direct declarations of a block,** as the view knows them or, if
  it was never asked for that block, collected now and kept.
* `Lookup` — **questions that go through a view and may fail at a name.** A failure keeps what was
  collected before it.
-/

import Std.Data.TreeMap
import LetShadow.Group.Declarations

namespace LetShadow

/-- The direct declarations of the blocks that were asked for, by the position of the block. -/
structure ScopeView where
  collected : Std.TreeMap Nat (List Occurrence) := {}
deriving Inhabited

namespace ScopeView

/-- What the view knows of the block at a position. -/
def find? (view : ScopeView) (pos : Nat) : Option (List Occurrence) :=
  view.collected[pos]?

/-- Keeps the declarations of the block at a position. -/
def keep (view : ScopeView) (pos : Nat) (declarations : List Occurrence) : ScopeView :=
  { view with collected := view.collected.insert pos declarations }

/-- A view that was asked for nothing knows nothing. -/
@[simp]
theorem find?_empty (pos : Nat) : ({} : ScopeView).find? pos = none :=
  Std.TreeMap.getElem?_emptyc

/-- What was kept last is found, and all else as before. -/
theorem find?_keep (view : ScopeView) (pos asked : Nat) (declarations : List Occurrence) :
    (view.keep pos declarations).find? asked =
      if pos = asked then some declarations else view.find? asked := by
  simp [find?, keep, Std.TreeMap.getElem?_insert]

/-- The direct declarations of a block: those kept from before, or else collected now and kept. -/
def declarations (block : Occurrence) : StateM ScopeView (List Occurrence) := do
  match (← get).find? block.pos with
  | some known => return known
  | none =>
    modify (·.keep block.pos block.directDeclarations)
    return block.directDeclarations

end ScopeView

/-- Questions that are answered with the help of a view, and may fail at a name. -/
abbrev Lookup :=
  ExceptT Unresolvable (StateM ScopeView)

end LetShadow
