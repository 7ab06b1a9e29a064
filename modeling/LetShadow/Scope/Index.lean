/-
**The scope index of a tree.**

A node does not know what stands around it. The index of a tree tells, for each node below its root,
the nodes around it up to the root, nearest first. Outside the tree it knows nothing, and nothing
stands around the root.

* `ScopeIndex.above` — **the nodes around a node,** nearest first.
* `ScopeIndex.parent?` — the node of which a node is a child.
* `ScopeIndex.enclosing` — **the example groups around a node,** nearest first.
-/

import LetShadow.Group.Basic

namespace LetShadow

/-- For the nodes of one tree, in pre-order, the nodes around each of them, nearest first. -/
structure ScopeIndex where
  root : Nat
  chains : Array (List Occurrence)
deriving Repr

namespace ScopeIndex

mutual

/-- Adds the chains of a tree, whose root stands in the nodes `above`. The chain of the node at
position `base + i` is entry `i`. -/
def trace (base : Nat) (above : List Occurrence) :
    Node → Array (List Occurrence) → Array (List Occurrence)
  | .call call, chains =>
    callTrace base (⟨base + chains.size, .call call⟩ :: above) call (chains.push above)
  | .block call none location, chains =>
    let inside := ⟨base + chains.size, .block call none location⟩ :: above
    callTrace base (⟨base + chains.size + 1, .call call⟩ :: inside) call
      ((chains.push above).push inside)
  | .block call (some body) location, chains =>
    let inside := ⟨base + chains.size, .block call (some body) location⟩ :: above
    trace base inside body
      (callTrace base (⟨base + chains.size + 1, .call call⟩ :: inside) call
        ((chains.push above).push inside))
  | .sequence statements location, chains =>
    forestTrace base (⟨base + chains.size, .sequence statements location⟩ :: above)
      statements (chains.push above)
  | .other kind children text location, chains =>
    forestTrace base (⟨base + chains.size, .other kind children text location⟩ :: above)
      children (chains.push above)
  | .symbol .., chains => chains.push above
  | .string .., chains => chains.push above
  | .localVariable .., chains => chains.push above

/-- Adds the chains of the operands of a call. -/
def callTrace (base : Nat) (above : List Occurrence) :
    Call Node → Array (List Occurrence) → Array (List Occurrence)
  | ⟨_, arguments, none, _⟩, chains => forestTrace base above arguments chains
  | ⟨_, arguments, some receiver, _⟩, chains =>
    forestTrace base above arguments (trace base above receiver chains)

/-- Adds the chains of trees side by side. -/
def forestTrace (base : Nat) (above : List Occurrence) :
    List Node → Array (List Occurrence) → Array (List Occurrence)
  | [], chains => chains
  | node :: rest, chains => forestTrace base above rest (trace base above node chains)

end

/-- The index of the tree at a place. -/
def ofTree (root : Occurrence) : ScopeIndex :=
  ⟨root.pos, trace root.pos [] root.node #[]⟩

/-- The nodes around the node at a position, nearest first. -/
def above (index : ScopeIndex) (pos : Nat) : List Occurrence :=
  if index.root ≤ pos then index.chains[pos - index.root]?.getD [] else []

/-- The node of which the node at a position is a child. -/
def parent? (index : ScopeIndex) (pos : Nat) : Option Occurrence :=
  (index.above pos).head?

/-- The example groups around the node at a position, nearest first. -/
def enclosing (index : ScopeIndex) (pos : Nat) : List Occurrence :=
  (index.above pos).filter fun around => around.node.isGroup

/-- Each child that the index knows, with its parent, in the order of the children. -/
def links (index : ScopeIndex) : List (Nat × Nat) :=
  index.chains.toList.zipIdx.filterMap fun (chain, place) =>
    chain.head?.map fun parent => (index.root + place, parent.pos)

end ScopeIndex

end LetShadow
