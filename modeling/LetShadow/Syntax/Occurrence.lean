/-
**Nodes at their places.**

Equal trees may stand at several places of one tree. An `Occurrence` tells them apart: it is a node
together with its position, the number of nodes that stand before it in the pre-order of the whole
tree. A node's own tree takes up the positions from its own on, without a gap.

* `Occurrence.children` — the children at their places.
* `Occurrence.walk` — **the whole tree below an occurrence,** parents before children and siblings
  in source order.
* `Occurrence.walk_eq` — **the walk is compositional:** an occurrence, then the walks of its
  children from left to right.
* `Occurrence.walk_positions` — the positions of a walk are consecutive.
-/

import LetShadow.Syntax.Node

namespace LetShadow

/-- A node at its place in a tree, given by the number of nodes before it in pre-order. -/
structure Occurrence where
  pos : Nat
  node : Node
deriving Repr, Inhabited

namespace Occurrence

/-- Trees side by side, the first of them at position `pos`. -/
def placed (pos : Nat) : List Node → List Occurrence
  | [] => []
  | node :: rest => ⟨pos, node⟩ :: placed (pos + node.size) rest

/-- The children of a node at their places. -/
def children (here : Occurrence) : List Occurrence :=
  placed (here.pos + 1) here.node.children

/-- Nodes at consecutive places. -/
def numbered (pos : Nat) (nodes : List Node) : List Occurrence :=
  (nodes.zipIdx pos).map fun entry => ⟨entry.2, entry.1⟩

/-- The occurrences of a tree in pre-order. -/
def walk (here : Occurrence) : List Occurrence :=
  numbered here.pos here.node.preorder

@[simp]
theorem numbered_nil (pos : Nat) : numbered pos [] = [] := rfl

@[simp]
theorem numbered_cons (pos : Nat) (node : Node) (rest : List Node) :
    numbered pos (node :: rest) = ⟨pos, node⟩ :: numbered (pos + 1) rest := rfl

theorem numbered_append (pos : Nat) (first second : List Node) :
    numbered pos (first ++ second) =
      numbered pos first ++ numbered (pos + first.length) second := by
  simp [numbered, List.zipIdx_append]

/-- Numbering the pre-order of trees side by side walks them at their places. -/
theorem numbered_preorder (pos : Nat) (nodes : List Node) :
    numbered pos (nodes.flatMap Node.preorder) = (placed pos nodes).flatMap walk := by
  induction nodes generalizing pos with
  | nil => rfl
  | cons node rest ih =>
    simp [placed, walk, numbered_append, ih]

/-- A walk meets the occurrence itself and then walks its children from left to right. -/
theorem walk_eq (here : Occurrence) : here.walk = here :: here.children.flatMap walk := by
  rw [walk, Node.preorder_eq, numbered_cons, numbered_preorder, children]

/-- The positions of a walk are consecutive, and there are as many as the tree has nodes. -/
theorem walk_positions (here : Occurrence) :
    here.walk.map pos = List.range' here.pos here.node.size := by
  have key : ∀ (nodes : List Node) (start : Nat),
      (numbered start nodes).map pos = List.range' start nodes.length := by
    intro nodes
    induction nodes with
    | nil => intro start; rfl
    | cons node rest ih => intro start; simp [ih, List.range'_succ]
  rw [walk, key, Node.length_preorder]

end Occurrence

end LetShadow
