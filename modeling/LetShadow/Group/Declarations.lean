/-
**The declarations made directly in an example group.**

A declaration belongs to the group in whose body it stands, looking through statements in a row
only. What stands in a nested group, in any other block or in an argument is no direct declaration
of the outer group.

* `Occurrence.directDeclarations` — **the direct declarations of a block,** in source order.
* `Node.declarationsOnto_eq` — statements in a row are transparent, any other node counts for
  itself.
-/

import LetShadow.Group.Basic

namespace LetShadow

mutual

/-- The declarations that the node at a position makes as a statement, in front of `rest`. -/
def Node.declarationsOnto (pos : Nat) : Node → List Occurrence → List Occurrence
  | .sequence statements _, rest => forestDeclarationsOnto (pos + 1) statements rest
  | .call invocation, rest =>
    if invocation.declaresLet then ⟨pos, .call invocation⟩ :: rest else rest
  | .block invocation body location, rest =>
    if invocation.declaresLet then ⟨pos, .block invocation body location⟩ :: rest else rest
  | .symbol .., rest => rest
  | .string .., rest => rest
  | .localVariable .., rest => rest
  | .other .., rest => rest

/-- The declarations made by statements side by side, in front of `rest`. -/
def Node.forestDeclarationsOnto (pos : Nat) : List Node → List Occurrence → List Occurrence
  | [], rest => rest
  | statement :: others, rest =>
    statement.declarationsOnto pos (forestDeclarationsOnto (pos + statement.size) others rest)

end

/-- The declarations made directly in the body of a block, in source order. -/
def Occurrence.directDeclarations (here : Occurrence) : List Occurrence :=
  match here.node with
  | .block invocation (some body) _ =>
    body.declarationsOnto (here.pos + 1 + Node.callSize invocation) []
  | _ => []

/-- A node that is no row of statements counts for itself. -/
theorem Node.declarationsOnto_eq (pos : Nat) (node : Node) (rest : List Occurrence)
    (single : node.kind ≠ .sequence) :
    node.declarationsOnto pos rest = if node.isLet then ⟨pos, node⟩ :: rest else rest := by
  cases node with
  | sequence => exact absurd rfl single
  | _ => rfl

end LetShadow
