/-
**Statements of Ruby bodies.**

The statements of a body are its named children, where a wrapper around a body counts for the
statements in it, and comments and block parameters do not count.

* `Concrete.statements` — **the statements of a body-like node,** in source order.
* `Concrete.statements_size_lt` — the statements are together smaller than the node.
-/

import LetShadow.Ruby.Concrete

namespace LetShadow.Ruby

/-- The types of the wrappers around a body. -/
def wrapperTypes : List String :=
  ["block_body", "body_statement"]

/-- The types of the nodes that are no statements and have no value. -/
def skippedTypes : List String :=
  ["comment", "block_parameters", "uninterpreted"]

namespace Concrete

/-- Is the node passed over? -/
def isSkipped (node : Concrete) : Bool :=
  skippedTypes.contains node.type

/-- Does the node stand for the statements in it? -/
def isWrapper (node : Concrete) : Bool :=
  wrapperTypes.contains node.type

mutual

/-- The statements that a node counts for, in front of `rest`. -/
def statementOnto : Concrete → List Concrete → List Concrete
  | ⟨type, field, source, location, children⟩, rest =>
    if skippedTypes.contains type then rest
    else if wrapperTypes.contains type then forestStatementsOnto children rest
    else ⟨type, field, source, location, children⟩ :: rest

/-- The statements that nodes side by side count for, in front of `rest`. -/
def forestStatementsOnto : List Concrete → List Concrete → List Concrete
  | [], rest => rest
  | node :: others, rest => statementOnto node (forestStatementsOnto others rest)

end

/-- The statements of a body-like node. -/
def statements (node : Concrete) : List Concrete :=
  forestStatementsOnto node.children []

/-- A node counts for nothing, for the statements in it, or for itself. -/
theorem statementOnto_eq (node : Concrete) (rest : List Concrete) :
    statementOnto node rest =
      if node.isSkipped then rest
      else if node.isWrapper then forestStatementsOnto node.children rest
      else node :: rest := by
  cases node; rfl

mutual

theorem statementOnto_size_le (node : Concrete) (rest : List Concrete) :
    forestSize (statementOnto node rest) ≤ node.size + forestSize rest := by
  obtain ⟨type, field, source, location, children⟩ := node
  rw [statementOnto, size]
  split
  · omega
  · split
    · have := forestStatementsOnto_size_le children rest
      omega
    · simp [forestSize, size]

theorem forestStatementsOnto_size_le (nodes rest : List Concrete) :
    forestSize (forestStatementsOnto nodes rest) ≤ forestSize nodes + forestSize rest := by
  match nodes with
  | [] => simp [forestStatementsOnto, forestSize]
  | node :: others =>
    have first := statementOnto_size_le node (forestStatementsOnto others rest)
    have second := forestStatementsOnto_size_le others rest
    rw [forestStatementsOnto, forestSize]
    omega

end

/-- The statements of a node are together smaller than the node. -/
theorem statements_size_lt (node : Concrete) : forestSize node.statements < node.size := by
  have := forestStatementsOnto_size_le node.children []
  rw [size_eq]
  simp only [forestSize] at this
  rw [statements]
  omega

theorem statements_total_lt (node : Concrete) : total size node.statements < node.size := by
  rw [← forestSize_eq]
  exact node.statements_size_lt

end Concrete

end LetShadow.Ruby
