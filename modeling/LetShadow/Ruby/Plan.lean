/-
**Plans for concrete trees.**

* `RubyPlan` — the plan of a node of a concrete tree; it fails where a literal names a code
  point that is too large.
* `leafPlan`, `childrenPlan`, `sequencePlan` — **plans without parts, from children, from
  statements.**
* `otherNode` — a node that is not interpreted keeps its grammar type as its kind.
-/

import LetShadow.Conversion.Machine
import LetShadow.Ruby.Escape
import LetShadow.Ruby.Statement

namespace LetShadow.Ruby

/-- The plan of a node of a concrete tree. -/
abbrev RubyPlan :=
  Plan Concrete.size Node OversizedCodePoint

/-- A plan without parts. -/
def leafPlan (source : Concrete) (node : Node) : RubyPlan source where
  parts := []
  assemble _ := .ok node
  smaller := source.size_pos

/-- A plan whose parts are chosen among the children. -/
def childrenPlan (source : Concrete) (choose : Concrete → Bool) (assemble : List Node → Node) :
    RubyPlan source where
  parts := source.children.filter choose
  assemble parts := .ok (assemble parts)
  smaller := Concrete.filter_size_lt choose source

/-- A plan whose parts are the statements of the node. -/
def sequencePlan (source : Concrete) : RubyPlan source where
  parts := source.statements
  assemble parts := .ok (.sequence parts (some source.location))
  smaller := source.statements_total_lt

/-- A node that is not interpreted. -/
def otherNode (source : Concrete) (children : List Node) : Node :=
  .other source.type children none (some source.location)

end LetShadow.Ruby
