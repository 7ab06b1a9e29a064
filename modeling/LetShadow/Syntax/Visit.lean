/-
**Visiting a tree.**

A visitor has a handler for some kinds of node. Visiting a tree hands every node with a handler to
it, in the order of the walk; the handlers may keep state and may fail, in any monad.

* `Visitor.visit_eq` — **a visit is compositional:** it handles the root alone and then visits the
  children from left to right, so what a handler fails at ends the visit there.
-/

import LetShadow.Syntax.Occurrence

namespace LetShadow

/-- A handler for each kind of node that the visitor looks at. -/
structure Visitor (m : Type → Type) where
  handler? : Kind → Option (Occurrence → m Unit)

namespace Visitor

variable {m : Type → Type} [Monad m]

/-- Hands one node to its handler, if there is one. -/
def handle (visitor : Visitor m) (here : Occurrence) : m Unit :=
  match visitor.handler? here.node.kind with
  | some handler => handler here
  | none => pure ()

/-- Hands every node of a tree to its handler, in the order of the walk. -/
def visit (visitor : Visitor m) (here : Occurrence) : m Unit :=
  forM here.walk visitor.handle

/-- A visit handles the root and then visits the children from left to right. -/
theorem visit_eq [LawfulMonad m] (visitor : Visitor m) (here : Occurrence) :
    visitor.visit here = (do visitor.handle here; forM here.children visitor.visit) := by
  have forest : ∀ children : List Occurrence,
      forM (children.flatMap Occurrence.walk) visitor.handle = forM children visitor.visit := by
    intro children
    induction children with
    | nil => rfl
    | cons child rest ih => simp [ih, visit]
  rw [visit, Occurrence.walk_eq, List.forM_cons, forest]

end Visitor

end LetShadow
