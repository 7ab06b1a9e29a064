/-
**Resolving the name of a declaration.**

Only literals give names. From a declaration the resolution goes to the first argument of a `let`
call, from a block to its call and from statements in a row to the first of them, until it meets a
literal, a shape whose value only running the code would tell, or a shape that it does not
understand.

* `Occurrence.resolve` — **the name that a node gives.**
* `Unresolvable` — the node at which a resolution gave up; its message names the node's kind, and
  its line if it has a place. Nothing is guessed at: such a node ends the analysis of its tree.
-/

import LetShadow.Syntax.Occurrence
import LetShadow.Name.Basic

namespace LetShadow

/-- The methods that declare a `let`. -/
def letMethods : List String :=
  ["let", "let!"]

/-- A name was given by a node of a shape that is not understood. -/
structure Unresolvable where
  rejected : Occurrence
deriving Repr

/-- What a report calls a node: its own kind if it is not interpreted, else the kind of node. -/
def Node.description : Node → String
  | .other kind _ _ _ => kind
  | node => node.kind.title

/-- The text that reports a node which cannot be resolved. -/
def Unresolvable.message (error : Unresolvable) : String :=
  let node := error.rejected.node
  let place :=
    match node.location with
    | some location => " at line " ++ toString location.line
    | none => ""
  "Unexpected node type while resolving let name: " ++ node.description ++ place

/-- The number of nodes of a receiver, if there is one. -/
def Node.receiverSize : Option Node → Nat
  | none => 0
  | some receiver => receiver.size

/-- The name given by the node at a position. -/
def Node.resolveAt : Nat → Node → Except Unresolvable Name
  | _, .call ⟨_, [], _, _⟩ => .ok .indeterminate
  | pos, .call ⟨method, first :: _, receiver, _⟩ =>
    if letMethods.contains method then
      first.resolveAt (pos + 1 + receiverSize receiver)
    else
      .ok .indeterminate
  | _, .block ⟨_, [], _, _⟩ _ _ => .ok .indeterminate
  | pos, .block ⟨method, first :: _, receiver, _⟩ _ _ =>
    if letMethods.contains method then
      first.resolveAt (pos + 2 + receiverSize receiver)
    else
      .ok .indeterminate
  | pos, .sequence [] location => .error ⟨⟨pos, .sequence [] location⟩⟩
  | pos, .sequence (first :: _) _ => first.resolveAt (pos + 1)
  | _, .localVariable _ _ => .ok .indeterminate
  | _, .symbol value _ => .ok (.known value)
  | _, .string value _ => .ok (.known value)
  | pos, .other kind children text location =>
    .error ⟨⟨pos, .other kind children text location⟩⟩

/-- The name given by a node at its place. -/
def Occurrence.resolve (here : Occurrence) : Except Unresolvable Name :=
  here.node.resolveAt here.pos

end LetShadow
