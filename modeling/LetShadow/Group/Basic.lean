/-
**Example groups and `let` declarations.**

* `Node.isGroup` — a block that opens an example group: a call of a group method, on no receiver or
  on the constant `RSpec` at the top level.
* `Node.isLet` — **a `let` declaration,** with or without a block: a call of `let` or `let!` on no
  receiver.
-/

import LetShadow.Name.Resolution

namespace LetShadow

/-- The methods that open an example group: regular, focused, skipped and shared ones. -/
def groupMethods : List String :=
  [ "describe", "context", "feature", "example_group",
    "fdescribe", "fcontext", "ffeature",
    "xdescribe", "xcontext", "xfeature",
    "shared_examples", "shared_examples_for", "shared_context" ]

/-- A receiver on which a group method opens a group: none, `RSpec` or `::RSpec`, but no constant of
that name inside another. -/
def isGroupReceiver : Option Node → Bool
  | none => true
  | some (.other "const" [] (some "RSpec") _) => true
  | some (.other "const" [.other "cbase" _ _ _] (some "RSpec") _) => true
  | some _ => false

/-- A call that opens a group if it has a block. -/
def Call.opensGroup (call : Call Node) : Bool :=
  groupMethods.contains call.method && isGroupReceiver call.receiver

/-- A call that declares a `let`. -/
def Call.declaresLet (call : Call Node) : Bool :=
  call.receiver.isNone && letMethods.contains call.method

/-- Does the node open an example group? -/
def Node.isGroup : Node → Bool
  | .block invocation _ _ => invocation.opensGroup
  | _ => false

/-- Is the node a `let` declaration? -/
def Node.isLet : Node → Bool
  | .block invocation _ _ => invocation.declaresLet
  | .call invocation => invocation.declaresLet
  | _ => false

end LetShadow
