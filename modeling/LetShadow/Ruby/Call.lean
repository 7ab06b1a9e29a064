/-
**Calls of concrete trees.**

A call has a method name, perhaps a receiver, arguments and an attached block. The statements of the
block become the block's body; a block without statements has none. A call without a method name,
such as an implicit call of a lambda, is not interpreted.

* `callArguments`, `attachedBlock?`, `blockStatements` — the pieces of a call.
* `blockParameters` — the names that a block binds; only plain parameters count.
* `assembleCall` — **the call or block that the converted pieces make.**
* `callPlan` — **the plan of a call:** its receiver, its arguments and the statements of its block,
  in this order.
-/

import LetShadow.Ruby.Plan

namespace LetShadow.Ruby

/-- The types of a block that is attached to a call. -/
def blockTypes : List String :=
  ["block", "do_block"]

/-- Is the node a comment? -/
def isComment (node : Concrete) : Bool :=
  node.type == "comment"

/-- Is the node a bare name? -/
def isIdentifier (node : Concrete) : Bool :=
  node.type == "identifier"

/-- The arguments of a call. -/
def callArguments (call : Concrete) : List Concrete :=
  match call.childAt? "arguments" with
  | some arguments => arguments.children.filter fun node => !isComment node
  | none => []

/-- The block that is attached to a call. A block that is passed on as an argument is not one. -/
def attachedBlock? (call : Concrete) : Option Concrete :=
  (call.childAt? "block").filter fun block => blockTypes.contains block.type

/-- The statements of the block that is attached to a call. -/
def blockStatements (call : Concrete) : List Concrete :=
  match attachedBlock? call with
  | some block => block.statements
  | none => []

/-- The names that a block binds as its parameters. -/
def blockParameters (block : Concrete) : List String :=
  match block.childAt? "parameters" with
  | some parameters => (parameters.children.filter isIdentifier).map Concrete.text
  | none => []

/-- The call or block that converted pieces make: a receiver, if the call has one, then as many
arguments as the call has, then the statements of the block. -/
def assembleCall (source : Concrete) (method : String) (pieces : List Node) : Node :=
  let receiverCount := (source.childAt? "receiver").toList.length
  let operands := pieces.drop receiverCount
  let argumentCount := (callArguments source).length
  let invocation : Call Node :=
    { method
      arguments := operands.take argumentCount
      receiver := (pieces.take receiverCount).head?
      location := some source.location }
  match attachedBlock? source with
  | none => .call invocation
  | some block =>
    let body :=
      match operands.drop argumentCount with
      | [] => none
      | statements => some (.sequence statements (some block.location))
    .block invocation body (some source.location)

/-- The pieces of a call are together smaller than the call. -/
theorem pieces_size_lt (source : Concrete) :
    total Concrete.size
      ((source.childAt? "receiver").toList ++ callArguments source ++ blockStatements source) <
        source.size := by
  have fields := Concrete.fields_size_le (by decide : "receiver" ≠ "arguments")
    (by decide : "receiver" ≠ "block") (by decide : "arguments" ≠ "block") source.children
  have receiver : total Concrete.size (source.childAt? "receiver").toList =
      Concrete.fieldSize source.children "receiver" := by
    unfold Concrete.fieldSize Concrete.childAt?
    cases source.children.find? fun node => node.field == some "receiver" <;> simp
  have arguments : total Concrete.size (callArguments source) ≤
      Concrete.fieldSize source.children "arguments" := by
    unfold callArguments Concrete.fieldSize Concrete.childAt?
    cases source.children.find? fun node => node.field == some "arguments" with
    | none => simp
    | some arguments =>
      have := Concrete.filter_size_le (fun node => !isComment node) arguments.children
      simp only [Option.map_some, Option.getD_some, Concrete.size_eq arguments]
      omega
  have statements : total Concrete.size (blockStatements source) ≤
      Concrete.fieldSize source.children "block" := by
    unfold blockStatements attachedBlock? Concrete.fieldSize Concrete.childAt?
    cases source.children.find? fun node => node.field == some "block" with
    | none => simp
    | some block =>
      have := block.statements_total_lt
      simp only [Option.filter_some, Option.map_some, Option.getD_some]
      split
      · rename_i found
        split at found <;> cases found
        omega
      · simp
  rw [Concrete.size_eq source, total_append, total_append]
  omega

/-- The plan of a call. -/
def callPlan (source : Concrete) : RubyPlan source :=
  match source.childAt? "method" with
  | none => childrenPlan source (fun _ => true) (otherNode source)
  | some method =>
    { parts := (source.childAt? "receiver").toList ++ callArguments source ++ blockStatements source
      assemble := fun pieces => .ok (assembleCall source method.text pieces)
      smaller := pieces_size_lt source }

end LetShadow.Ruby
