/-
**Syntax trees from Ruby.**

The concrete tree of a file is folded into calls with their receivers, arguments and blocks,
statements in a row, literals and readings of local variables. Anything else keeps its grammar type
as its kind. A constant holds its scope as a child; a child of kind `cbase` stands for the top
level.

The grammar does not tell the reading of a local variable from a call without receiver and
arguments. A bare name reads a local variable if the same name has been bound before it in the file:
by an assignment, or as a block parameter.

* `boundBy` — the names that a node binds.
* `plan` — **what each grammar type becomes,** given the names bound so far.
* `tree` — **the syntax tree of a concrete tree.**
-/

import LetShadow.Ruby.Call
import LetShadow.Ruby.Literal

namespace LetShadow.Ruby

/-! ### Names -/

/-- The names bound so far. -/
abbrev Names :=
  List String

/-- The types of a call. -/
def callTypes : List String :=
  ["call", "method_call"]

/-- The types of an assignment to a name. -/
def assignmentTypes : List String :=
  ["assignment", "operator_assignment"]

/-- The names that a node binds: the name it assigns, or the parameters of the block of a call. -/
def boundBy (source : Concrete) : Names :=
  if assignmentTypes.contains source.type then
    ((source.childAt? "left").filter isIdentifier).toList.map Concrete.text
  else if callTypes.contains source.type ∧ (source.childAt? "method").isSome then
    ((attachedBlock? source).map blockParameters).getD []
  else []

/-- A bare name: a local variable if it has been bound, else a call. -/
def nameNode (source : Concrete) (bound : Names) : Node :=
  if bound.contains source.text then .localVariable source.text (some source.location)
  else .call { method := source.text, location := some source.location }

/-! ### Constants -/

/-- A constant with the nodes that it holds. -/
def constantNode (source : Concrete) (name : String) (scope : List Node) : Node :=
  .other "const" scope (some name) (some source.location)

/-- The top level, as the scope of a constant. -/
def topLevel (source : Concrete) : Node :=
  .other "cbase" [] none (some source.location)

/-- The plan of a constant in a scope, or at the top level. -/
def scopedConstantPlan (source : Concrete) : RubyPlan source :=
  let name := ((source.childAt? "name").getD source).text
  match found : source.childAt? "scope" with
  | none => leafPlan source (constantNode source name [topLevel source])
  | some scope =>
    { parts := [scope]
      assemble := fun parts => .ok (constantNode source name parts)
      smaller := by simpa using Concrete.childAt?_size_lt found }

/-! ### Literals -/

/-- The types of a literal between quotes. -/
def quotedTypes : List String :=
  ["delimited_symbol", "string"]

/-- A literal with a known value. -/
def literalNode (source : Concrete) (value : String) : Node :=
  if source.type = "delimited_symbol" then .symbol value (some source.location)
  else .string value (some source.location)

/-- A literal with an interpolation. -/
def interpolatedNode (source : Concrete) (parts : List Node) : Node :=
  .other (if source.type = "delimited_symbol" then "dsym" else "dstr") parts none
    (some source.location)

/-- The plan of a literal between quotes. -/
def quotedPlan (source : Concrete) : Except OversizedCodePoint (RubyPlan source) := do
  let parts := source.children.filter fun node => !isComment node
  if parts.all fun part => partTypes.contains part.type then
    let value ← literalValue (isSingleQuoted source.text.toList) parts
    return leafPlan source (literalNode source value)
  else
    return childrenPlan source (fun node => !isComment node) (interpolatedNode source)

/-! ### Trees -/

/-- The types of statements in a row. -/
def sequenceTypes : List String :=
  ["program", "parenthesized_statements", "begin"]

/-- The plan of a node, given the names bound so far. -/
def plan (source : Concrete) (bound : Names) : Except OversizedCodePoint (RubyPlan source) :=
  if callTypes.contains source.type then .ok (callPlan source)
  else if sequenceTypes.contains source.type then .ok (sequencePlan source)
  else if source.type = "identifier" then .ok (leafPlan source (nameNode source bound))
  else if source.type = "simple_symbol" then
    let name := String.ofList (dropColon source.text.toList)
    .ok (leafPlan source (.symbol name (some source.location)))
  else if quotedTypes.contains source.type then quotedPlan source
  else if source.type = "constant" then .ok (leafPlan source (constantNode source source.text []))
  else if source.type = "scope_resolution" then .ok (scopedConstantPlan source)
  else .ok (childrenPlan source (fun node => !node.isSkipped) (otherNode source))

/-- Plans nodes in sight of the names bound before them; a node's own names are bound for its parts.
-/
def planner : Conversion.Planner Concrete.size Node OversizedCodePoint Names :=
  fun source bound => do
    let bound := boundBy source ++ bound
    return (← plan source bound, bound)

/-- The syntax tree of a concrete tree. -/
def tree (source : Concrete) : Except OversizedCodePoint Node :=
  (Conversion.build planner source []).map Prod.fst

end LetShadow.Ruby
