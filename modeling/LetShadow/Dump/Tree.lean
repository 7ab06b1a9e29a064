/-
**Syntax trees from dumps.**

Each form has the shape that its kind asks for; the first form in pre-order that has not is
reported. A dump carries no places, so the nodes of its tree have none. Only the elements that are
nodes are looked into, and a block's parameters never are.

* `Defect` — how a form can be ill shaped, with its message.
* `plan` — **the shape of each kind** and the node that it becomes.
* `tree` — **the syntax tree of a form.**
-/

import LetShadow.Conversion.Machine
import LetShadow.Dump.Form
import LetShadow.Json.Shown
import LetShadow.Syntax.Node

namespace LetShadow.Dump

open LetShadow.Json

/-- How a form can be ill shaped. -/
inductive Defect where
  /-- A number of elements was expected, or at least that number, and fewer were found. -/
  | tooFew (expected : Nat) (orMore : Bool) (found : Nat)
  /-- A number of elements was expected and more were found. -/
  | tooMany (expected : Nat)
  /-- A block does not begin with a node. -/
  | noCall (kind : String)
  /-- A literal has no value. -/
  | noValue
deriving DecidableEq, Repr

/-- What a report says of a defect. -/
def Defect.message : Defect → String
  | .tooFew expected orMore found =>
    "not enough values to unpack (expected " ++ (if orMore then "at least " else "") ++
      toString expected ++ ", got " ++ toString found ++ ")"
  | .tooMany expected => "too many values to unpack (expected " ++ toString expected ++ ")"
  | .noCall kind => kind ++ " without a call"
  | .noValue => "list index out of range"

/-- The kinds of a call. -/
def callKinds : List String :=
  ["send", "csend"]

/-- The kinds of a call with a block. -/
def blockKinds : List String :=
  ["block", "numblock", "itblock"]

/-- The kinds of statements in a row. -/
def sequenceKinds : List String :=
  ["begin", "kwbegin"]

/-- A call without a receiver. -/
def bareCall (method : String) (arguments : List Node) : Node :=
  .call { method, arguments }

/-- A call whose receiver is the first of the nodes. -/
def receivedCall (method : String) (operands : List Node) : Node :=
  .call { method, arguments := operands.drop 1, receiver := operands.head? }

/-- A block from its call and its body. What begins with another node, such as a lambda, is not
interpreted. -/
def blockOf (kind : String) : List Node → Node
  | .call invocation :: body => .block invocation body.head? none
  | parts => .other kind parts none none

/-- The plan of a form. -/
abbrev FormPlan :=
  Plan Form.size Node Defect

/-- A plan without parts. -/
def leafPlan (form : Form) (node : Node) : FormPlan form where
  parts := []
  assemble _ := .ok node
  smaller := form.size_pos

/-- The nodes among some of the form's elements are together smaller than the form. -/
theorem forms_size_lt (form : Form) (values : List Value)
    (among : Value.listSize values ≤ Value.listSize form.elements) :
    total Form.size (forms values) < form.size := by
  have := forms_size_le values
  rw [Form.size]
  omega

/-- A plan whose parts are the nodes among some of the form's elements. -/
def partsPlan (form : Form) (values : List Value)
    (among : Value.listSize values ≤ Value.listSize form.elements)
    (assemble : List Node → Node) : FormPlan form where
  parts := forms values
  assemble parts := .ok (assemble parts)
  smaller := forms_size_lt form values among

/-- The plan of a call: a receiver or a plain value, a method name, and arguments. -/
def callPlan (form : Form) : Except Defect (FormPlan form) :=
  match shape : form.elements with
  | receiver :: method :: arguments =>
    match form? receiver with
    | none =>
      .ok (partsPlan form arguments (by simp [shape, Value.listSize]; omega)
        (bareCall method.shown))
    | some _ =>
      .ok (partsPlan form (receiver :: arguments) (by simp [shape, Value.listSize])
        (receivedCall method.shown))
  | elements => .error (.tooFew 2 true elements.length)

/-- The plan of a block: a node, parameters, and a body or a plain value. -/
def blockPlan (form : Form) : Except Defect (FormPlan form) :=
  match shape : form.elements with
  | [call, _, body] =>
    match form? call with
    | none => .error (.noCall form.kind)
    | some _ =>
      .ok (partsPlan form [call, body] (by simp [shape, Value.listSize]) (blockOf form.kind))
  | elements =>
    if elements.length < 3 then .error (.tooFew 3 false elements.length)
    else .error (.tooMany 3)

/-- The plan of a literal, or of a local variable: a value, whose shown form it carries. -/
def literalPlan (form : Form) (node : String → Node) : Except Defect (FormPlan form) :=
  match form.elements with
  | value :: _ => .ok (leafPlan form (node value.shown))
  | [] => .error .noValue

/-- The plan of a constant: a scope or a plain value, and a name. -/
def constantPlan (form : Form) : Except Defect (FormPlan form) :=
  match shape : form.elements with
  | [scope, name] =>
    .ok (partsPlan form [scope] (by simp [shape, Value.listSize]) fun parts =>
      .other form.kind parts (some name.shown) none)
  | elements =>
    if elements.length < 2 then .error (.tooFew 2 false elements.length)
    else .error (.tooMany 2)

/-- The plan of a form, by its kind. -/
def plan (form : Form) : Except Defect (FormPlan form) :=
  if callKinds.contains form.kind then callPlan form
  else if blockKinds.contains form.kind then blockPlan form
  else if sequenceKinds.contains form.kind then
    .ok (partsPlan form form.elements (Nat.le_refl _) fun parts => .sequence parts none)
  else if form.kind = "sym" then literalPlan form fun value => .symbol value none
  else if form.kind = "str" then literalPlan form fun value => .string value none
  else if form.kind = "lvar" then literalPlan form fun name => .localVariable name none
  else if form.kind = "const" then constantPlan form
  else
    .ok (partsPlan form form.elements (Nat.le_refl _) fun parts =>
      .other form.kind parts none none)

/-- Plans forms without keeping any state. -/
def planner : Conversion.Planner Form.size Node Defect Unit := fun form state => do
  return (← plan form, state)

/-- The syntax tree of a form. -/
def tree (form : Form) : Except Defect Node :=
  (Conversion.build planner form ()).map Prod.fst

end LetShadow.Dump
