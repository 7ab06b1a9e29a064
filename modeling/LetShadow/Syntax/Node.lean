/-
**Syntax trees of spec files.**

A tree is a `Node`: a call, a call with a block, a sequence of statements, a literal, the reading of
a local variable, or a node of any other kind. A block holds its call as a `Call`, so that no block
without a call can be written down.

* `Node.children` — **the children of a node**, in source order.
* `Node.size_eq` — **a node is itself and its children:** the size is one more than theirs.
* `Node.preorder_eq` — **pre-order:** a node stands before its children, which stand side by side.
* `Node.length_preorder` — the pre-order list holds every node once.
-/

namespace LetShadow

/-- A place in a source file: lines count from one, columns from zero. -/
structure Location where
  line : Int
  column : Int
deriving DecidableEq, Repr

/-- A method invocation such as `let(:foo)`, over the nodes that are its operands. -/
structure Call (Operand : Type) where
  method : String
  arguments : List Operand := []
  receiver : Option Operand := none
  location : Option Location := none
deriving Repr

/-- A node of a syntax tree, with the place where it begins if the source has places. -/
inductive Node where
  /-- A method invocation. -/
  | call (call : Call Node)
  /-- A method invocation with an attached block, whose body may be empty. -/
  | block (call : Call Node) (body : Option Node) (location : Option Location)
  /-- Statements in a row: a block's body, a `begin`, parentheses. -/
  | sequence (statements : List Node) (location : Option Location)
  /-- A symbol literal, by its decoded value. -/
  | symbol (value : String) (location : Option Location)
  /-- A string literal, by its decoded value. -/
  | string (value : String) (location : Option Location)
  /-- The reading of a local variable. -/
  | localVariable (name : String) (location : Option Location)
  /-- Any other node; `kind` names it and `text` is a short payload such as a constant's name. -/
  | other (kind : String) (children : List Node) (text : Option String)
      (location : Option Location)
deriving Repr, Inhabited

/-- The kinds of node that a visitor can tell apart. -/
inductive Kind where
  | call
  | block
  | sequence
  | symbol
  | string
  | localVariable
  | other
deriving DecidableEq, Repr

/-- The name of a kind, as reports and the registration of handlers spell it. -/
def Kind.title : Kind → String
  | .call => "Call"
  | .block => "Block"
  | .sequence => "Sequence"
  | .symbol => "SymbolLiteral"
  | .string => "StringLiteral"
  | .localVariable => "LocalVariableReference"
  | .other => "Other"

namespace Node

/-- The kind of a node. -/
def kind : Node → Kind
  | .call _ => .call
  | .block .. => .block
  | .sequence .. => .sequence
  | .symbol .. => .symbol
  | .string .. => .string
  | .localVariable .. => .localVariable
  | .other .. => .other

/-- Where a node begins in its source. -/
def location : Node → Option Location
  | .call invocation => invocation.location
  | .block _ _ location => location
  | .sequence _ location => location
  | .symbol _ location => location
  | .string _ location => location
  | .localVariable _ location => location
  | .other _ _ _ location => location

/-- The direct children of a node in source order. -/
def children : Node → List Node
  | .call invocation => invocation.receiver.toList ++ invocation.arguments
  | .block invocation body _ => .call invocation :: body.toList
  | .sequence statements _ => statements
  | .other _ children _ _ => children
  | .symbol .. | .string .. | .localVariable .. => []

/-! ### Size -/

mutual

/-- The number of nodes of a tree. -/
def size : Node → Nat
  | .call invocation => callSize invocation
  | .block invocation none _ => 1 + callSize invocation
  | .block invocation (some body) _ => 1 + callSize invocation + body.size
  | .sequence statements _ => 1 + forestSize statements
  | .other _ children _ _ => 1 + forestSize children
  | .symbol .. | .string .. | .localVariable .. => 1

/-- The number of nodes of a call, itself included. -/
def callSize : Call Node → Nat
  | ⟨_, arguments, none, _⟩ => 1 + forestSize arguments
  | ⟨_, arguments, some receiver, _⟩ => 1 + receiver.size + forestSize arguments

/-- The number of nodes of several trees. -/
def forestSize : List Node → Nat
  | [] => 0
  | node :: rest => node.size + forestSize rest

end

@[simp]
theorem forestSize_append (first second : List Node) :
    forestSize (first ++ second) = forestSize first + forestSize second := by
  induction first with
  | nil => simp [forestSize]
  | cons node rest ih => simp [forestSize, ih, Nat.add_assoc]

/-- The size of a tree is one more than that of its children. -/
theorem size_eq (node : Node) : node.size = 1 + forestSize node.children := by
  cases node with
  | call invocation => obtain ⟨_, _, _ | _, _⟩ := invocation <;>
      simp [size, callSize, children, forestSize, Nat.add_assoc]
  | block invocation body _ =>
    obtain ⟨_, _, _ | _, _⟩ := invocation <;> cases body <;>
      simp [size, callSize, children, forestSize, Nat.add_assoc]
  | _ => simp [size, children, forestSize]

theorem size_pos (node : Node) : 0 < node.size := by
  rw [size_eq]; omega

/-! ### Pre-order -/

mutual

/-- The nodes of a tree in pre-order, in front of `rest`. -/
def preorderOnto : Node → List Node → List Node
  | .call invocation, rest => .call invocation :: callPreorderOnto invocation rest
  | .block invocation none location, rest =>
    .block invocation none location :: .call invocation :: callPreorderOnto invocation rest
  | .block invocation (some body) location, rest =>
    .block invocation (some body) location :: .call invocation ::
      callPreorderOnto invocation (body.preorderOnto rest)
  | .sequence statements location, rest =>
    .sequence statements location :: forestPreorderOnto statements rest
  | .other kind children text location, rest =>
    .other kind children text location :: forestPreorderOnto children rest
  | .symbol value location, rest => .symbol value location :: rest
  | .string value location, rest => .string value location :: rest
  | .localVariable name location, rest => .localVariable name location :: rest

/-- The nodes below a call in pre-order, in front of `rest`. -/
def callPreorderOnto : Call Node → List Node → List Node
  | ⟨_, arguments, none, _⟩, rest => forestPreorderOnto arguments rest
  | ⟨_, arguments, some receiver, _⟩, rest =>
    receiver.preorderOnto (forestPreorderOnto arguments rest)

/-- The nodes of several trees in pre-order, in front of `rest`. -/
def forestPreorderOnto : List Node → List Node → List Node
  | [], rest => rest
  | node :: nodes, rest => node.preorderOnto (forestPreorderOnto nodes rest)

end

/-- The nodes of a tree, parents before children and siblings in source order. -/
def preorder (node : Node) : List Node :=
  node.preorderOnto []

@[simp]
theorem forestPreorderOnto_append (first second rest : List Node) :
    forestPreorderOnto (first ++ second) rest =
      forestPreorderOnto first (forestPreorderOnto second rest) := by
  induction first with
  | nil => simp [forestPreorderOnto]
  | cons node nodes ih => simp [forestPreorderOnto, ih]

/-- A node stands in front of its children. -/
theorem preorderOnto_eq (node : Node) (rest : List Node) :
    node.preorderOnto rest = node :: forestPreorderOnto node.children rest := by
  cases node with
  | call invocation => obtain ⟨_, _, _ | _, _⟩ := invocation <;>
      simp [preorderOnto, callPreorderOnto, children, forestPreorderOnto]
  | block invocation body _ =>
    obtain ⟨_, _, _ | _, _⟩ := invocation <;> cases body <;>
      simp [preorderOnto, callPreorderOnto, children, forestPreorderOnto]
  | _ => simp [preorderOnto, children, forestPreorderOnto]

/-! ### Induction along the children -/

theorem size_le_forestSize {node : Node} {nodes : List Node} (mem : node ∈ nodes) :
    node.size ≤ forestSize nodes := by
  induction nodes with
  | nil => cases mem
  | cons first rest ih =>
    rcases List.mem_cons.1 mem with rfl | mem
    · simp [forestSize]
    · simpa [forestSize] using Nat.le_add_left_of_le (ih mem)

/-- A child is smaller than its parent. -/
theorem size_lt_of_mem_children {child node : Node} (mem : child ∈ node.children) :
    child.size < node.size := by
  have le := size_le_forestSize mem
  rw [size_eq node]; omega

/-- What passes from the children of every node to the node holds of all nodes. -/
theorem children_induction {motive : Node → Prop}
    (step : ∀ node, (∀ child ∈ node.children, motive child) → motive node) (node : Node) :
    motive node :=
  step node fun child mem => by
    have := size_lt_of_mem_children mem
    exact children_induction step child
termination_by node.size

theorem forestPreorderOnto_eq (nodes rest : List Node) :
    forestPreorderOnto nodes rest = nodes.flatMap preorder ++ rest := by
  have single : ∀ node : Node, ∀ rest, node.preorderOnto rest = node.preorder ++ rest := by
    intro node
    induction node using children_induction with
    | step node ih =>
      have forest : ∀ nodes : List Node, (∀ child ∈ nodes, ∀ rest : List Node,
          child.preorderOnto rest = child.preorder ++ rest) →
          ∀ rest, forestPreorderOnto nodes rest = nodes.flatMap preorder ++ rest := by
        intro nodes each
        induction nodes with
        | nil => intro rest; simp [forestPreorderOnto]
        | cons first others others_ih =>
          intro rest
          rw [forestPreorderOnto, each first (by simp),
            others_ih fun child mem => each child (by simp [mem])]
          simp
      intro rest
      rw [preorderOnto_eq, preorder, preorderOnto_eq, forest _ ih, forest _ ih]
      simp
  induction nodes generalizing rest with
  | nil => simp [forestPreorderOnto]
  | cons first others ih => simp [forestPreorderOnto, ih, single]

/-- A tree in pre-order is its root, then its children's trees in pre-order. -/
theorem preorder_eq (node : Node) :
    node.preorder = node :: node.children.flatMap preorder := by
  rw [preorder, preorderOnto_eq, forestPreorderOnto_eq, List.append_nil]

/-- The pre-order list holds as many nodes as the tree. -/
@[simp]
theorem length_preorder (node : Node) : node.preorder.length = node.size := by
  induction node using children_induction with
  | step node ih =>
    have forest : ∀ nodes : List Node, (∀ child ∈ nodes, child.preorder.length = child.size) →
        (nodes.flatMap preorder).length = forestSize nodes := by
      intro nodes each
      induction nodes with
      | nil => simp [forestSize]
      | cons first others others_ih =>
        simp [forestSize, each first (by simp),
          ← others_ih fun child mem => each child (by simp [mem])]
    rw [preorder_eq, size_eq, List.length_cons, forest _ ih, Nat.add_comm]

end Node

end LetShadow
