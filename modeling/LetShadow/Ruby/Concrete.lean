/-
**Concrete trees of Ruby files.**

A Ruby file is parsed by an outside parser, which lists the named nodes of its concrete tree. A node
has the type that the grammar gives it, the field under which it hangs in its parent, if any, and
its text.

* `Concrete` — a node with the nodes below it.
* `Concrete.childAt?` — the first child under a field.
* `Concrete.ofListing?` — **the tree that a parser lists** in pre-order, each node with the number
  of its children and the range of its bytes in the source. Bytes of a range that are no characters
  are dropped.
-/

import LetShadow.Syntax.Node
import LetShadow.Text.Utf8
import LetShadow.Total

namespace LetShadow.Ruby

/-- A named node of a concrete tree: its type, the field under which it hangs in its parent, its
text, which is made when it is asked for, the place where it begins, and its named children. -/
structure Concrete where
  type : String
  field : Option String
  source : Thunk String
  location : Location
  children : List Concrete

namespace Concrete

/-- The text of a node. -/
def text (node : Concrete) : String :=
  node.source.get

/-- The first child under a field. -/
def childAt? (node : Concrete) (field : String) : Option Concrete :=
  node.children.find? fun child => child.field == some field

/-! ### Size -/

mutual

/-- The number of nodes of a tree. -/
def size : Concrete → Nat
  | ⟨_, _, _, _, children⟩ => 1 + forestSize children

/-- The number of nodes of several trees. -/
def forestSize : List Concrete → Nat
  | [] => 0
  | node :: rest => node.size + forestSize rest

end

theorem size_eq (node : Concrete) : node.size = 1 + forestSize node.children := by
  cases node; simp [size]

theorem size_pos (node : Concrete) : 0 < node.size := by
  rw [size_eq]
  exact Nat.lt_of_lt_of_le Nat.zero_lt_one (Nat.le_add_right 1 _)

theorem forestSize_eq (nodes : List Concrete) : forestSize nodes = total size nodes := by
  induction nodes with
  | nil => rfl
  | cons node rest ih => simp [forestSize, ih]

/-- Nodes chosen among some nodes are together no larger. -/
theorem filter_size_le (choose : Concrete → Bool) (nodes : List Concrete) :
    total size (nodes.filter choose) ≤ forestSize nodes := by
  induction nodes with
  | nil => simp [forestSize]
  | cons node rest ih =>
    rw [forestSize, List.filter_cons]
    split
    · rw [total_cons]; omega
    · omega

/-- Nodes chosen among the children are together smaller than the parent. -/
theorem filter_size_lt (choose : Concrete → Bool) (node : Concrete) :
    total size (node.children.filter choose) < node.size := by
  have := filter_size_le choose node.children
  rw [size_eq node]
  omega

/-- The size of the first node under a field, if any. -/
def fieldSize (nodes : List Concrete) (field : String) : Nat :=
  ((nodes.find? fun node => node.field == some field).map size).getD 0

theorem fieldSize_cons_le (node : Concrete) (rest : List Concrete) (field : String) :
    fieldSize (node :: rest) field ≤
      (if node.field = some field then node.size else 0) + fieldSize rest field := by
  by_cases isAt : node.field = some field
  · simp [fieldSize, isAt]
  · simp [fieldSize, isAt]

/-- The first nodes under three different fields are together no larger than all of the nodes. -/
theorem fields_size_le {first second third : String} (firstSecond : first ≠ second)
    (firstThird : first ≠ third) (secondThird : second ≠ third) (nodes : List Concrete) :
    fieldSize nodes first + fieldSize nodes second + fieldSize nodes third ≤ forestSize nodes := by
  induction nodes with
  | nil => simp [fieldSize]
  | cons node rest ih =>
    have atFirst := fieldSize_cons_le node rest first
    have atSecond := fieldSize_cons_le node rest second
    have atThird := fieldSize_cons_le node rest third
    rw [forestSize]
    by_cases isFirst : node.field = some first
    · simp only [isFirst, Option.some.injEq, firstSecond, firstThird, if_true, if_false] at *
      omega
    · by_cases isSecond : node.field = some second
      · simp only [isSecond, Option.some.injEq, firstSecond.symm, secondThird, if_true,
          if_false] at *
        omega
      · simp only [isFirst, isSecond, if_false] at *
        split at atThird <;> omega

/-- A node is no larger than the nodes that it is among. -/
theorem size_le_forestSize {node : Concrete} {nodes : List Concrete} (member : node ∈ nodes) :
    node.size ≤ forestSize nodes := by
  induction nodes with
  | nil => cases member
  | cons first rest ih =>
    rw [forestSize]
    cases member with
    | head => omega
    | tail _ member => have := ih member; omega

/-- A child is smaller than its parent. -/
theorem childAt?_size_lt {node child : Concrete} {field : String}
    (found : node.childAt? field = some child) : child.size < node.size := by
  have := size_le_forestSize (List.mem_of_find?_eq_some found)
  rw [size_eq node]
  omega

/-! ### Listings -/

/-- A node as a parser lists it: places count from zero, and `start` and `stop` are byte offsets. -/
structure Entry where
  type : String
  field : Option String
  start : Nat
  stop : Nat
  row : Int
  column : Int
  childCount : Nat
deriving Repr

/-- The text of a range of a source. -/
def textOf (source : ByteArray) (start stop : Nat) : String :=
  String.ofList (Text.Utf8.decodeLoosely (source.extract start stop).toList)

/-- Puts a node on top of its children, which are the first trees of the stack. -/
def attach (source : ByteArray) (stack : List Concrete) (entry : Entry) : Option (List Concrete) :=
  let children := stack.take entry.childCount
  if children.length < entry.childCount then none
  else
    let node : Concrete :=
      { type := entry.type
        field := entry.field
        source := Thunk.mk fun _ => textOf source entry.start entry.stop
        location := ⟨entry.row + 1, entry.column⟩
        children }
    some (node :: stack.drop entry.childCount)

/-- The tree of a listing in pre-order. -/
def ofListing? (source : ByteArray) (entries : List Entry) : Option Concrete :=
  match entries.reverse.foldlM (attach source) [] with
  | some [root] => some root
  | _ => none

end Concrete

end LetShadow.Ruby
