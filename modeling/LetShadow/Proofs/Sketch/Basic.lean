/-
**The sketch of a tree: what a check depends on.**

A check does not care where in a tree its groups and declarations stand, only how they are nested.
The sketch keeps just that. Instead of its place a node has a mark, which tells how many nodes of a
chosen sort stand in front of it; so two trees that differ in other nodes can have the same sketch.

* `Marking` — which nodes count, and what the mark of a node shows.
* `Node.sketch` — **the groups of a tree in pre-order,** each with the names that are declared around
  it and with an `Entry` for each of its direct declarations. A declaration whose name only running
  the code would tell has no entry.
* `Similar` — two nodes that make no difference to what stands around them. **Similar nodes in the
  place of each other make similar nodes** (`SimilarCalls.similar`, `similar_row`, `similar_plain`).
* `Node.sketch_union` — names declared outside a tree are declared around each of its groups, and
  change nothing else.
-/

import Mathlib.Data.Set.Basic
import LetShadow.Proofs.Group.Direct
import LetShadow.Total

namespace LetShadow

/-- Which nodes count, and the mark of a node behind so many of them. -/
structure Marking (Mark : Type) where
  counts : Node → Bool
  mark : Nat → Node → Mark

/-- A declaration in a sketch: its mark, and its name or the mark of the node that was rejected. -/
structure Entry (Mark : Type) where
  mark : Mark
  name : Except Mark String

/-- The entry of a declaration, from its mark and from what its name is found to be. -/
def Entry.of? {Mark : Type} (mark : Mark) : Except Mark Name → Option (Entry Mark)
  | .ok (.known name) => some ⟨mark, .ok name⟩
  | .ok .indeterminate => none
  | .error rejected => some ⟨mark, .error rejected⟩

/-- A group in a sketch: the names declared around it, and its direct declarations. -/
structure GroupSketch (Mark : Type) where
  around : Set String
  entries : List (Entry Mark)

/-- The names that declarations are known to have. -/
def knownNames {Mark : Type} (entries : List (Entry Mark)) : Set String :=
  {name | ∃ entry ∈ entries, entry.name = .ok name}

variable {Mark : Type} (marking : Marking Mark)

/-! ### Counting -/

namespace Marking

/-- What a node itself adds to the count. -/
def own (node : Node) : Nat :=
  if marking.counts node then 1 else 0

/-- The number of nodes of a tree that count. -/
def weight (node : Node) : Nat :=
  node.preorder.countP marking.counts

theorem countP_preorders (nodes : List Node) :
    (nodes.flatMap Node.preorder).countP marking.counts = total marking.weight nodes := by
  induction nodes with
  | nil => rfl
  | cons node rest ih => rw [List.flatMap_cons, List.countP_append, ih, total_cons, weight]

/-- A tree weighs what its root and its children weigh. -/
theorem weight_eq (node : Node) :
    marking.weight node = marking.own node + total marking.weight node.children := by
  rw [weight, Node.preorder_eq, List.countP_cons, countP_preorders, own, Nat.add_comm]

end Marking

/-! ### Names, declarations and groups -/

namespace Node

/-- The name that a node gives, behind `before` nodes that count. -/
def named : Nat → Node → Except Mark Name
  | _, .call ⟨_, [], _, _⟩ => .ok .indeterminate
  | before, .call ⟨method, first :: rest, receiver, place⟩ =>
    if letMethods.contains method then
      first.named (before + marking.own (.call ⟨method, first :: rest, receiver, place⟩) +
        total marking.weight receiver.toList)
    else .ok .indeterminate
  | _, .block ⟨_, [], _, _⟩ _ _ => .ok .indeterminate
  | before, .block ⟨method, first :: rest, receiver, place⟩ body location =>
    if letMethods.contains method then
      first.named (before + marking.own (.block ⟨method, first :: rest, receiver, place⟩ body location) +
        marking.own (.call ⟨method, first :: rest, receiver, place⟩) +
        total marking.weight receiver.toList)
    else .ok .indeterminate
  | before, .sequence [] location => .error (marking.mark before (.sequence [] location))
  | before, .sequence (first :: rest) location =>
    first.named (before + marking.own (.sequence (first :: rest) location))
  | _, .localVariable _ _ => .ok .indeterminate
  | _, .symbol value _ => .ok (.known value)
  | _, .string value _ => .ok (.known value)
  | before, .other kind children text location =>
    .error (marking.mark before (.other kind children text location))

/-- The entry of a declaration behind `before` nodes that count. -/
def ownEntry (before : Nat) (node : Node) : Option (Entry Mark) :=
  Entry.of? (marking.mark before node) (node.named marking before)

mutual

/-- The declarations that a node makes as a statement. -/
def made (before : Nat) : Node → List (Entry Mark)
  | .sequence statements location =>
    forestMade (before + marking.own (.sequence statements location)) statements
  | .call invocation =>
    if invocation.declaresLet then (ownEntry marking before (.call invocation)).toList else []
  | .block invocation body location =>
    if invocation.declaresLet then (ownEntry marking before (.block invocation body location)).toList
    else []
  | .symbol .. => []
  | .string .. => []
  | .localVariable .. => []
  | .other .. => []

/-- The declarations made by statements side by side. -/
def forestMade (before : Nat) : List Node → List (Entry Mark)
  | [] => []
  | node :: rest => node.made before ++ forestMade (before + marking.weight node) rest

end

/-- The declarations made directly in a block. -/
def madeInside (before : Nat) : Node → List (Entry Mark)
  | .block invocation (some body) location =>
    body.made marking (before + marking.own (.block invocation (some body) location) +
      marking.weight (.call invocation))
  | _ => []

mutual

/-- The groups of a tree behind `before` nodes that count, with the names `around` declared outside
of it. -/
def sketch (around : Set String) (before : Nat) (node : Node) : List (GroupSketch Mark) :=
  let inside := before + marking.own node
  if node.isGroup then
    ⟨around, node.madeInside marking before⟩ ::
      forestSketch (around ∪ knownNames (node.madeInside marking before)) inside node.children
  else forestSketch around inside node.children
termination_by 2 * node.size
decreasing_by
  all_goals
    rw [size_eq node]
    omega

/-- The groups of trees side by side. -/
def forestSketch (around : Set String) (before : Nat) (nodes : List Node) :
    List (GroupSketch Mark) :=
  match nodes with
  | [] => []
  | node :: rest =>
    node.sketch around before ++ forestSketch around (before + marking.weight node) rest
termination_by 2 * forestSize nodes + 1
decreasing_by
  all_goals
    have := node.size_pos
    rw [forestSize]
    omega

end

theorem sketch_eq (around : Set String) (before : Nat) (node : Node) :
    node.sketch marking around before =
      if node.isGroup then
        ⟨around, node.madeInside marking before⟩ ::
          forestSketch marking (around ∪ knownNames (node.madeInside marking before))
            (before + marking.own node) node.children
      else forestSketch marking around (before + marking.own node) node.children := by
  rw [sketch]

@[simp]
theorem forestSketch_nil (around : Set String) (before : Nat) :
    forestSketch marking around before [] = [] := by
  rw [forestSketch]

@[simp]
theorem forestSketch_cons (around : Set String) (before : Nat) (node : Node) (rest : List Node) :
    forestSketch marking around before (node :: rest) =
      node.sketch marking around before ++
        forestSketch marking around (before + marking.weight node) rest := by
  rw [forestSketch]

theorem forestSketch_append (around : Set String) (before : Nat) (first second : List Node) :
    forestSketch marking around before (first ++ second) =
      forestSketch marking around before first ++
        forestSketch marking around (before + total marking.weight first) second := by
  induction first generalizing before with
  | nil => simp
  | cons node rest ih => simp [ih, Nat.add_assoc]

theorem forestMade_append (before : Nat) (first second : List Node) :
    forestMade marking before (first ++ second) =
      forestMade marking before first ++
        forestMade marking (before + total marking.weight first) second := by
  induction first generalizing before with
  | nil => simp [forestMade]
  | cons node rest ih => simp [forestMade, ih, Nat.add_assoc]

/-- A node that is no row of statements makes at most itself. -/
theorem made_eq (before : Nat) (node : Node) (single : node.kind ≠ .sequence) :
    node.made marking before = if node.isLet then (node.ownEntry marking before).toList else [] := by
  cases node with
  | sequence => exact absurd rfl single
  | _ => rfl

/-- A block gives the name that its call gives. -/
theorem named_block (before : Nat) (invocation : Call Node) (body : Option Node)
    (location : Option Location) :
    (block invocation body location).named marking before =
      (call invocation).named marking (before + marking.own (block invocation body location)) := by
  obtain ⟨_, arguments, _, _⟩ := invocation
  cases arguments <;> rfl

end Node

/-! ### Names declared outside -/

/-- A group with more names declared around it. -/
def GroupSketch.within (outer : Set String) (group : GroupSketch Mark) : GroupSketch Mark :=
  { group with around := outer ∪ group.around }

theorem Node.forestSketch_union (outer : Set String) (nodes : List Node)
    (each : ∀ node ∈ nodes, ∀ around before,
      node.sketch marking (outer ∪ around) before =
        (node.sketch marking around before).map (·.within outer))
    (around : Set String) (before : Nat) :
    Node.forestSketch marking (outer ∪ around) before nodes =
      (Node.forestSketch marking around before nodes).map (·.within outer) := by
  induction nodes generalizing before with
  | nil => simp
  | cons node rest ih =>
    have later := ih fun other mem => each other (List.mem_cons_of_mem _ mem)
    rw [forestSketch_cons, forestSketch_cons, List.map_append, later,
      each node List.mem_cons_self]

/-- **Names declared outside a tree are declared around each of its groups.** -/
theorem Node.sketch_union (outer : Set String) (node : Node) (around : Set String) (before : Nat) :
    node.sketch marking (outer ∪ around) before =
      (node.sketch marking around before).map (·.within outer) := by
  induction node using Node.children_induction generalizing around before with
  | step node ih =>
    rw [sketch_eq, sketch_eq]
    by_cases group : node.isGroup = true
    · rw [if_pos group, if_pos group, Set.union_assoc, forestSketch_union marking outer _ ih,
        List.map_cons, GroupSketch.within]
    · rw [if_neg group, if_neg group, forestSketch_union marking outer _ ih]

/-! ### Nodes that make no difference -/

/-- Two nodes that count alike and have the same mark. -/
structure SameFace (first second : Node) : Prop where
  counts : marking.counts first = marking.counts second
  mark : ∀ before, marking.mark before first = marking.mark before second

/-- For what is counted and for the groups inside of them, two nodes make no difference. -/
structure SimilarInside (first second : Node) : Prop where
  weight : marking.weight first = marking.weight second
  sketch : ∀ around before,
    first.sketch marking around before = second.sketch marking around before

/-- Nor do they as statements. -/
structure SimilarStatements (first second : Node) : Prop
    extends SimilarInside marking first second where
  made : ∀ before, first.made marking before = second.made marking before

/-- Nor do they as names. -/
structure Similar (first second : Node) : Prop extends SimilarStatements marking first second where
  named : ∀ before, first.named marking before = second.named marking before

/-- For what is counted and for the groups inside of them, trees side by side make no difference. -/
structure SimilarForests (firsts seconds : List Node) : Prop where
  weight : total marking.weight firsts = total marking.weight seconds
  sketch : ∀ around before, Node.forestSketch marking around before firsts =
    Node.forestSketch marking around before seconds

variable {marking} {first second : Node} {firsts seconds : List Node}

theorem Similar.refl (node : Node) : Similar marking node node :=
  ⟨⟨⟨rfl, fun _ _ => rfl⟩, fun _ => rfl⟩, fun _ => rfl⟩

theorem Similar.trans {third : Node} (left : Similar marking first second)
    (right : Similar marking second third) : Similar marking first third where
  weight := left.weight.trans right.weight
  sketch around before := (left.sketch around before).trans (right.sketch around before)
  made before := (left.made before).trans (right.made before)
  named before := (left.named before).trans (right.named before)

theorem Similar.forall₂_refl (nodes : List Node) :
    List.Forall₂ (Similar marking) nodes nodes :=
  List.forall₂_same.mpr fun node _ => .refl node

theorem Similar.statements (similar : List.Forall₂ (Similar marking) firsts seconds) :
    List.Forall₂ (SimilarStatements marking) firsts seconds :=
  similar.imp fun _ _ here => here.toSimilarStatements

/-! ### Similar forests -/

namespace SimilarForests

theorem nil : SimilarForests marking [] [] :=
  ⟨rfl, fun _ _ => rfl⟩

theorem append {firstRest secondRest : List Node} (start : SimilarForests marking firsts seconds)
    (rest : SimilarForests marking firstRest secondRest) :
    SimilarForests marking (firsts ++ firstRest) (seconds ++ secondRest) where
  weight := by rw [total_append, total_append, start.weight, rest.weight]
  sketch around before := by
    rw [Node.forestSketch_append, Node.forestSketch_append, start.sketch, start.weight, rest.sketch]

theorem single (similar : SimilarInside marking first second) :
    SimilarForests marking [first] [second] where
  weight := by rw [total_cons, total_cons, similar.weight]
  sketch around before := by
    rw [Node.forestSketch_cons, Node.forestSketch_cons, similar.sketch, similar.weight]

theorem symm (similar : SimilarForests marking firsts seconds) :
    SimilarForests marking seconds firsts :=
  ⟨similar.weight.symm, fun around before => (similar.sketch around before).symm⟩

theorem trans {thirds : List Node} (left : SimilarForests marking firsts seconds)
    (right : SimilarForests marking seconds thirds) : SimilarForests marking firsts thirds :=
  ⟨left.weight.trans right.weight, fun around before =>
    (left.sketch around before).trans (right.sketch around before)⟩

/-- A leaf that neither counts nor opens a group is as good as nothing. -/
theorem leaf {node : Node} (childless : node.children = []) (uncounted : marking.counts node = false)
    (noGroup : node.isGroup = false) : SimilarForests marking [node] [] where
  weight := by
    rw [total_cons, marking.weight_eq, childless, Marking.own, uncounted]
    rfl
  sketch around before := by
    rw [Node.forestSketch_cons, Node.sketch_eq, noGroup, childless, Node.forestSketch_nil,
      Node.forestSketch_nil]
    simp

/-- **Trees side by side that are similar one by one are similar.** -/
theorem of_statements (similar : List.Forall₂ (SimilarStatements marking) firsts seconds) :
    SimilarForests marking firsts seconds := by
  induction similar with
  | nil => exact nil
  | cons here _ ih => exact (single here.toSimilarInside).append ih

theorem of_similar (similar : List.Forall₂ (Similar marking) firsts seconds) :
    SimilarForests marking firsts seconds :=
  of_statements (Similar.statements similar)

end SimilarForests

theorem forestMade_congr (similar : List.Forall₂ (SimilarStatements marking) firsts seconds)
    (before : Nat) :
    Node.forestMade marking before firsts = Node.forestMade marking before seconds := by
  induction similar generalizing before with
  | nil => rfl
  | cons here _ ih => rw [Node.forestMade, Node.forestMade, here.made, here.weight, ih]

theorem SameFace.own (same : SameFace marking first second) :
    marking.own first = marking.own second := by
  rw [Marking.own, Marking.own, same.counts]

/-- **Nodes with the same face and similar children are similar inside,** if they agree on what they
declare as a group. -/
theorem SameFace.inside (face : SameFace marking first second)
    (children : SimilarForests marking first.children second.children)
    (group : first.isGroup = second.isGroup)
    (made : ∀ before, first.madeInside marking before = second.madeInside marking before) :
    SimilarInside marking first second where
  weight := by rw [marking.weight_eq, marking.weight_eq, face.own, children.weight]
  sketch around before := by
    rw [Node.sketch_eq, Node.sketch_eq, group, made, face.own]
    simp only [children.sketch]

/-! ### Receivers of groups -/

/-- The node is the root in which constants of the top level stand. -/
def Node.isTopLevel : Node → Bool
  | .other kind _ _ _ => kind == "cbase"
  | _ => false

/-- A constant that stands in such nodes is one of the top level. -/
def standsAtTop : List Node → Bool
  | [] => true
  | [scope] => scope.isTopLevel
  | _ => false

/-- A node that is not interpreted is the receiver of a group if it is the constant `RSpec` at the
top level. -/
theorem isGroupReceiver_other (kind : String) (children : List Node) (text : Option String)
    (place : Option Location) :
    isGroupReceiver (some (.other kind children text place)) =
      (kind == "const" && standsAtTop children && text == some "RSpec") := by
  unfold isGroupReceiver
  split
  · contradiction
  · rename_i same
    cases same
    rfl
  · rename_i same
    cases same
    rfl
  · rename_i bare under same
    cases same
    symm
    rw [Bool.eq_false_iff]
    intro top
    simp only [Bool.and_eq_true, beq_iff_eq] at top
    obtain ⟨⟨rfl, stands⟩, rfl⟩ := top
    match children with
    | [] => exact bare place rfl
    | [scope] =>
      cases scope with
      | other kind children text location =>
        obtain rfl := beq_iff_eq.mp stands
        exact under children text location place rfl
      | _ => cases stands
    | _ :: _ :: _ => cases stands
/-! ### Similar nodes of each kind -/

theorem isNone_eq_of_forall₂ {Item : Type} {related : Item → Item → Prop} {one other : Option Item}
    (both : List.Forall₂ related one.toList other.toList) : one.isNone = other.isNone := by
  cases one with
  | none =>
    cases other with
    | none => rfl
    | some _ => cases both
  | some _ =>
    cases other with
    | none => cases both
    | some _ => rfl

theorem isEmpty_eq_of_forall₂ {Item : Type} {related : Item → Item → Prop}
    {items others : List Item} (both : List.Forall₂ related items others) :
    items.isEmpty = others.isEmpty := by
  cases both <;> rfl

variable (marking) in
/-- Two calls that a check does not tell apart. -/
structure SimilarCalls (first second : Call Node) : Prop where
  face : SameFace marking (.call first) (.call second)
  method : first.method = second.method
  receiver : List.Forall₂ (Similar marking) first.receiver.toList second.receiver.toList
  groupReceiver : isGroupReceiver first.receiver = isGroupReceiver second.receiver
  arguments : List.Forall₂ (Similar marking) first.arguments second.arguments

namespace SimilarCalls

variable {first second : Call Node}

theorem children (similar : SimilarCalls marking first second) :
    SimilarForests marking (Node.call first).children (Node.call second).children :=
  .of_similar (List.rel_append similar.receiver similar.arguments)

theorem opensGroup (similar : SimilarCalls marking first second) :
    first.opensGroup = second.opensGroup := by
  rw [Call.opensGroup, Call.opensGroup, similar.method, similar.groupReceiver]

theorem declaresLet (similar : SimilarCalls marking first second) :
    first.declaresLet = second.declaresLet := by
  rw [Call.declaresLet, Call.declaresLet, similar.method, isNone_eq_of_forall₂ similar.receiver]

theorem named (similar : SimilarCalls marking first second) (before : Nat) :
    (Node.call first).named marking before = (Node.call second).named marking before := by
  have own := similar.face.own
  have receiver := (SimilarForests.of_similar similar.receiver).weight
  have arguments := similar.arguments
  have method := similar.method
  obtain ⟨_, firstArguments, _, _⟩ := first
  obtain ⟨_, secondArguments, _, _⟩ := second
  dsimp only at method receiver arguments
  subst method
  cases arguments with
  | nil => rfl
  | cons here _ =>
    rw [Node.named, Node.named, own, receiver, here.named]

/-- **Similar calls are similar nodes.** -/
theorem similar (similar : SimilarCalls marking first second) :
    Similar marking (.call first) (.call second) where
  toSimilarInside := similar.face.inside similar.children rfl fun _ => rfl
  made before := by
    rw [Node.made, Node.made, similar.declaresLet, Node.ownEntry, Node.ownEntry, similar.face.mark,
      similar.named]
  named := similar.named

/-- **Blocks of similar calls and bodies are similar.** A body is never asked for a name. -/
theorem similar_block (similar : SimilarCalls marking first second)
    {firstBody secondBody : Option Node} {firstPlace secondPlace : Option Location}
    (face : SameFace marking (.block first firstBody firstPlace)
      (.block second secondBody secondPlace))
    (body : List.Forall₂ (SimilarStatements marking) firstBody.toList secondBody.toList) :
    Similar marking (.block first firstBody firstPlace) (.block second secondBody secondPlace) where
  toSimilarInside := by
    refine face.inside ?_ similar.opensGroup fun before => ?_
    · exact (SimilarForests.single similar.similar.toSimilarInside).append
        (.of_statements body)
    · cases firstBody with
      | none =>
        cases secondBody with
        | none => rfl
        | some _ => cases body
      | some _ =>
        cases secondBody with
        | none => cases body
        | some _ =>
          obtain ⟨here, _⟩ := List.forall₂_cons.mp body
          rw [Node.madeInside, Node.madeInside, here.made, face.own, similar.similar.weight]
  made before := by
    rw [Node.made, Node.made, similar.declaresLet, Node.ownEntry, Node.ownEntry, face.mark,
      Node.named_block, Node.named_block, face.own, similar.named]
  named before := by
    rw [Node.named_block, Node.named_block, face.own, similar.named]

end SimilarCalls

/-- **Rows of similar statements are similar as statements.** -/
theorem similarStatements_row {firstPlace secondPlace : Option Location}
    (face : SameFace marking (.sequence firsts firstPlace) (.sequence seconds secondPlace))
    (statements : List.Forall₂ (SimilarStatements marking) firsts seconds) :
    SimilarStatements marking (.sequence firsts firstPlace) (.sequence seconds secondPlace) where
  toSimilarInside := face.inside (.of_statements statements) rfl fun _ => rfl
  made before := by rw [Node.made, Node.made, face.own, forestMade_congr statements]

/-- **Rows of similar nodes are similar.** -/
theorem similar_row {firstPlace secondPlace : Option Location}
    (face : SameFace marking (.sequence firsts firstPlace) (.sequence seconds secondPlace))
    (statements : List.Forall₂ (Similar marking) firsts seconds) :
    Similar marking (.sequence firsts firstPlace) (.sequence seconds secondPlace) where
  toSimilarStatements := similarStatements_row face (Similar.statements statements)
  named before := by
    cases statements with
    | nil => rw [Node.named, Node.named, face.mark]
    | cons here _ => rw [Node.named, Node.named, face.own, here.named]

/-- A node that is neither a row of statements nor a group, and that makes no declaration whose name
matters. -/
structure Node.IsPlain (marking : Marking Mark) (node : Node) : Prop where
  noGroup : node.isGroup = false
  nothing : ∀ before, node.made marking before = []

/-- A call without operands is plain: as a `let` it is a declaration, but one whose name only running
the code would tell. -/
theorem isPlain_bareCall (method : String) (place : Option Location) :
    (Node.call { method, location := place }).IsPlain marking where
  noGroup := rfl
  nothing before := by
    rw [Node.made]
    split <;> rfl

/-- **Plain nodes are similar if they give the same name and have similar children.** -/
theorem similar_plain (firstPlain : first.IsPlain marking) (secondPlain : second.IsPlain marking)
    (face : SameFace marking first second)
    (children : SimilarForests marking first.children second.children)
    (named : ∀ before, first.named marking before = second.named marking before) :
    Similar marking first second where
  weight := by rw [marking.weight_eq, marking.weight_eq, face.own, children.weight]
  sketch around before := by
    rw [Node.sketch_eq, Node.sketch_eq, firstPlain.noGroup, secondPlain.noGroup, face.own]
    exact children.sketch around _
  made before := by rw [firstPlain.nothing, secondPlain.nothing]
  named := named

/-- **Nodes that are not interpreted are similar if their children are.** -/
theorem similar_other {firstKind secondKind : String} {firstText secondText : Option String}
    {firstPlace secondPlace : Option Location}
    (face : SameFace marking (.other firstKind firsts firstText firstPlace)
      (.other secondKind seconds secondText secondPlace))
    (children : SimilarForests marking firsts seconds) :
    Similar marking (.other firstKind firsts firstText firstPlace)
      (.other secondKind seconds secondText secondPlace) :=
  similar_plain ⟨rfl, fun _ => rfl⟩ ⟨rfl, fun _ => rfl⟩ face children fun before => by
    rw [Node.named, Node.named, face.mark]

/-! ### Rows that do not count -/

variable (marking) in
/-- No row of statements counts. -/
def Marking.PassesRows : Prop :=
  ∀ statements place, marking.own (.sequence statements place) = 0

namespace Marking.PassesRows

variable (passes : marking.PassesRows)
include passes

/-- A row weighs what its statements weigh. -/
theorem weight_row (statements : List Node) (place : Option Location) :
    marking.weight (.sequence statements place) = total marking.weight statements := by
  rw [Marking.weight_eq, passes, Nat.zero_add, Node.children]

/-- A row makes the declarations of its statements. -/
theorem made_row (before : Nat) (statements : List Node) (place : Option Location) :
    (Node.sequence statements place).made marking before =
      Node.forestMade marking before statements := by
  rw [Node.made, passes, Nat.add_zero]

/-- A row holds the groups of its statements. -/
theorem sketch_row (around : Set String) (before : Nat) (statements : List Node)
    (place : Option Location) :
    (Node.sequence statements place).sketch marking around before =
      Node.forestSketch marking around before statements := by
  rw [Node.sketch_eq, passes, Nat.add_zero]
  exact if_neg fun group => nomatch group

/-- **A row is as good as its only statement.** -/
theorem similar_wrapped (node : Node) (place : Option Location) :
    Similar marking node (.sequence [node] place) where
  weight := by rw [passes.weight_row, total_cons, total_nil, Nat.add_zero]
  made before := by rw [passes.made_row, Node.forestMade, Node.forestMade, List.append_nil]
  sketch around before := by
    rw [passes.sketch_row, Node.forestSketch_cons, Node.forestSketch_nil, List.append_nil]
  named before := by rw [Node.named, passes, Nat.add_zero]

end Marking.PassesRows

end LetShadow
