/-
**The blocks of a converted Ruby file.**

A conversion does not come to all of a concrete tree, and puts what it comes to together again from
lists of pieces that are told apart by their number only. No block is lost on the way, none is made
twice, and none changes its place.

* `Spot.reached` — **the places that a conversion comes to.** Nothing here follows the way in which
  pieces are listed and cut apart.
* `Concrete.OpensBlock` — the calls that become blocks, and `BlockOf` the block that one becomes.
* `Spot.reached_sublist_walk` — the places stand in pre-order, if all calls are in order.
* `blocks_of_convert` — **the blocks of what is converted are those of the calls that are reached.**
* `blocks_of_tree` — the same of a whole tree, and when there is one.
-/

import LetShadow.Proofs.Ruby.Oversized
import LetShadow.Proofs.Ruby.Spots

namespace LetShadow

/-- The blocks of a tree in pre-order. -/
def Node.blocks (node : Node) : List Node :=
  node.preorder.filter fun inner => inner.kind = .block

/-- A tree's blocks are itself, if it is one, and those of its children. -/
theorem Node.blocks_eq (node : Node) :
    node.blocks = (if node.kind = .block then [node] else []) ++ node.children.flatMap blocks := by
  unfold blocks
  rw [preorder_eq, List.filter_cons, List.filter_flatMap]
  by_cases block : node.kind = .block <;> simp [block]

namespace Ruby

open Conversion (convert convertAll convertAll_nil of_convert of_convertAll_cons)
open Relation (ReflTransGen)

/-! ### Calls that become blocks -/

/-- A call with a method and a block. A block that is passed on as an argument is not one. -/
structure Concrete.OpensBlock (source : Concrete) : Prop where
  call : source.type ∈ callTypes
  method : ∃ method, source.childAt? "method" = some method
  block : ∃ block, source.childAt? "block" = some block ∧ block.type ∈ blockTypes

theorem attachedBlock?_eq_some_iff {source block : Concrete} :
    attachedBlock? source = some block ↔
      source.childAt? "block" = some block ∧ block.type ∈ blockTypes := by
  unfold attachedBlock?
  simp [Option.filter_eq_some_iff]

theorem Concrete.opensBlock_iff {source : Concrete} :
    source.OpensBlock ↔ source.type ∈ callTypes ∧ (source.childAt? "method").isSome ∧
      (attachedBlock? source).isSome := by
  simp only [Option.isSome_iff_exists, attachedBlock?_eq_some_iff]
  exact ⟨fun opens => ⟨opens.call, opens.method, opens.block⟩,
    fun ⟨call, method, block⟩ => ⟨call, method, block⟩⟩

instance : DecidablePred Concrete.OpensBlock := fun source =>
  decidable_of_iff (source.type ∈ callTypes ∧ (source.childAt? "method").isSome ∧
    (attachedBlock? source).isSome) Concrete.opensBlock_iff.symm

/-- A node of a concrete tree becomes a node, in sight of some names. -/
def Becomes (source : Concrete) (node : Node) : Prop :=
  ∃ bound last, convert planner source bound = .ok (node, last)

/-- The block that a call becomes: it has the method and the place of the call, and what its receiver,
its arguments and the statements of its block become, one by one. -/
inductive BlockOf (source : Concrete) : Node → Prop
  | intro {method block : Concrete} {receiver : Option Node} {arguments statements : List Node}
      (atMethod : source.childAt? "method" = some method)
      (attached : source.childAt? "block" = some block)
      (ofReceiver : List.Forall₂ Becomes (source.childAt? "receiver").toList receiver.toList)
      (ofArguments : List.Forall₂ Becomes source.argumentNodes arguments)
      (ofStatements : List.Forall₂ Becomes block.statements statements) :
      BlockOf source
        (.block { method := method.text, arguments, receiver, location := some source.location }
          (blockBody block statements) (some source.location))

/-! ### Places that a conversion comes to -/

namespace Spot

/-- The children but comments. -/
def code (here : Spot) : List Spot :=
  here.children.filter fun child => child.node.type ≠ "comment"

/-- The statements that a node counts for: none if it is passed over, those in it if it is a wrapper
around a body, else itself. -/
def counted (here : Spot) : List Spot :=
  if here.node.isSkipped then []
  else if here.node.isWrapper then here.children.attach.flatMap fun child => child.1.counted
  else [here]
termination_by here.node.size
decreasing_by exact child_size_lt child.2

/-- The statements of a body. -/
def statements (here : Spot) : List Spot :=
  here.children.flatMap counted

/-- The block that is attached to a call. -/
def attachedBlock? (here : Spot) : Option Spot :=
  (here.childAt? "block").filter fun block => block.node.type ∈ blockTypes

/-- What a conversion goes on to from a node: from a call its receiver, its arguments and the
statements of its block; from a call without a method all it has; from a literal between quotes its
parts, if there is an interpolation; from a constant its scope; from bare names, symbols and constants
without scope nothing; and from any other node all children that are not passed over. -/
def pieces (here : Spot) : List Spot :=
  if here.node.type ∈ callTypes then
    if (here.childAt? "method").isSome then
      (here.childAt? "receiver").toList ++ ((here.childAt? "arguments").map code).getD [] ++
        (here.attachedBlock?.map statements).getD []
    else here.children
  else if here.node.type ∈ leafTypes then []
  else if here.node.type ∈ quotedTypes then
    if ∀ part ∈ here.code, part.node.type ∈ partTypes then [] else here.code
  else if here.node.type = "scope_resolution" then (here.childAt? "scope").toList
  else here.children.filter fun child => !child.node.isSkipped

theorem counted_eq (here : Spot) :
    here.counted =
      if here.node.isSkipped then []
      else if here.node.isWrapper then here.children.flatMap counted
      else [here] := by
  rw [counted, List.flatMap_subtype, List.unattach_attach]
  exact fun _ _ => rfl

theorem counted_subset_walk (here : Spot) : here.counted ⊆ here.walk := by
  induction here using spots_induction with
  | step here ih =>
    intro place mem
    rw [counted_eq] at mem
    split at mem
    · cases mem
    · split at mem
      · obtain ⟨child, childMem, inside⟩ := List.mem_flatMap.mp mem
        exact child_walk_subset childMem (ih child childMem inside)
      · rw [List.mem_singleton.mp mem]
        exact self_mem_walk here

/-- What a conversion goes on to stands in a child. -/
theorem exists_child_of_mem_pieces {here place : Spot} (mem : place ∈ here.pieces) :
    ∃ child ∈ here.children, place ∈ child.walk := by
  have own : ∀ child ∈ here.children, ∃ other ∈ here.children, child ∈ other.walk :=
    fun child childMem => ⟨child, childMem, self_mem_walk child⟩
  unfold pieces at mem
  split_ifs at mem with call method leaf quoted known inScope
  · rcases List.mem_append.mp mem with operand | statement
    · rcases List.mem_append.mp operand with receiver | argument
      · exact own place (mem_of_childAt? (Option.mem_toList.mp receiver))
      · cases found : here.childAt? "arguments" with
        | none => simp [found] at argument
        | some list =>
          simp only [found, Option.map_some, Option.getD_some] at argument
          exact ⟨list, mem_of_childAt? found,
            child_walk_subset (List.mem_of_mem_filter argument) (self_mem_walk place)⟩
    · cases found : here.attachedBlock? with
      | none => simp [found] at statement
      | some block =>
        simp only [found, Option.map_some, Option.getD_some] at statement
        obtain ⟨child, childMem, inside⟩ := List.mem_flatMap.mp statement
        exact ⟨block, mem_of_childAt? (Option.filter_eq_some_iff.mp found).1,
          child_walk_subset childMem (counted_subset_walk child inside)⟩
  · exact own place mem
  · cases mem
  · cases mem
  · exact own place (List.mem_of_mem_filter mem)
  · exact own place (mem_of_childAt? (Option.mem_toList.mp mem))
  · exact own place (List.mem_of_mem_filter mem)

theorem size_le_of_mem_walk {here place : Spot} (mem : place ∈ here.walk) :
    place.node.size ≤ here.node.size := by
  induction here using spots_induction with
  | step here ih =>
    rw [walk_eq] at mem
    rcases List.mem_cons.mp mem with rfl | below
    · exact le_rfl
    · obtain ⟨child, childMem, inside⟩ := List.mem_flatMap.mp below
      exact (ih child childMem inside).trans (child_size_lt childMem).le

theorem piece_size_lt {here place : Spot} (mem : place ∈ here.pieces) :
    place.node.size < here.node.size := by
  obtain ⟨child, childMem, inside⟩ := exists_child_of_mem_pieces mem
  exact (size_le_of_mem_walk inside).trans_lt (child_size_lt childMem)

/-- The places that a conversion comes to: where it begins, and those that it comes to from the
pieces there. -/
def reached (here : Spot) : List Spot :=
  here :: here.pieces.attach.flatMap fun piece => piece.1.reached
termination_by here.node.size
decreasing_by exact piece_size_lt piece.2

theorem reached_eq (here : Spot) : here.reached = here :: here.pieces.flatMap reached := by
  rw [reached, List.flatMap_subtype, List.unattach_attach]
  exact fun _ _ => rfl

/-! ### The order of the places -/

/-- A call lists its receiver, its arguments and its block in this order, as far as it has them. -/
def IsOrdered (call : Spot) : Prop :=
  (["receiver", "arguments", "block"].filterMap call.childAt?).Pairwise fun first second =>
    first.pos < second.pos

theorem flatMap_sublist {Item Image : Type} {some all : List Item} {images parts : Item → List Image}
    (among : some.Sublist all) (each : ∀ item ∈ all, (parts item).Sublist (images item)) :
    (some.flatMap parts).Sublist (all.flatMap images) := by
  induction among with
  | slnil => exact List.Sublist.refl _
  | cons item _ ih =>
    rw [List.flatMap_cons]
    exact (ih fun other mem => each other (List.mem_cons_of_mem _ mem)).trans
      (List.sublist_append_right _ _)
  | cons_cons item _ ih =>
    rw [List.flatMap_cons, List.flatMap_cons]
    exact (each item List.mem_cons_self).append
      (ih fun other mem => each other (List.mem_cons_of_mem _ mem))

theorem flatMap_children_sublist_walk (here : Spot) :
    (here.children.flatMap walk).Sublist here.walk := by
  rw [walk_eq]
  exact List.sublist_cons_self _ _

theorem counted_flatMap_sublist {parts : Spot → List Spot} (here : Spot)
    (each : ∀ place ∈ here.walk, (parts place).Sublist place.walk) :
    (here.counted.flatMap parts).Sublist here.walk := by
  induction here using spots_induction with
  | step here ih =>
    rw [counted_eq]
    split_ifs
    · exact List.nil_sublist _
    · rw [List.flatMap_assoc]
      refine (flatMap_sublist (List.Sublist.refl _) fun child childMem => ?_).trans
        (flatMap_children_sublist_walk here)
      exact ih child childMem fun place mem => each place (child_walk_subset childMem mem)
    · rw [List.flatMap_singleton]
      exact each here (self_mem_walk here)

/-- The fields of a call in order are children of it in their order. -/
theorem call_fields_sublist {here : Spot} (ordered : here.IsOrdered) :
    ((here.childAt? "receiver").toList ++ (here.childAt? "arguments").toList ++
      (here.childAt? "block").toList).Sublist here.children := by
  have fields : ["receiver", "arguments", "block"].filterMap here.childAt? =
      (here.childAt? "receiver").toList ++ (here.childAt? "arguments").toList ++
        (here.childAt? "block").toList := by
    simp only [List.filterMap_cons, List.filterMap_nil]
    cases here.childAt? "receiver" <;> cases here.childAt? "arguments" <;>
      cases here.childAt? "block" <;> rfl
  rw [← fields]
  refine sublist_of_sorted ordered here.children_sorted fun child mem => ?_
  obtain ⟨field, -, found⟩ := List.mem_filterMap.mp mem
  exact mem_of_childAt? found

section

variable {here : Spot} {parts : Spot → List Spot}
  (each : ∀ child ∈ here.children, ∀ place ∈ child.walk, (parts place).Sublist place.walk)

include each

theorem receiver_sublist :
    ((here.childAt? "receiver").toList.flatMap parts).Sublist
      ((here.childAt? "receiver").toList.flatMap walk) := by
  refine flatMap_sublist (List.Sublist.refl _) fun child mem => ?_
  exact each child (mem_of_childAt? (Option.mem_toList.mp mem)) child (self_mem_walk child)

theorem arguments_sublist :
    ((((here.childAt? "arguments").map code).getD []).flatMap parts).Sublist
      ((here.childAt? "arguments").toList.flatMap walk) := by
  cases found : here.childAt? "arguments" with
  | none => exact List.Sublist.refl _
  | some list =>
    rw [Option.map_some, Option.getD_some, Option.toList_some, List.flatMap_singleton]
    refine (flatMap_sublist List.filter_sublist fun child childMem => ?_).trans
      (flatMap_children_sublist_walk list)
    exact each list (mem_of_childAt? found) child (child_walk_subset childMem (self_mem_walk child))

theorem statements_sublist :
    (((here.attachedBlock?.map statements).getD []).flatMap parts).Sublist
      ((here.childAt? "block").toList.flatMap walk) := by
  cases attached : here.attachedBlock? with
  | none => exact List.nil_sublist _
  | some block =>
    have found := (Option.filter_eq_some_iff.mp attached).1
    rw [found, Option.map_some, Option.getD_some, Option.toList_some, List.flatMap_singleton,
      statements, List.flatMap_assoc]
    refine (flatMap_sublist (List.Sublist.refl _) fun child childMem => ?_).trans
      (flatMap_children_sublist_walk block)
    exact counted_flatMap_sublist child fun place mem =>
      each block (mem_of_childAt? found) place (child_walk_subset childMem mem)

/-- The pieces of a call in order make up part of the call. -/
theorem call_pieces_sublist (ordered : here.IsOrdered) :
    (((here.childAt? "receiver").toList ++ ((here.childAt? "arguments").map code).getD [] ++
      (here.attachedBlock?.map statements).getD []).flatMap parts).Sublist
        (here.children.flatMap walk) := by
  rw [List.flatMap_append, List.flatMap_append]
  refine (((receiver_sublist each).append (arguments_sublist each)).append
    (statements_sublist each)).trans ?_
  rw [← List.flatMap_append, ← List.flatMap_append]
  exact flatMap_sublist (call_fields_sublist ordered) fun _ _ => List.Sublist.refl _

end

/-- **A conversion comes to places in pre-order, and to none twice,** if all calls are in order. -/
theorem reached_sublist_walk (here : Spot)
    (ordered : ∀ call ∈ here.walk, call.node.type ∈ callTypes → call.IsOrdered) :
    here.reached.Sublist here.walk := by
  have each : ∀ child ∈ here.children, ∀ place ∈ child.walk, place.reached.Sublist place.walk := by
    intro child childMem place mem
    have := (size_le_of_mem_walk mem).trans_lt (child_size_lt childMem)
    exact reached_sublist_walk place fun call callMem => ordered call
      (child_walk_subset childMem (walk_trans callMem mem))
  have own : ∀ child ∈ here.children, child.reached.Sublist child.walk :=
    fun child childMem => each child childMem child (self_mem_walk child)
  have atField : ∀ field, (here.childAt? field).toList.Sublist here.children := by
    intro field
    cases found : here.childAt? field with
    | none => exact List.nil_sublist _
    | some child => exact List.singleton_sublist.mpr (mem_of_childAt? found)
  rw [reached_eq, walk_eq]
  refine List.Sublist.cons_cons _ ?_
  unfold pieces
  split_ifs with call method leaf quoted known inScope
  · exact call_pieces_sublist each (ordered here (self_mem_walk here) call)
  · exact flatMap_sublist (List.Sublist.refl _) own
  · exact List.nil_sublist _
  · exact List.nil_sublist _
  · exact flatMap_sublist List.filter_sublist own
  · exact flatMap_sublist (atField "scope") own
  · exact flatMap_sublist List.filter_sublist own
termination_by here.node.size

/-! ### What plans ask for -/

/-- The places of the parts of a plan. A row of statements passes through the wrappers in it at once. -/
def asked (here : Spot) : List Spot :=
  if here.node.type ∈ sequenceTypes then here.statements else here.pieces

theorem map_node_code (here : Spot) : here.code.map node = here.node.code := by
  rw [code, Concrete.code, ← map_node_children, List.filter_map]
  rfl

theorem map_node_counted (here : Spot) :
    here.counted.map node = Concrete.statementOnto here.node [] := by
  induction here using spots_induction with
  | step here ih =>
    rw [counted_eq, Concrete.statementOnto_eq]
    split_ifs
    · rfl
    · rw [List.map_flatMap, List.flatMap_congr ih, ← Concrete.statements, Concrete.statements_eq,
        ← map_node_children, List.flatMap_map]
    · rfl

theorem map_node_statements (here : Spot) : here.statements.map node = here.node.statements := by
  rw [statements, List.map_flatMap, List.flatMap_congr fun child _ => map_node_counted child,
    Concrete.statements_eq, ← map_node_children, List.flatMap_map]

theorem map_node_attachedBlock? (here : Spot) :
    here.attachedBlock?.map node = Ruby.attachedBlock? here.node := by
  unfold attachedBlock? Ruby.attachedBlock?
  rw [← map_node_childAt?]
  cases here.childAt? "block" <;> simp [Option.filter_some, apply_ite]

theorem map_node_pieces {here : Spot} (noRow : here.node.type ∉ sequenceTypes) :
    here.pieces.map node = here.node.pieces := by
  have known : (∀ part ∈ here.code, part.node.type ∈ partTypes) ↔
      ∀ part ∈ here.node.code, part.type ∈ partTypes := by
    rw [← map_node_code, List.forall_mem_map]
  have toList : ∀ field, (here.childAt? field).toList.map node = (here.node.childAt? field).toList := by
    intro field
    rw [← map_node_childAt?]
    cases here.childAt? field <;> rfl
  have method : (here.childAt? "method").isSome = (here.node.childAt? "method").isSome := by
    rw [← map_node_childAt?, Option.isSome_map]
  have arguments : (((here.childAt? "arguments").map code).getD []).map node =
      here.node.argumentNodes := by
    rw [Concrete.argumentNodes, ← map_node_childAt?]
    cases here.childAt? "arguments" with
    | none => rfl
    | some list => exact map_node_code list
  have block : ((here.attachedBlock?.map statements).getD []).map node =
      blockStatements here.node := by
    rw [blockStatements, ← map_node_attachedBlock?]
    cases here.attachedBlock? with
    | none => rfl
    | some block => exact map_node_statements block
  unfold pieces Concrete.pieces
  rw [if_neg noRow]
  simp only [known, method]
  split_ifs
  · rw [List.map_append, List.map_append, toList, arguments, block]
  · exact map_node_children here
  · rfl
  · rfl
  · exact map_node_code here
  · exact toList "scope"
  · rw [← map_node_children, List.filter_map]
    rfl

theorem map_node_asked (here : Spot) : here.asked.map node = here.node.pieces := by
  unfold asked
  split
  · rename_i row
    have noCall : here.node.type ∉ callTypes := by
      simp only [sequenceTypes, List.mem_cons, List.not_mem_nil, or_false] at row
      rcases row with row | row | row <;> rw [row] <;> decide
    rw [map_node_statements, Concrete.pieces, if_neg noCall, if_pos row]
  · rename_i noRow
    exact map_node_pieces noRow

/-- A node that stands for what is in it has only this for its pieces. -/
theorem pieces_of_wrapper {here : Spot} (wraps : here.node.isWrapper = true) :
    here.pieces = here.children.filter fun child => !child.node.isSkipped := by
  have type : here.node.type = "block_body" ∨ here.node.type = "body_statement" := by
    simpa [Concrete.isWrapper, wrapperTypes] using wraps
  rcases type with type | type <;>
    simp [pieces, type, callTypes, leafTypes, quotedTypes]

variable {keep : Spot → Bool}

theorem filter_reached_children {children : List Spot}
    (each : ∀ child ∈ children, (child.counted.flatMap reached).filter keep =
      if child.node.isSkipped then [] else child.reached.filter keep) :
    ((children.flatMap counted).flatMap reached).filter keep =
      ((children.filter fun child => !child.node.isSkipped).flatMap reached).filter keep := by
  rw [List.flatMap_assoc, List.filter_flatMap, List.flatMap_congr each, List.filter_flatMap]
  induction children with
  | nil => rfl
  | cons child rest ih =>
    have later := ih fun other mem => each other (List.mem_cons_of_mem _ mem)
    by_cases skipped : child.node.isSkipped = true <;> simp [skipped, later]

/-- What is reached through a statement is reached through the node that counts for it. -/
theorem filter_reached_counted
    (passes : ∀ wrapper : Spot, wrapper.node.isWrapper = true → keep wrapper = false) (here : Spot) :
    (here.counted.flatMap reached).filter keep =
      if here.node.isSkipped then [] else here.reached.filter keep := by
  induction here using spots_induction with
  | step here ih =>
    rw [counted_eq]
    split_ifs with skipped wraps
    · rfl
    · rw [filter_reached_children ih, reached_eq, List.filter_cons_of_neg (by simp [passes here wraps]),
        pieces_of_wrapper wraps]
    · rw [List.flatMap_singleton]

/-- **The places that a conversion comes to from its parts are those that it comes to at all,** but
for wrappers. -/
theorem filter_reached_asked
    (passes : ∀ wrapper : Spot, wrapper.node.isWrapper = true → keep wrapper = false) (here : Spot) :
    (here.asked.flatMap reached).filter keep = (here.pieces.flatMap reached).filter keep := by
  unfold asked
  split
  · rename_i row
    have pieces : here.pieces = here.children.filter fun child => !child.node.isSkipped := by
      simp only [sequenceTypes, List.mem_cons, List.not_mem_nil, or_false] at row
      rcases row with row | row | row <;>
        simp [pieces, row, callTypes, leafTypes, quotedTypes]
    rw [pieces]
    exact filter_reached_children fun child _ => filter_reached_counted passes child
  · rfl

theorem asked_size_lt {here place : Spot} (mem : place ∈ here.asked) :
    place.node.size < here.node.size := by
  unfold asked at mem
  split at mem
  · obtain ⟨child, childMem, inside⟩ := List.mem_flatMap.mp mem
    exact (size_le_of_mem_walk (counted_subset_walk child inside)).trans_lt (child_size_lt childMem)
  · exact piece_size_lt mem

/-- Where no wrapper is of a kind, the nodes of the kind are reached by way of what is asked for. -/
theorem exists_reached_asked_iff {bad : Concrete → Prop}
    (passes : ∀ wrapper : Concrete, wrapper.isWrapper = true → ¬ bad wrapper) (here : Spot) :
    (∃ place ∈ here.pieces.flatMap reached, bad place.node) ↔
      ∃ place ∈ here.asked.flatMap reached, bad place.node := by
  classical
  have dropped : ∀ wrapper : Spot, wrapper.node.isWrapper = true →
      decide (bad wrapper.node) = false :=
    fun wrapper wraps => decide_eq_false (passes wrapper.node wraps)
  have member : ∀ places : List Spot, (∃ place ∈ places, bad place.node) ↔
      places.filter (fun place => decide (bad place.node)) ≠ [] := by
    intro places
    simp [List.filter_eq_nil_iff]
  rw [member, member, filter_reached_asked dropped here]

/-- **A node of a kind is reached exactly if plans lead to it,** where no wrapper is of that kind. -/
theorem exists_reached_iff {bad : Concrete → Prop}
    (passes : ∀ wrapper : Concrete, wrapper.isWrapper = true → ¬ bad wrapper) (here : Spot) :
    (∃ place ∈ here.reached, bad place.node) ↔
      ∃ inner, ReflTransGen (fun outer inner => inner ∈ outer.pieces) here.node inner ∧
        bad inner := by
  have below := exists_reached_asked_iff passes here
  have each : ∀ piece ∈ here.asked, ((∃ place ∈ piece.reached, bad place.node) ↔
      ∃ inner, ReflTransGen (fun outer inner => inner ∈ outer.pieces) piece.node inner ∧
        bad inner) := by
    intro piece mem
    have := asked_size_lt mem
    exact exists_reached_iff passes piece
  rw [reached_eq]
  constructor
  · rintro ⟨place, mem, isBad⟩
    rcases List.mem_cons.mp mem with rfl | later
    · exact ⟨place.node, .refl, isBad⟩
    · obtain ⟨other, otherMem, otherBad⟩ := below.mp ⟨place, later, isBad⟩
      obtain ⟨piece, pieceMem, inside⟩ := List.mem_flatMap.mp otherMem
      obtain ⟨inner, reaches, innerBad⟩ := (each piece pieceMem).mp ⟨other, inside, otherBad⟩
      refine ⟨inner, .head ?_ reaches, innerBad⟩
      rw [← map_node_asked]
      exact List.mem_map_of_mem pieceMem
  · rintro ⟨inner, reaches, isBad⟩
    obtain same | ⟨next, mem, later⟩ := ReflTransGen.cases_head_iff.mp reaches
    · exact ⟨here, List.mem_cons_self, same ▸ isBad⟩
    · rw [← map_node_asked] at mem
      obtain ⟨piece, pieceMem, rfl⟩ := List.mem_map.mp mem
      obtain ⟨place, inside, placeBad⟩ := (each piece pieceMem).mpr ⟨inner, later, isBad⟩
      obtain ⟨found, foundMem, foundBad⟩ :=
        below.mpr ⟨place, List.mem_flatMap.mpr ⟨piece, pieceMem, inside⟩, placeBad⟩
      exact ⟨found, List.mem_cons_of_mem _ foundMem, foundBad⟩
termination_by here.node.size

end Spot

/-! ### Blocks that plans make -/

theorem exists_append_of_forall₂ {Item Image : Type} {related : Item → Image → Prop}
    {first second : List Item} {images : List Image}
    (both : List.Forall₂ related (first ++ second) images) :
    ∃ ones others, images = ones ++ others ∧ List.Forall₂ related first ones ∧
      List.Forall₂ related second others := by
  induction first generalizing images with
  | nil => exact ⟨[], images, rfl, .nil, both⟩
  | cons item rest ih =>
    cases both with
    | cons here later =>
      obtain ⟨ones, others, rfl, ofRest, ofSecond⟩ := ih later
      exact ⟨_ :: ones, others, rfl, .cons here ofRest, ofSecond⟩

theorem exists_option_of_forall₂ {Item Image : Type} {related : Item → Image → Prop}
    {item : Option Item} {images : List Image}
    (both : List.Forall₂ related item.toList images) :
    ∃ image : Option Image, images = image.toList := by
  cases item with
  | none =>
    cases both
    exact ⟨none, rfl⟩
  | some item =>
    cases both with
    | cons here later =>
      cases later
      exact ⟨some _, rfl⟩

theorem exists_of_mem_image {Item Image : Type} {related : Item → Image → Prop} {items : List Item}
    {images : List Image} (both : List.Forall₂ related items images) {image : Image}
    (mem : image ∈ images) : ∃ item ∈ items, related item image := by
  induction both with
  | nil => cases mem
  | cons here _ ih =>
    rcases List.mem_cons.mp mem with rfl | later
    · exact ⟨_, List.mem_cons_self, here⟩
    · obtain ⟨item, itemMem, isImage⟩ := ih later
      exact ⟨item, List.mem_cons_of_mem _ itemMem, isImage⟩

/-- A source node that is converted has a plan, in sight of the names that it binds. -/
theorem plan_of_convert {source : Concrete} {bound last : Names} {node : Node}
    (converts : convert planner source bound = .ok (node, last)) :
    ∃ (planned : RubyPlan source) (nodes : List Node),
      plan source (boundBy source ++ bound) = .ok planned ∧
        convertAll planner planned.parts (boundBy source ++ bound) = .ok (nodes, last) ∧
          planned.assemble nodes = .ok node := by
  obtain ⟨planned, middle, nodes, plans, below, assembles⟩ := of_convert converts
  obtain ⟨found, ofPlan, same⟩ := bind_eq_ok_iff.mp plans
  cases same
  exact ⟨planned, nodes, ofPlan, below, assembles⟩

/-- A plan asks for the pieces of its node. -/
theorem asksFor_of_plan {node : Concrete} {bound : Names} {planned : RubyPlan node}
    (plans : plan node bound = .ok planned) : Conversion.AsksFor planned node.pieces := by
  have fits : ¬ node.IsOversized := fun oversized => by
    cases (plan_eq_error oversized _).symm.trans plans
  obtain ⟨_, same, asks⟩ := plan_asksFor fits bound
  cases same.symm.trans plans
  exact asks

/-- Source nodes that are converted become the nodes, one by one. -/
theorem forall₂_becomes {sources : List Concrete} {bound last : Names} {nodes : List Node}
    (converts : convertAll planner sources bound = .ok (nodes, last)) :
    List.Forall₂ Becomes sources nodes := by
  induction sources generalizing bound nodes with
  | nil =>
    rw [convertAll_nil] at converts
    cases converts
    exact .nil
  | cons source rest ih =>
    obtain ⟨node, middle, others, here, below, rfl⟩ := of_convertAll_cons converts
    exact .cons ⟨bound, middle, here⟩ (ih below)

theorem blocks_call (invocation : Call Node) :
    (Node.call invocation).blocks =
      invocation.receiver.toList.flatMap Node.blocks ++ invocation.arguments.flatMap Node.blocks := by
  rw [Node.blocks_eq, Node.children, List.flatMap_append]
  rfl

theorem blocks_blockBody (block : Concrete) (statements : List Node) :
    (blockBody block statements).toList.flatMap Node.blocks = statements.flatMap Node.blocks := by
  cases statements with
  | nil => rfl
  | cons first rest =>
    rw [blockBody, Option.toList_some, List.flatMap_singleton, Node.blocks_eq]
    · rfl
    · nofun

/-- **The pieces of a call are what becomes of its receiver, its arguments and the statements of its
block.** -/
theorem assembleCall_of_becomes {source : Concrete} (method : String) {nodes : List Node}
    (become : List.Forall₂ Becomes
      ((source.childAt? "receiver").toList ++ callArguments source ++ blockStatements source) nodes) :
    ∃ (receiver : Option Node) (arguments statements : List Node),
      nodes = receiver.toList ++ (arguments ++ statements) ∧
        List.Forall₂ Becomes (source.childAt? "receiver").toList receiver.toList ∧
        List.Forall₂ Becomes source.argumentNodes arguments ∧
        List.Forall₂ Becomes (blockStatements source) statements ∧
        assembleCall source method nodes =
          callNode source { method, arguments, receiver, location := some source.location }
            statements := by
  rw [callArguments_eq] at become
  obtain ⟨operands, statements, rfl, ofOperands, ofStatements⟩ := exists_append_of_forall₂ become
  obtain ⟨receivers, arguments, rfl, ofReceiver, ofArguments⟩ := exists_append_of_forall₂ ofOperands
  obtain ⟨receiver, rfl⟩ := exists_option_of_forall₂ ofReceiver
  refine ⟨receiver, arguments, statements, List.append_assoc .., ofReceiver, ofArguments,
    ofStatements, ?_⟩
  rw [List.append_assoc]
  exact assembleCall_eq method ofReceiver.length_eq.symm ofArguments.length_eq.symm statements

/-- **A call with a method becomes a block exactly if it has one,** and all blocks of its pieces stay
where they are. -/
theorem assembleCall_blocks {source method : Concrete} (isCall : source.type ∈ callTypes)
    (atMethod : source.childAt? "method" = some method) {nodes : List Node}
    (become : List.Forall₂ Becomes
      ((source.childAt? "receiver").toList ++ callArguments source ++ blockStatements source) nodes) :
    (source.OpensBlock → BlockOf source (assembleCall source method.text nodes)) ∧
      (assembleCall source method.text nodes).blocks =
        (if source.OpensBlock then [assembleCall source method.text nodes] else []) ++
          nodes.flatMap Node.blocks := by
  obtain ⟨receiver, arguments, statements, rfl, ofReceiver, ofArguments, ofStatements, made⟩ :=
    assembleCall_of_becomes method.text become
  rw [made]
  unfold callNode
  cases attached : attachedBlock? source with
  | none =>
    have noBlock : ¬ source.OpensBlock := fun opens => by
      obtain ⟨block, atBlock⟩ := opens.block
      cases attached.symm.trans (attachedBlock?_eq_some_iff.mpr atBlock)
    have nothing : statements = [] := by
      rw [blockStatements, attached] at ofStatements
      cases ofStatements
      rfl
    refine ⟨fun opens => absurd opens noBlock, ?_⟩
    rw [if_neg noBlock, nothing, List.append_nil, List.flatMap_append]
    exact blocks_call _
  | some block =>
    have atBlock := attachedBlock?_eq_some_iff.mp attached
    have opens : source.OpensBlock := ⟨isCall, ⟨method, atMethod⟩, ⟨block, atBlock⟩⟩
    rw [blockStatements, attached] at ofStatements
    refine ⟨fun _ => .intro atMethod atBlock.1 ofReceiver ofArguments ofStatements, ?_⟩
    dsimp only
    rw [if_pos opens, Node.blocks_eq, Node.children, List.flatMap_cons, blocks_blockBody, blocks_call,
      List.flatMap_append, List.flatMap_append, List.append_assoc]
    rfl

/-- A node that is no block has the blocks of its children. -/
theorem blocks_of_noBlock {node : Node} (noBlock : node.kind ≠ .block) :
    node.blocks = node.children.flatMap Node.blocks := by
  rw [Node.blocks_eq, if_neg noBlock, List.nil_append]

/-- A plan puts converted parts together without a block of its own. -/
def AddsNoBlock {source : Concrete} (planned : RubyPlan source) : Prop :=
  ∀ nodes node, nodes.length = planned.parts.length → planned.assemble nodes = .ok node →
    node.blocks = nodes.flatMap Node.blocks

theorem leafPlan_addsNoBlock {source : Concrete} {leaf : Node} (noBlock : leaf.blocks = []) :
    AddsNoBlock (leafPlan source leaf) := by
  intro nodes node count assembles
  cases assembles
  rw [List.length_eq_zero_iff.mp count, noBlock, List.flatMap_nil]

theorem childrenPlan_addsNoBlock {source : Concrete} (choose : Concrete → Bool) (kind : String)
    (text : Option String) (place : Option Location) :
    AddsNoBlock (childrenPlan source choose fun parts => .other kind parts text place) := by
  intro nodes node _ assembles
  cases assembles
  exact blocks_of_noBlock nofun

theorem nameNode_blocks (source : Concrete) (bound : Names) : (nameNode source bound).blocks = [] := by
  unfold nameNode
  split
  · exact blocks_of_noBlock nofun
  · refine blocks_of_noBlock ?_
    nofun

theorem literalNode_blocks (source : Concrete) (value : String) :
    (literalNode source value).blocks = [] := by
  unfold literalNode
  split
  · exact blocks_of_noBlock nofun
  · exact blocks_of_noBlock nofun

theorem quotedPlan_addsNoBlock {source : Concrete} {planned : RubyPlan source}
    (plans : quotedPlan source = .ok planned) : AddsNoBlock planned := by
  rw [quotedPlan_eq] at plans
  split at plans
  · obtain ⟨value, -, rfl⟩ := map_eq_ok_iff.mp plans
    exact leafPlan_addsNoBlock (literalNode_blocks source value)
  · cases plans
    exact childrenPlan_addsNoBlock _ _ _ _

theorem scopedConstantPlan_addsNoBlock (source : Concrete) :
    AddsNoBlock (scopedConstantPlan source) := by
  unfold scopedConstantPlan
  split
  · exact leafPlan_addsNoBlock rfl
  · intro nodes node _ assembles
    cases assembles
    exact blocks_of_noBlock nofun

/-- **Only a call becomes a block.** -/
theorem plan_addsNoBlock {source : Concrete} {bound : Names} {planned : RubyPlan source}
    (noCall : source.type ∉ callTypes) (plans : plan source bound = .ok planned) :
    AddsNoBlock planned := by
  unfold plan at plans
  rw [if_neg (by rwa [List.contains_iff_mem])] at plans
  split_ifs at plans with isRow isWord isSymbol isQuoted isConstant isScoped
  · intro nodes node _ assembles
    cases plans
    cases assembles
    exact blocks_of_noBlock nofun
  · cases plans
    exact leafPlan_addsNoBlock (nameNode_blocks source bound)
  · cases plans
    exact leafPlan_addsNoBlock (blocks_of_noBlock nofun)
  · exact quotedPlan_addsNoBlock plans
  · cases plans
    exact leafPlan_addsNoBlock (blocks_of_noBlock nofun)
  · cases plans
    exact scopedConstantPlan_addsNoBlock source
  · cases plans
    exact childrenPlan_addsNoBlock _ _ _ _

theorem callPlan_blocks {source : Concrete} {bound last : Names} {nodes : List Node} {node : Node}
    (isCall : source.type ∈ callTypes)
    (converts : convertAll planner (callPlan source).parts bound = .ok (nodes, last))
    (assembles : (callPlan source).assemble nodes = .ok node) :
    (source.OpensBlock → BlockOf source node) ∧
      node.blocks = (if source.OpensBlock then [node] else []) ++ nodes.flatMap Node.blocks := by
  cases atMethod : source.childAt? "method" with
  | none =>
    have shape : callPlan source = childrenPlan source (fun _ => true) (otherNode source) := by
      unfold callPlan
      rw [atMethod]
    have noBlock : ¬ source.OpensBlock := fun opens => by
      obtain ⟨method, found⟩ := opens.method
      cases atMethod.symm.trans found
    rw [shape] at assembles
    cases assembles
    refine ⟨fun opens => absurd opens noBlock, ?_⟩
    rw [if_neg noBlock, List.nil_append]
    exact blocks_of_noBlock nofun
  | some method =>
    rw [callPlan_eq atMethod] at converts assembles
    cases assembles
    exact assembleCall_blocks isCall atMethod (forall₂_becomes converts)

/-- **A node becomes a block exactly if it is a call with one,** and all blocks of its parts stay
where they are. -/
theorem plan_blocks {source : Concrete} {bound middle last : Names} {planned : RubyPlan source}
    {nodes : List Node} {node : Node} (plans : plan source bound = .ok planned)
    (converts : convertAll planner planned.parts middle = .ok (nodes, last))
    (assembles : planned.assemble nodes = .ok node) :
    (source.OpensBlock → BlockOf source node) ∧
      node.blocks = (if source.OpensBlock then [node] else []) ++ nodes.flatMap Node.blocks := by
  by_cases call : source.type ∈ callTypes
  · cases (plan_of_call call bound).symm.trans plans
    exact callPlan_blocks call converts assembles
  · have noBlock : ¬ source.OpensBlock := fun opens => call opens.call
    refine ⟨fun opens => absurd opens noBlock, ?_⟩
    rw [if_neg noBlock, List.nil_append]
    exact plan_addsNoBlock call plans nodes node (Conversion.length_of_convertAll converts) assembles

/-! ### Blocks of a whole conversion -/

namespace Spot

/-- The places of calls that become blocks, among those that a conversion comes to. -/
def calls (here : Spot) : List Spot :=
  here.reached.filter fun place => place.node.OpensBlock

theorem calls_eq (here : Spot) :
    here.calls = (if here.node.OpensBlock then [here] else []) ++ here.asked.flatMap calls := by
  have passes : ∀ wrapper : Spot, wrapper.node.isWrapper = true →
      decide wrapper.node.OpensBlock = false := by
    intro wrapper wraps
    refine decide_eq_false fun opens => ?_
    have call := opens.call
    simp only [Concrete.isWrapper, wrapperTypes, List.contains_iff_mem, List.mem_cons,
      List.not_mem_nil, or_false] at wraps
    rcases wraps with type | type <;> simp [callTypes, type] at call
  have below := filter_reached_asked passes here
  rw [calls, reached_eq, List.filter_cons, ← below, List.filter_flatMap]
  have own : here.asked.flatMap calls = here.asked.flatMap fun place =>
      place.reached.filter fun inner => inner.node.OpensBlock := rfl
  rw [own]
  by_cases opens : here.node.OpensBlock <;> simp [opens]

end Spot

/-- What places become one by one, in sight of some names, has the blocks of their calls. -/
theorem blocks_of_convertAll {places : List Spot}
    (each : ∀ place ∈ places, ∀ bound node last, convert planner place.node bound = .ok (node, last) →
      List.Forall₂ (fun call node => BlockOf call.node node) place.calls node.blocks)
    {bound last : Names} {nodes : List Node}
    (converts : convertAll planner (places.map Spot.node) bound = .ok (nodes, last)) :
    List.Forall₂ (fun call node => BlockOf call.node node) (places.flatMap Spot.calls)
      (nodes.flatMap Node.blocks) := by
  induction places generalizing bound nodes with
  | nil =>
    rw [List.map_nil, convertAll_nil] at converts
    cases converts
    exact .nil
  | cons place rest ih =>
    obtain ⟨node, middle, others, here, below, rfl⟩ := of_convertAll_cons converts
    have later := ih (fun other mem => each other (List.mem_cons_of_mem _ mem)) below
    rw [List.flatMap_cons, List.flatMap_cons]
    exact List.rel_append (each place List.mem_cons_self bound node middle here) later

/-- **The blocks of what is converted are those of the calls that are reached,** in their order. -/
theorem blocks_of_convert (here : Spot) (bound : Names) (node : Node) (last : Names)
    (converts : convert planner here.node bound = .ok (node, last)) :
    List.Forall₂ (fun call node => BlockOf call.node node) here.calls node.blocks := by
  obtain ⟨planned, nodes, ofPlan, below, assembles⟩ := plan_of_convert converts
  have fits : ¬ here.node.IsOversized := fun oversized => by
    cases (plan_eq_error oversized _).symm.trans ofPlan
  obtain ⟨_, samePlan, asks⟩ := plan_asksFor fits (boundBy here.node ++ bound)
  cases samePlan.symm.trans ofPlan
  obtain ⟨own, all⟩ := plan_blocks ofPlan below assembles
  have each : ∀ place ∈ here.asked, ∀ bound node last,
      convert planner place.node bound = .ok (node, last) →
        List.Forall₂ (fun call node => BlockOf call.node node) place.calls node.blocks := by
    intro place mem
    have := Spot.asked_size_lt mem
    exact blocks_of_convert place
  rw [asks.parts, ← Spot.map_node_asked] at below
  have inParts := blocks_of_convertAll each below
  rw [all, Spot.calls_eq]
  refine List.rel_append ?_ inParts
  split
  · rename_i opens
    exact .cons (own opens) .nil
  · exact .nil
termination_by here.node.size

/-- A tree is given up exactly if the conversion comes to a literal that is too large. -/
theorem tree_eq_error_iff_reached {source : Concrete} {error : OversizedCodePoint} :
    tree source = .error error ↔
      ∃ place ∈ (⟨0, source⟩ : Spot).reached, place.node.IsOversized := by
  rw [tree_eq_error_iff, Spot.exists_reached_iff]
  intro wrapper wraps oversized
  have quoted := oversized.quoted
  simp only [Concrete.isWrapper, wrapperTypes, List.contains_iff_mem, List.mem_cons,
    List.not_mem_nil, or_false] at wraps
  rcases wraps with type | type <;> simp [quotedTypes, type] at quoted

/-- **No block is lost, made twice or moved.** If its calls are in order, a tree becomes a node, unless
the conversion comes to a literal that is too large; the blocks of the node, in pre-order, are one by
one those of the calls with a method and a block that the conversion comes to, in pre-order. A tree
that has been listed has the places of its listing. -/
theorem blocks_of_tree (source : Concrete)
    (ordered : ∀ call ∈ (⟨0, source⟩ : Spot).walk, call.node.type ∈ callTypes → call.IsOrdered) :
    (∀ error, tree source = .error error ↔
      ∃ place ∈ (⟨0, source⟩ : Spot).reached, place.node.IsOversized) ∧
    (∀ root, tree source = .ok root →
      ∃ calls : List Spot, calls.Sublist (⟨0, source⟩ : Spot).walk ∧
        (∀ place, place ∈ calls ↔
          place ∈ (⟨0, source⟩ : Spot).reached ∧ place.node.OpensBlock) ∧
        List.Forall₂ (fun call block => BlockOf call.node block) calls root.blocks) ∧
    ((⟨0, source⟩ : Spot).walk.Pairwise fun first second => first.pos < second.pos) ∧
    ∀ bytes entries, Concrete.ofListing? bytes entries = some source →
      List.Forall₂ (fun entry place => Concrete.Entry.Lists bytes entry place.node) entries
        (⟨0, source⟩ : Spot).walk := by
  refine ⟨fun error => tree_eq_error_iff_reached, fun root converts => ?_, Spot.walk_sorted _,
    fun bytes entries => walk_of_listing⟩
  rw [tree, Conversion.build_eq_convert] at converts
  obtain ⟨⟨node, last⟩, goes, rfl⟩ := map_eq_ok_iff.mp converts
  refine ⟨(⟨0, source⟩ : Spot).calls, ?_, fun place => ?_,
    blocks_of_convert ⟨0, source⟩ [] node last goes⟩
  · exact List.filter_sublist.trans (Spot.reached_sublist_walk _ ordered)
  · rw [Spot.calls, List.mem_filter, decide_eq_true_iff]

/-- A node of the first line. -/
def onLine (field : Option String) (type text : String) (column : Int) (children : List Concrete) :
    Concrete :=
  ⟨type, field, Thunk.pure text, ⟨1, column⟩, children⟩

/-- The concrete tree of `a(b { }) { c }`. -/
def blocksInLine : Concrete :=
  onLine none "program" "" 0
    [ onLine none "call" "" 0
        [ onLine (some "method") "identifier" "a" 0 [],
          onLine (some "arguments") "argument_list" "" 1
            [ onLine none "call" "" 2
                [ onLine (some "method") "identifier" "b" 2 [],
                  onLine (some "block") "block" "" 4 [] ] ],
          onLine (some "block") "block" "" 9 [onLine none "identifier" "c" 11 []] ] ]

theorem blocks_of_tree_inLine :
    (∀ call ∈ (⟨0, blocksInLine⟩ : Spot).walk, call.node.type ∈ callTypes → call.IsOrdered) ∧
      ∃ root calls, tree blocksInLine = .ok root ∧
        root.blocks.map Node.location = [some ⟨1, 0⟩, some ⟨1, 2⟩] ∧
        calls.Sublist (⟨0, blocksInLine⟩ : Spot).walk ∧
        List.Forall₂ (fun call block => BlockOf call.node block) calls root.blocks := by
  have ordered : ∀ call ∈ (⟨0, blocksInLine⟩ : Spot).walk, call.node.type ∈ callTypes →
      call.IsOrdered := by
    simp [Spot.walk_eq, Spot.children, Spot.placed, blocksInLine, onLine, callTypes,
      Spot.IsOrdered, Spot.childAt?, Concrete.size, Concrete.forestSize]
  have places : (tree blocksInLine).map (fun root => root.blocks.map Node.location) =
      .ok [some ⟨1, 0⟩, some ⟨1, 2⟩] := by
    decide +kernel
  obtain ⟨root, converts, found⟩ := map_eq_ok_iff.mp places
  obtain ⟨calls, inOrder, -, become⟩ := (blocks_of_tree blocksInLine ordered).2.1 root converts
  exact ⟨ordered, root, calls, converts, found, inOrder, become⟩

end Ruby

end LetShadow
