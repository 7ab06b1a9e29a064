/-
**Which declarations a group makes directly.**

* `StandsIn` — a place is reached from another through rows of statements only.
* `DirectIn` — **a declaration made directly in a block:** a `let` that is reached from the block's
  body in this way. Nothing here follows the way in which the declarations are collected.
* `mem_directDeclarations` — **the collected declarations are these,** and
  `directDeclarations_sorted` puts them in source order.
* `directIn_iff_between` — **nothing but rows stands between a group and a direct declaration of it,**
  and this is all that it takes.
* `DirectIn.unique` — **a declaration belongs to one block at most:** between a block and its direct
  declarations there are rows of statements only, so a second block fits nowhere.
-/

import Mathlib.Data.List.Flatten
import LetShadow.Group.Declarations
import LetShadow.Proofs.Tree.Places

namespace LetShadow

/-- The body of a block at its place. -/
def Occurrence.body? (here : Occurrence) : Option Occurrence :=
  match here.node with
  | .block .. => here.children[1]?
  | _ => none

/-- A place is another one, or a statement in a row that is reached from it through rows only. -/
inductive StandsIn (top : Occurrence) : Occurrence → Prop
  | top : StandsIn top top
  | statement {row place : Occurrence} (inside : StandsIn top row)
      (sequence : row.node.kind = .sequence) (mem : place ∈ row.children) : StandsIn top place

/-- A `let` declaration that stands in the body of a block, looking through rows of statements. -/
def Occurrence.DirectIn (declaration block : Occurrence) : Prop :=
  declaration.node.isLet = true ∧ ∃ body ∈ block.body?, StandsIn body declaration

/-! ### Rows of statements -/

theorem StandsIn.in_row {row top place : Occurrence} (sequence : row.node.kind = .sequence)
    (mem : top ∈ row.children) (inside : StandsIn top place) : StandsIn row place := by
  induction inside with
  | top => exact .statement .top sequence mem
  | statement _ sequence mem ih => exact .statement ih sequence mem

/-- A place stands in a row of statements if it is the row or stands in one of them. -/
theorem standsIn_iff {top place : Occurrence} :
    StandsIn top place ↔
      place = top ∨ top.node.kind = .sequence ∧ ∃ child ∈ top.children, StandsIn child place := by
  constructor
  · intro inside
    induction inside with
    | top => exact Or.inl rfl
    | @statement row place _ sequence mem ih =>
      rcases ih with rfl | ⟨outer, child, childMem, below⟩
      · exact Or.inr ⟨sequence, place, mem, .top⟩
      · exact Or.inr ⟨outer, child, childMem, .statement below sequence mem⟩
  · rintro (rfl | ⟨sequence, child, childMem, below⟩)
    · exact .top
    · exact below.in_row sequence childMem

theorem StandsIn.mem_walk {top place : Occurrence} (inside : StandsIn top place) :
    place ∈ top.walk := by
  induction inside with
  | top => exact Occurrence.self_mem_walk _
  | statement _ _ mem ih => exact Occurrence.walk_trans (Occurrence.child_mem_walk mem) ih

/-- Whatever stands properly around a statement, but in the row it is reached from, is a row. -/
theorem StandsIn.kind_of_encloses {root top around place : Occurrence}
    (inside : StandsIn top place) (topMem : top ∈ root.walk) (aroundMem : around ∈ top.walk)
    (encloses : around.Encloses place) : around.node.kind = .sequence := by
  induction inside with
  | top =>
    have after := (Occurrence.walk_bounds aroundMem).1
    exact absurd (encloses.pos_lt.trans_le after) (lt_irrefl _)
  | @statement row place inRow sequence mem ih =>
    have rowMem := Occurrence.walk_trans inRow.mem_walk topMem
    have aroundInRoot := Occurrence.walk_trans aroundMem topMem
    have placeMem := Occurrence.walk_trans (Occurrence.child_mem_walk mem) rowMem
    obtain ⟨after, before⟩ := (Occurrence.encloses_iff_between aroundInRoot placeMem).mp encloses
    rcases lt_trichotomy around.pos row.pos with less | same | more
    · have last := (Occurrence.child_bounds mem).1
      exact ih ((Occurrence.encloses_iff_between aroundInRoot rowMem).mpr ⟨less, last.trans before⟩)
    · rwa [Occurrence.eq_of_pos_eq aroundInRoot rowMem same]
    · -- Else it would stand in the row without being one of the statements or standing in one.
      have rowBounds := Occurrence.child_bounds mem
      have placeLast := place.pos_lt_stop
      have inside : row.Encloses around :=
        (Occurrence.encloses_iff_between rowMem aroundInRoot).mpr ⟨more, by omega⟩
      obtain ⟨child, childMem, inChild⟩ := Occurrence.encloses_iff_child.mp inside
      have bounds := Occurrence.walk_bounds inChild
      obtain rfl := Occurrence.child_eq_of_shared place.pos childMem mem (by omega) (by omega)
      exact absurd bounds.1 (not_le.mpr after)

theorem Node.kind_ne_sequence_of_isLet {node : Node} (declares : node.isLet = true) :
    node.kind ≠ .sequence := by
  cases node with
  | sequence => cases declares
  | _ => exact fun equal => nomatch equal

/-! ### The collected declarations -/

namespace Occurrence

/-- The declarations that the tree at a place makes as a statement. -/
def statementDeclarations (here : Occurrence) : List Occurrence :=
  here.node.declarationsOnto here.pos []

theorem forestDeclarationsOnto_eq (nodes : List Node)
    (each : ∀ node ∈ nodes, ∀ pos rest,
      node.declarationsOnto pos rest = (⟨pos, node⟩ : Occurrence).statementDeclarations ++ rest)
    (pos : Nat) (rest : List Occurrence) :
    Node.forestDeclarationsOnto pos nodes rest =
      (placed pos nodes).flatMap statementDeclarations ++ rest := by
  induction nodes generalizing pos with
  | nil => rw [Node.forestDeclarationsOnto, placed, List.flatMap_nil, List.nil_append]
  | cons node others ih =>
    rw [Node.forestDeclarationsOnto, each node List.mem_cons_self,
      ih (fun other mem => each other (List.mem_cons_of_mem _ mem)), placed, List.flatMap_cons,
      List.append_assoc]

/-- What is collected from a tree goes in front of the rest. -/
theorem declarationsOnto_append (node : Node) (pos : Nat) (rest : List Occurrence) :
    node.declarationsOnto pos rest =
      (⟨pos, node⟩ : Occurrence).statementDeclarations ++ rest := by
  induction node using Node.children_induction generalizing pos rest with
  | step node ih =>
    by_cases sequence : node.kind = .sequence
    · cases node with
      | sequence statements location =>
        have each := forestDeclarationsOnto_eq statements fun child mem => ih child mem
        rw [statementDeclarations, Node.declarationsOnto, Node.declarationsOnto, each, each,
          List.append_nil]
      | _ => cases sequence
    · rw [statementDeclarations, Node.declarationsOnto_eq _ _ _ sequence,
        Node.declarationsOnto_eq _ _ _ sequence]
      split <;> rfl

/-- A row of statements makes the declarations of its statements, any other node at most itself. -/
theorem statementDeclarations_eq (here : Occurrence) :
    here.statementDeclarations =
      if here.node.kind = .sequence then here.children.flatMap statementDeclarations
      else if here.node.isLet then [here] else [] := by
  obtain ⟨pos, node⟩ := here
  by_cases sequence : node.kind = .sequence
  · rw [if_pos sequence]
    cases node with
    | sequence statements location =>
      have each := forestDeclarationsOnto_eq statements fun child _ => declarationsOnto_append child
      rw [statementDeclarations, Node.declarationsOnto, each, List.append_nil]
      rfl
    | _ => cases sequence
  · rw [if_neg sequence, statementDeclarations, Node.declarationsOnto_eq _ _ _ sequence]

theorem mem_statementDeclarations {here place : Occurrence} :
    place ∈ here.statementDeclarations ↔ place.node.isLet = true ∧ StandsIn here place := by
  induction here using places_induction with
  | step here ih =>
    rw [statementDeclarations_eq, standsIn_iff]
    by_cases sequence : here.node.kind = .sequence
    · have notHere : place.node.isLet = true → place ≠ here := by
        rintro declares rfl
        exact Node.kind_ne_sequence_of_isLet declares sequence
      rw [if_pos sequence, List.mem_flatMap]
      constructor
      · rintro ⟨child, childMem, inChild⟩
        obtain ⟨declares, below⟩ := (ih child childMem).mp inChild
        exact ⟨declares, Or.inr ⟨sequence, child, childMem, below⟩⟩
      · rintro ⟨declares, same | ⟨_, child, childMem, below⟩⟩
        · exact absurd same (notHere declares)
        · exact ⟨child, childMem, (ih child childMem).mpr ⟨declares, below⟩⟩
    · rw [if_neg sequence]
      constructor
      · intro mem
        split at mem
        · rename_i declares
          obtain rfl := List.mem_singleton.mp mem
          exact ⟨declares, Or.inl rfl⟩
        · cases mem
      · rintro ⟨declares, rfl | ⟨row, _⟩⟩
        · rw [if_pos declares]
          exact List.mem_singleton_self _
        · exact absurd row sequence

theorem statementDeclarations_sublist (here : Occurrence) :
    here.statementDeclarations.Sublist here.walk := by
  induction here using places_induction with
  | step here ih =>
    rw [statementDeclarations_eq, walk_eq]
    split
    · exact (List.Sublist.flatMap_right _ ih).cons _
    · split
      · exact List.singleton_sublist.mpr List.mem_cons_self
      · exact List.nil_sublist _

/-- A block's direct declarations are those that its body makes as a statement. -/
theorem directDeclarations_eq_body (block : Occurrence) :
    block.directDeclarations = (block.body?.map statementDeclarations).getD [] := by
  obtain ⟨pos, node⟩ := block
  cases node with
  | block invocation body location => cases body <;> rfl
  | _ => rfl

theorem body_mem_children {block body : Occurrence} (found : body ∈ block.body?) :
    body ∈ block.children := by
  unfold body? at found
  split at found
  · exact List.mem_of_getElem? found
  · cases found

/-- **The collected declarations of a block are the ones made directly in it.** -/
theorem mem_directDeclarations {block declaration : Occurrence} :
    declaration ∈ block.directDeclarations ↔ declaration.DirectIn block := by
  rw [directDeclarations_eq_body, DirectIn]
  cases block.body? with
  | none => simp
  | some body => simp [mem_statementDeclarations]

/-- **They stand in source order,** each once. -/
theorem directDeclarations_sorted (block : Occurrence) :
    block.directDeclarations.Pairwise fun first second => first.pos < second.pos := by
  rw [directDeclarations_eq_body]
  cases block.body? with
  | none => exact List.Pairwise.nil
  | some body => exact (walk_sorted body).sublist (statementDeclarations_sublist body)

/-! ### One block for each declaration -/

theorem DirectIn.encloses {declaration block : Occurrence} (direct : declaration.DirectIn block) :
    block.Encloses declaration := by
  obtain ⟨_, body, found, inside⟩ := direct
  have outer : block.Encloses body := Relation.TransGen.single (body_mem_children found)
  rcases mem_walk_iff_encloses.mp inside.mem_walk with rfl | below
  · exact outer
  · exact outer.trans below

theorem DirectIn.kind_ne_sequence {declaration block : Occurrence}
    (direct : declaration.DirectIn block) : block.node.kind ≠ .sequence := by
  obtain ⟨_, body, found, _⟩ := direct
  unfold body? at found
  split at found
  · rename_i shape
    rw [shape]
    exact fun equal => nomatch equal
  · cases found

/-- Between a block and its direct declaration there are rows of statements only. -/
theorem DirectIn.kind_between {root declaration block between : Occurrence}
    (direct : declaration.DirectIn block) (blockMem : block ∈ root.walk)
    (outer : block.Encloses between) (inner : between.Encloses declaration) :
    between.node.kind = .sequence := by
  obtain ⟨_, body, found, inside⟩ := direct
  have bodyMem := body_mem_children found
  obtain ⟨child, childMem, inChild⟩ := encloses_iff_child.mp outer
  have shared := walk_bounds (walk_trans inner.mem_walk inChild)
  have bodyBounds := walk_bounds inside.mem_walk
  have last := declaration.pos_lt_stop
  obtain rfl := child_eq_of_shared declaration.pos childMem bodyMem (by omega) (by omega)
  exact inside.kind_of_encloses (walk_trans (child_mem_walk bodyMem) blockMem) inChild inner

/-- A place stands in another if everything around it there is a row. -/
theorem standsIn_of_between {top place : Occurrence} (mem : place ∈ top.walk)
    (rows : ∀ around ∈ top.walk, around.Encloses place → around.node.kind = .sequence) :
    StandsIn top place := by
  induction top using places_induction with
  | step top ih =>
    rcases mem_walk.mp mem with rfl | ⟨child, childMem, inChild⟩
    · exact .top
    · have row := rows top (self_mem_walk top) (encloses_iff_child.mpr ⟨child, childMem, inChild⟩)
      have below := ih child childMem inChild fun around aroundMem =>
        rows around (walk_trans aroundMem (child_mem_walk childMem))
      exact below.in_row row childMem

/-- The call that opens a group is no declaration. -/
theorem isLet_of_opensGroup {invocation : Call Node} (opens : invocation.opensGroup = true) :
    (Node.call invocation).isLet = false := by
  have disjoint : ∀ method ∈ groupMethods, method ∉ letMethods := by decide
  have isGroupMethod : invocation.method ∈ groupMethods :=
    List.contains_iff_mem.mp (Bool.and_eq_true_iff.mp opens).1
  have noLet : letMethods.contains invocation.method = false :=
    Bool.eq_false_iff.mpr fun declares =>
      disjoint _ isGroupMethod (List.contains_iff_mem.mp declares)
  show invocation.declaresLet = false
  rw [Call.declaresLet, noLet, Bool.and_false]

/-- **A group's direct declarations are those from which only rows separate it.** -/
theorem directIn_iff_between {root group declaration : Occurrence} (groupMem : group ∈ root.walk)
    (isGroup : group.node.isGroup = true) :
    declaration.DirectIn group ↔
      declaration.node.isLet = true ∧ group.Encloses declaration ∧
        ∀ between, group.Encloses between → between.Encloses declaration →
          between.node.kind = .sequence := by
  constructor
  · intro direct
    exact ⟨direct.1, direct.encloses, fun between => direct.kind_between groupMem⟩
  · rintro ⟨declares, encloses, rows⟩
    obtain ⟨child, childMem, inChild⟩ := encloses_iff_child.mp encloses
    obtain ⟨pos, node⟩ := group
    cases node with
    | block invocation body place =>
      rcases List.mem_cons.mp childMem with rfl | isBody
      · -- The call of the group is neither a declaration nor a row.
        exfalso
        rcases mem_walk_iff_encloses.mp inChild with rfl | below
        · rw [isLet_of_opensGroup isGroup] at declares
          cases declares
        · cases rows _ (Relation.TransGen.single childMem) below
      · cases body with
        | none => cases isBody
        | some body =>
          obtain rfl := List.mem_singleton.mp isBody
          refine ⟨declares, _, rfl, standsIn_of_between inChild fun around aroundMem below => ?_⟩
          have first : Encloses ⟨pos, .block invocation (some body) place⟩ _ :=
            Relation.TransGen.single childMem
          rcases mem_walk_iff_encloses.mp aroundMem with rfl | deeper
          · exact rows _ first below
          · exact rows _ (first.trans deeper) below
    | _ => cases isGroup

/-- No block between a block and its direct declaration has that declaration as well. -/
theorem DirectIn.not_encloses {root declaration outer inner : Occurrence}
    (ofOuter : declaration.DirectIn outer) (ofInner : declaration.DirectIn inner)
    (outerMem : outer ∈ root.walk) : ¬ outer.Encloses inner := fun below =>
  ofInner.kind_ne_sequence (ofOuter.kind_between outerMem below ofInner.encloses)

/-- **A declaration is made directly in one block at most.** -/
theorem DirectIn.unique {root declaration first second : Occurrence}
    (left : declaration.DirectIn first) (right : declaration.DirectIn second)
    (firstMem : first ∈ root.walk) (secondMem : second ∈ root.walk) : first = second := by
  have inFirst := walk_bounds left.encloses.mem_walk
  have inSecond := walk_bounds right.encloses.mem_walk
  have last := declaration.pos_lt_stop
  rcases lt_trichotomy first.pos second.pos with less | same | more
  · refine absurd ?_ (left.not_encloses right firstMem)
    exact (encloses_iff_between firstMem secondMem).mpr ⟨less, by omega⟩
  · exact eq_of_pos_eq firstMem secondMem same
  · refine absurd ?_ (right.not_encloses left secondMem)
    exact (encloses_iff_between secondMem firstMem).mpr ⟨more, by omega⟩

end Occurrence

end LetShadow
