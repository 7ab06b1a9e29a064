/-
**The scope index tells exactly what stands around a node.**

* `placesAround` — the places of a tree that stand properly around a position, nearest first, read
  off the pre-order walk of the tree.
* `above_ofTree` — **the index of a tree knows these and no others,** for every position: for the
  root and for positions outside the tree it knows nothing.
* `mem_placesAround` — within one tree they are the places that enclose the node.

The chains of a tree are written down in one pass over it. The pass goes along with the walk: each
place is entered with the places around it, and to its children it goes on with one place more.
-/

import LetShadow.Scope.Index
import LetShadow.Proofs.Tree.Places

namespace LetShadow

namespace Occurrence

/-- Does the tree at a place hold the position, other than as its root? -/
def covers (here : Occurrence) (pos : Nat) : Bool :=
  decide (here.pos < pos ∧ pos < here.stop)

theorem covers_iff {here : Occurrence} {pos : Nat} :
    here.covers pos = true ↔ here.pos < pos ∧ pos < here.stop :=
  decide_eq_true_iff

/-- The places of the tree at `root` that stand properly around a position, nearest first. -/
def placesAround (root : Occurrence) (pos : Nat) : List Occurrence :=
  (root.walk.filter fun outer => outer.covers pos).reverse

/-- The example groups among them. -/
def groupsAround (root : Occurrence) (pos : Nat) : List Occurrence :=
  (root.placesAround pos).filter fun outer => outer.node.isGroup

/-- **Within one tree they are the places that enclose the node.** -/
theorem mem_placesAround {tree root outer inner : Occurrence} (rootMem : root ∈ tree.walk)
    (innerMem : inner ∈ tree.walk) :
    outer ∈ root.placesAround inner.pos ↔ outer ∈ root.walk ∧ outer.Encloses inner := by
  rw [placesAround, List.mem_reverse, List.mem_filter, covers_iff]
  refine and_congr_right fun outerMem => ?_
  exact (encloses_iff_between (walk_trans outerMem rootMem) innerMem).symm

/-- Around a position outside a tree, or of its root, stands nothing of it. -/
theorem placesAround_eq_nil {root : Occurrence} {pos : Nat}
    (outside : pos ≤ root.pos ∨ root.stop ≤ pos) : root.placesAround pos = [] := by
  rw [placesAround, List.reverse_eq_nil_iff, List.filter_eq_nil_iff]
  intro outer mem covers
  have bounds := walk_bounds mem
  rw [covers_iff] at covers
  omega

/-- Around a place below a child stands what stands around it below that child, and the parent. -/
theorem placesAround_child {here child place : Occurrence} (childMem : child ∈ here.children)
    (placeMem : place ∈ child.walk) :
    here.placesAround place.pos = child.placesAround place.pos ++ [here] := by
  have outer := child_bounds childMem
  have inner := walk_bounds placeMem
  have last := place.pos_lt_stop
  have hereCovers : here.covers place.pos = true := covers_iff.mpr (by omega)
  have below : (here.children.flatMap walk).filter (fun outer => outer.covers place.pos) =
      child.walk.filter fun outer => outer.covers place.pos := by
    have sorted := walk_sorted here
    rw [walk_eq] at sorted
    refine eq_of_sorted ((List.Pairwise.of_cons sorted).filter _) ((walk_sorted child).filter _) ?_
    intro found
    rw [List.mem_filter, List.mem_filter, List.mem_flatMap]
    constructor
    · rintro ⟨⟨other, otherMem, inOther⟩, covers⟩
      have bounds := walk_bounds inOther
      have between := covers_iff.mp covers
      obtain rfl := child_eq_of_shared place.pos otherMem childMem (by omega) (by omega)
      exact ⟨inOther, covers⟩
    · rintro ⟨inChild, covers⟩
      exact ⟨⟨child, childMem, inChild⟩, covers⟩
  rw [placesAround, walk_eq, List.filter_cons, if_pos hereCovers, below, List.reverse_cons,
    placesAround]

end Occurrence

namespace ScopeIndex

open Occurrence

/-- The chains of a tree whose root stands in `above`, in the order of its walk. -/
def chainsOf (above : List Occurrence) (here : Occurrence) : List (List Occurrence) :=
  here.walk.map fun place => here.placesAround place.pos ++ above

@[simp]
theorem length_chainsOf (above : List Occurrence) (here : Occurrence) :
    (chainsOf above here).length = here.node.size := by
  have positions := congrArg List.length here.walk_positions
  simpa [chainsOf] using positions

/-- The root has the chain that it is entered with, and its children's have the root in front. -/
theorem chainsOf_eq (above : List Occurrence) (here : Occurrence) :
    chainsOf above here = above :: here.children.flatMap (chainsOf (here :: above)) := by
  have none : here.placesAround here.pos = [] := placesAround_eq_nil (Or.inl le_rfl)
  rw [chainsOf, walk_eq, List.map_cons, none, List.nil_append, List.map_flatMap]
  congr 1
  refine List.flatMap_congr fun child childMem => ?_
  refine List.map_congr_left fun place placeMem => ?_
  rw [placesAround_child childMem placeMem, List.append_assoc, List.singleton_append]

/-- A tree is traced by entering its root and tracing its children. -/
theorem trace_eq (base : Nat) (above : List Occurrence) (node : Node)
    (chains : Array (List Occurrence)) :
    trace base above node chains =
      forestTrace base (⟨base + chains.size, node⟩ :: above) node.children (chains.push above) := by
  cases node with
  | call invocation => obtain ⟨_, _, _ | _, _⟩ := invocation <;> rfl
  | block invocation body _ =>
    obtain ⟨_, _, _ | _, _⟩ := invocation <;> cases body <;>
      simp [trace, callTrace, forestTrace, Node.children, Nat.add_assoc]
  | _ => rfl

theorem forestTrace_toList (base : Nat) (nodes : List Node)
    (each : ∀ node ∈ nodes, ∀ (above : List Occurrence) (chains : Array (List Occurrence)),
      (trace base above node chains).toList =
        chains.toList ++ chainsOf above ⟨base + chains.size, node⟩)
    (above : List Occurrence) (chains : Array (List Occurrence)) :
    (forestTrace base above nodes chains).toList =
      chains.toList ++ (placed (base + chains.size) nodes).flatMap (chainsOf above) := by
  induction nodes generalizing chains with
  | nil => simp [forestTrace, placed]
  | cons node rest ih =>
    have first := each node List.mem_cons_self above chains
    have size : (trace base above node chains).size = chains.size + node.size := by
      rw [← Array.length_toList, first, List.length_append, length_chainsOf, Array.length_toList]
    rw [forestTrace, ih (fun other mem => each other (List.mem_cons_of_mem _ mem)), first, size,
      placed, List.flatMap_cons, List.append_assoc, Nat.add_assoc]

/-- **The pass over a tree adds its chains in the order of the walk.** -/
theorem trace_toList (base : Nat) (above : List Occurrence) (node : Node)
    (chains : Array (List Occurrence)) :
    (trace base above node chains).toList =
      chains.toList ++ chainsOf above ⟨base + chains.size, node⟩ := by
  induction node using Node.children_induction generalizing above chains with
  | step node ih =>
    rw [trace_eq, forestTrace_toList base node.children ih, chainsOf_eq, Array.toList_push,
      Array.size_push, List.append_assoc, List.singleton_append, ← Nat.add_assoc]
    rfl

theorem above_of_le {index : ScopeIndex} {pos : Nat} (after : index.root ≤ pos) :
    index.above pos = index.chains.toList[pos - index.root]?.getD [] := by
  rw [above, if_pos after, Array.getElem?_toList]

theorem chains_ofTree (root : Occurrence) :
    (ofTree root).chains.toList =
      (List.range' root.pos root.node.size).map root.placesAround := by
  rw [ofTree, trace_toList, chainsOf, ← walk_positions, List.map_map]
  simp [Function.comp_def]

/-- **The index of a tree tells what stands around a position, and nothing else.** -/
theorem above_ofTree (root : Occurrence) (pos : Nat) :
    (ofTree root).above pos = root.placesAround pos := by
  have start : (ofTree root).root = root.pos := rfl
  by_cases after : root.pos ≤ pos
  · rw [above_of_le after, start, chains_ofTree, List.getElem?_map]
    by_cases before : pos - root.pos < root.node.size
    · rw [List.getElem?_range' before]
      simp [Nat.add_sub_cancel' after]
    · have outside : root.stop ≤ pos := by
        rw [stop]
        omega
      rw [List.getElem?_eq_none (by rw [List.length_range']; omega),
        placesAround_eq_nil (Or.inr outside)]
      rfl
  · rw [above, start, if_neg after, placesAround_eq_nil (Or.inl (not_le.mp after).le)]

theorem enclosing_ofTree (root : Occurrence) (pos : Nat) :
    (ofTree root).enclosing pos = root.groupsAround pos := by
  rw [enclosing, above_ofTree, groupsAround]

end ScopeIndex

end LetShadow
