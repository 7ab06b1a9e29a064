/-
**The places of a concrete tree.**

Equal nodes may stand at several places of a concrete tree. A `Spot` tells them apart: it is a node
together with its position, the number of nodes that stand before it in pre-order.

* `Spot.walk` — **the tree at a spot in pre-order;** its positions are consecutive (`walk_positions`).
* `sublist_of_sorted` — what stands in order among the children is a part of their list.
* `walk_of_listing` — **a listing is the walk of the tree that is made of it:** the entry of a number
  lists the node at that position.
-/

import Mathlib.Data.List.Forall2
import Mathlib.Data.List.Sort
import LetShadow.Ruby.Concrete

namespace LetShadow.Ruby

/-- A node of a concrete tree at its place, given by the number of nodes before it in pre-order. -/
structure Spot where
  pos : Nat
  node : Concrete

namespace Spot

/-! ### Children -/

/-- Trees side by side, the first of them at position `pos`. -/
def placed (pos : Nat) : List Concrete → List Spot
  | [] => []
  | node :: rest => ⟨pos, node⟩ :: placed (pos + node.size) rest

/-- The children of a node at their places. -/
def children (here : Spot) : List Spot :=
  placed (here.pos + 1) here.node.children

/-- The first child under a field. -/
def childAt? (here : Spot) (field : String) : Option Spot :=
  here.children.find? fun child => child.node.field == some field

@[simp]
theorem map_node_placed (pos : Nat) (nodes : List Concrete) :
    (placed pos nodes).map node = nodes := by
  induction nodes generalizing pos with
  | nil => rfl
  | cons first rest ih => simp [placed, ih]

theorem placed_append (pos : Nat) (first second : List Concrete) :
    placed pos (first ++ second) =
      placed pos first ++ placed (pos + Concrete.forestSize first) second := by
  induction first generalizing pos with
  | nil => simp [placed, Concrete.forestSize]
  | cons node rest ih => simp [placed, Concrete.forestSize, ih, Nat.add_assoc]

@[simp]
theorem map_node_children (here : Spot) : here.children.map node = here.node.children :=
  map_node_placed _ _

/-- The child under a field stands where the node has it. -/
theorem map_node_childAt? (here : Spot) (field : String) :
    (here.childAt? field).map node = here.node.childAt? field := by
  unfold childAt? Concrete.childAt?
  rw [← map_node_children, List.find?_map]
  rfl

theorem mem_of_childAt? {here child : Spot} {field : String}
    (found : here.childAt? field = some child) : child ∈ here.children :=
  List.mem_of_find?_eq_some found

theorem child_size_lt {here child : Spot} (mem : child ∈ here.children) :
    child.node.size < here.node.size := by
  have among : child.node ∈ here.node.children := by
    rw [← map_node_children]
    exact List.mem_map_of_mem mem
  have inside := Concrete.size_le_forestSize among
  rw [Concrete.size_eq here.node]
  omega

/-- What passes from the children of every spot to the spot holds of all spots. -/
theorem spots_induction {motive : Spot → Prop}
    (step : ∀ here, (∀ child ∈ here.children, motive child) → motive here) (here : Spot) :
    motive here :=
  step here fun child mem => by
    have := child_size_lt mem
    exact spots_induction step child
termination_by here.node.size

/-! ### Walks -/

/-- The spots of a tree in pre-order. -/
def walk (here : Spot) : List Spot :=
  here :: here.children.attach.flatMap fun child => child.1.walk
termination_by here.node.size
decreasing_by exact child_size_lt child.2

theorem walk_eq (here : Spot) : here.walk = here :: here.children.flatMap walk := by
  rw [walk, List.flatMap_subtype, List.unattach_attach]
  exact fun _ _ => rfl

theorem self_mem_walk (here : Spot) : here ∈ here.walk := by
  rw [walk_eq]
  exact List.mem_cons_self

theorem child_walk_subset {here child : Spot} (mem : child ∈ here.children) :
    child.walk ⊆ here.walk := by
  intro place inside
  rw [walk_eq]
  exact List.mem_cons_of_mem _ (List.mem_flatMap.mpr ⟨child, mem, inside⟩)

/-- The tree at a spot of a tree is part of it. -/
theorem walk_trans {root here place : Spot} (inner : place ∈ here.walk)
    (outer : here ∈ root.walk) : place ∈ root.walk := by
  induction root using spots_induction with
  | step root ih =>
    rw [walk_eq] at outer
    rcases List.mem_cons.mp outer with rfl | below
    · exact inner
    · obtain ⟨child, mem, inChild⟩ := List.mem_flatMap.mp below
      exact child_walk_subset mem (ih child mem inChild)

/-- The positions of a walk are consecutive, and there are as many as the tree has nodes. -/
theorem walk_positions (here : Spot) :
    here.walk.map pos = List.range' here.pos here.node.size := by
  induction here using spots_induction with
  | step here ih =>
    have forest : ∀ (nodes : List Concrete) (start : Nat),
        (∀ child ∈ placed start nodes, child.walk.map pos = List.range' child.pos child.node.size) →
        ((placed start nodes).flatMap walk).map pos =
          List.range' start (Concrete.forestSize nodes) := by
      intro nodes
      induction nodes with
      | nil => intro start _; rfl
      | cons node rest others =>
        intro start each
        have first := each ⟨start, node⟩ List.mem_cons_self
        have later := others _ fun child mem => each child (List.mem_cons_of_mem _ mem)
        simp only [placed, List.flatMap_cons, List.map_append, first, later, Concrete.forestSize]
        rw [List.range'_append_1]
    rw [walk_eq, List.map_cons, children, forest _ _ ih, Concrete.size_eq, Nat.add_comm 1,
      List.range'_succ]

theorem walk_sorted (here : Spot) :
    here.walk.Pairwise fun first second => first.pos < second.pos := by
  have positions : (here.walk.map pos).Pairwise (· < ·) := by
    rw [walk_positions]
    exact List.pairwise_lt_range'
  exact List.pairwise_map.mp positions

theorem children_sorted (here : Spot) :
    here.children.Pairwise fun first second => first.pos < second.pos := by
  have single : ∀ child : Spot, [child].Sublist child.walk := by
    intro child
    rw [walk_eq]
    exact List.singleton_sublist.mpr List.mem_cons_self
  have sub : ∀ spots : List Spot, spots.Sublist (spots.flatMap walk) := by
    intro spots
    induction spots with
    | nil => exact List.Sublist.refl _
    | cons spot rest ih => exact (single spot).append ih
  refine (walk_sorted here).sublist ((sub _).trans ?_)
  rw [walk_eq]
  exact List.sublist_cons_self _ _

/-- Spots in increasing position are a part of any such list that holds them all. -/
theorem sublist_of_sorted {some all : List Spot}
    (someSorted : some.Pairwise fun first second => first.pos < second.pos)
    (allSorted : all.Pairwise fun first second => first.pos < second.pos)
    (among : ∀ place ∈ some, place ∈ all) : some.Sublist all := by
  have antisymmetric : Std.Antisymm fun first second : Spot => first.pos < second.pos :=
    ⟨fun _ _ less more => absurd (less.trans more) (lt_irrefl _)⟩
  have distinct : some.Nodup := by
    refine someSorted.imp ?_
    rintro first _ less rfl
    exact lt_irrefl _ less
  exact List.sublist_of_subperm_of_pairwise (List.subperm_of_subset distinct among) someSorted
    allSorted

end Spot

/-! ### Listings -/

/-- An entry lists a node: it tells its type, field, text and place, and how many children it has.
Rows and columns of entries count from zero, the lines of places from one. -/
structure Concrete.Entry.Lists (bytes : ByteArray) (entry : Concrete.Entry) (node : Concrete) :
    Prop where
  type : node.type = entry.type
  field : node.field = entry.field
  text : node.text = Concrete.textOf bytes entry.start entry.stop
  place : node.location = ⟨entry.row + 1, entry.column⟩
  children : node.children.length = entry.childCount

/-- The trees on the stack, side by side, are listed by the entries that have been read. -/
theorem forall₂_lists_of_foldlM {bytes : ByteArray} {entries : List Concrete.Entry}
    {stack : List Concrete}
    (read : entries.reverse.foldlM (Concrete.attach bytes) [] = some stack) (pos : Nat) :
    List.Forall₂ (fun entry place => Concrete.Entry.Lists bytes entry place.node) entries
      ((Spot.placed pos stack).flatMap Spot.walk) := by
  induction entries generalizing stack pos with
  | nil =>
    cases read
    exact .nil
  | cons entry rest ih =>
    rw [List.reverse_cons, List.foldlM_append] at read
    obtain ⟨before, earlier, attached⟩ := Option.bind_eq_some_iff.mp read
    replace attached : Concrete.attach bytes before entry = some stack := by
      simpa using attached
    unfold Concrete.attach at attached
    dsimp only at attached
    split at attached
    · cases attached
    · rename_i enough
      cases attached
      have inside := ih earlier (pos + 1)
      rw [← List.take_append_drop entry.childCount before, Spot.placed_append,
        List.flatMap_append] at inside
      rw [Spot.placed, List.flatMap_cons, Spot.walk_eq, List.cons_append, Concrete.size_eq,
        ← Nat.add_assoc]
      refine .cons ⟨rfl, rfl, rfl, rfl, ?_⟩ inside
      have most := List.length_take_le entry.childCount before
      show (before.take entry.childCount).length = _
      omega

/-- **A listing is the walk of its tree.** -/
theorem walk_of_listing {bytes : ByteArray} {entries : List Concrete.Entry} {source : Concrete}
    (listed : Concrete.ofListing? bytes entries = some source) :
    List.Forall₂ (fun entry place => Concrete.Entry.Lists bytes entry place.node) entries
      (⟨0, source⟩ : Spot).walk := by
  unfold Concrete.ofListing? at listed
  split at listed
  · rename_i root read
    cases listed
    have whole := forall₂_lists_of_foldlM read 0
    rwa [Spot.placed, Spot.placed, List.flatMap_singleton] at whole
  · cases listed

end LetShadow.Ruby
