/-
**The places of one tree: order and nesting.**

The tree at a place takes up the positions from its own up to, and without, `stop`. Of two places of
one tree either one stands in the other, or all of one tree lies before all of the other.

* `walk_sorted` — a walk meets its places in strictly increasing position, so **a place of a tree is
  known by its position** (`eq_of_pos_eq`).
* `eq_of_sorted` — a list of places in increasing position is known by its members.
* `mem_walk_iff_between` — **standing in a tree is a matter of positions.**
* `Encloses` — one place stands properly in another: it is a child, or in a child, of it.
  `encloses_iff_between` puts this in positions too.
-/

import Mathlib.Data.List.Pairwise
import Mathlib.Data.List.Sort
import Mathlib.Logic.Relation
import LetShadow.Syntax.Occurrence

namespace LetShadow

namespace Occurrence

/-- The position after the last node of the tree at a place. -/
def stop (here : Occurrence) : Nat :=
  here.pos + here.node.size

theorem pos_lt_stop (here : Occurrence) : here.pos < here.stop :=
  Nat.lt_add_of_pos_right here.node.size_pos

/-! ### Trees side by side -/

theorem mem_placed {child : Occurrence} {nodes : List Node} {pos : Nat}
    (mem : child ∈ placed pos nodes) :
    child.node ∈ nodes ∧ pos ≤ child.pos ∧ child.stop ≤ pos + Node.forestSize nodes := by
  induction nodes generalizing pos with
  | nil => cases mem
  | cons node rest ih =>
    rw [placed] at mem
    rcases List.mem_cons.mp mem with rfl | later
    · refine ⟨List.mem_cons_self, le_rfl, ?_⟩
      show pos + node.size ≤ pos + Node.forestSize (node :: rest)
      rw [Node.forestSize]
      omega
    · obtain ⟨among, after, before⟩ := ih later
      refine ⟨List.mem_cons_of_mem _ among, by omega, ?_⟩
      rw [Node.forestSize]
      omega

/-- Each of the trees side by side ends before the next begins. -/
theorem placed_apart (pos : Nat) (nodes : List Node) :
    (placed pos nodes).Pairwise fun first second => first.stop ≤ second.pos := by
  induction nodes generalizing pos with
  | nil => exact List.Pairwise.nil
  | cons node rest ih =>
    rw [placed]
    exact List.Pairwise.cons (fun later mem => (mem_placed mem).2.1) (ih _)

theorem child_bounds {here child : Occurrence} (mem : child ∈ here.children) :
    here.pos < child.pos ∧ child.stop ≤ here.stop := by
  obtain ⟨_, after, before⟩ := mem_placed mem
  have size := Node.size_eq here.node
  rw [stop] at before ⊢
  rw [stop]
  omega

theorem child_size_lt {here child : Occurrence} (mem : child ∈ here.children) :
    child.node.size < here.node.size :=
  Node.size_lt_of_mem_children (mem_placed mem).1

/-- What passes from the children of every place to the place holds of all places. -/
theorem places_induction {motive : Occurrence → Prop}
    (step : ∀ here, (∀ child ∈ here.children, motive child) → motive here) (here : Occurrence) :
    motive here :=
  step here fun child mem => by
    have := child_size_lt mem
    exact places_induction step child
termination_by here.node.size

/-- Two children of a place that share a position are the same. -/
theorem child_eq_of_shared {here first second : Occurrence} (pos : Nat)
    (left : first ∈ here.children) (right : second ∈ here.children)
    (inFirst : first.pos ≤ pos ∧ pos < first.stop)
    (inSecond : second.pos ≤ pos ∧ pos < second.stop) : first = second := by
  by_contra different
  have symmetric : Std.Symm fun one other : Occurrence =>
      one.stop ≤ other.pos ∨ other.stop ≤ one.pos :=
    ⟨fun _ _ => Or.symm⟩
  have apart : here.children.Pairwise fun one other =>
      one.stop ≤ other.pos ∨ other.stop ≤ one.pos :=
    (placed_apart _ _).imp Or.inl
  rcases apart.forall left right different with before | after <;> omega

/-! ### Walks -/

theorem mem_walk {here place : Occurrence} :
    place ∈ here.walk ↔ place = here ∨ ∃ child ∈ here.children, place ∈ child.walk := by
  rw [walk_eq, List.mem_cons, List.mem_flatMap]

theorem self_mem_walk (here : Occurrence) : here ∈ here.walk :=
  mem_walk.mpr (Or.inl rfl)

theorem child_mem_walk {here child : Occurrence} (mem : child ∈ here.children) :
    child ∈ here.walk :=
  mem_walk.mpr (Or.inr ⟨child, mem, self_mem_walk child⟩)

/-- The tree at a place of a tree is part of it. -/
theorem walk_trans {root here place : Occurrence} (inner : place ∈ here.walk)
    (outer : here ∈ root.walk) : place ∈ root.walk := by
  induction root using places_induction with
  | step root ih =>
    rcases mem_walk.mp outer with rfl | ⟨child, mem, inChild⟩
    · exact inner
    · exact mem_walk.mpr (Or.inr ⟨child, mem, ih child mem inChild⟩)

theorem walk_sorted (here : Occurrence) :
    here.walk.Pairwise fun first second => first.pos < second.pos := by
  have positions : (here.walk.map pos).Pairwise (· < ·) := by
    rw [walk_positions]
    exact List.pairwise_lt_range'
  exact List.pairwise_map.mp positions

theorem walk_bounds {here place : Occurrence} (mem : place ∈ here.walk) :
    here.pos ≤ place.pos ∧ place.stop ≤ here.stop := by
  induction here using places_induction with
  | step here ih =>
    rcases mem_walk.mp mem with rfl | ⟨child, childMem, inChild⟩
    · exact ⟨le_rfl, le_rfl⟩
    · have outer := child_bounds childMem
      have inner := ih child childMem inChild
      omega

/-- **A place of a tree is known by its position.** -/
theorem eq_of_pos_eq {root first second : Occurrence} (left : first ∈ root.walk)
    (right : second ∈ root.walk) (same : first.pos = second.pos) : first = second := by
  have injective : (root.walk.map pos).Nodup := by
    rw [walk_positions]
    exact List.nodup_range'
  exact List.inj_on_of_nodup_map injective left right same

theorem exists_mem_walk {here : Occurrence} {position : Nat} (after : here.pos ≤ position)
    (before : position < here.stop) : ∃ place ∈ here.walk, place.pos = position := by
  have among : position ∈ here.walk.map pos := by
    rw [walk_positions, List.mem_range'_1]
    exact ⟨after, before⟩
  exact List.mem_map.mp among

/-- Lists of places in strictly increasing position are equal if they have the same members. -/
theorem eq_of_sorted {first second : List Occurrence}
    (left : first.Pairwise fun earlier later => earlier.pos < later.pos)
    (right : second.Pairwise fun earlier later => earlier.pos < later.pos)
    (same : ∀ place, place ∈ first ↔ place ∈ second) : first = second := by
  have distinct : ∀ {earlier later : Occurrence}, earlier.pos < later.pos → earlier ≠ later := by
    rintro earlier _ less rfl
    exact lt_irrefl _ less
  have permuted : first.Perm second :=
    (List.perm_ext_iff_of_nodup (left.imp distinct) (right.imp distinct)).mpr same
  refine permuted.eq_of_pairwise (fun _ _ _ _ less more => ?_) left right
  exact absurd (less.trans more) (lt_irrefl _)

/-- **In one tree, standing in a place is a matter of positions.** -/
theorem mem_walk_iff_between {root here place : Occurrence} (outer : here ∈ root.walk)
    (mem : place ∈ root.walk) :
    place ∈ here.walk ↔ here.pos ≤ place.pos ∧ place.pos < here.stop := by
  constructor
  · intro inner
    have bounds := walk_bounds inner
    have last := place.pos_lt_stop
    omega
  · rintro ⟨after, before⟩
    obtain ⟨found, inner, same⟩ := exists_mem_walk after before
    rwa [← eq_of_pos_eq (walk_trans inner outer) mem same]

/-- **Of two places of a tree the later stands in the earlier, or after all of it.** -/
theorem mem_walk_or_stop_le {root here place : Occurrence} (outer : here ∈ root.walk)
    (mem : place ∈ root.walk) (later : here.pos ≤ place.pos) :
    place ∈ here.walk ∨ here.stop ≤ place.pos := by
  by_cases before : place.pos < here.stop
  · exact Or.inl ((mem_walk_iff_between outer mem).mpr ⟨later, before⟩)
  · exact Or.inr (not_lt.mp before)

/-! ### Standing properly in a place -/

/-- The inner place is a child of the outer one, or stands properly in a child of it. -/
def Encloses : Occurrence → Occurrence → Prop :=
  Relation.TransGen fun parent child => child ∈ parent.children

theorem mem_walk_iff_encloses {outer inner : Occurrence} :
    inner ∈ outer.walk ↔ inner = outer ∨ outer.Encloses inner := by
  constructor
  · intro mem
    induction outer using places_induction with
    | step outer ih =>
      rcases mem_walk.mp mem with rfl | ⟨child, childMem, inChild⟩
      · exact Or.inl rfl
      · rcases ih child childMem inChild with rfl | below
        · exact Or.inr (Relation.TransGen.single childMem)
        · exact Or.inr (Relation.TransGen.head childMem below)
  · rintro (rfl | below)
    · exact self_mem_walk _
    · induction below with
      | single childMem => exact child_mem_walk childMem
      | tail _ childMem ih => exact walk_trans (child_mem_walk childMem) ih

theorem Encloses.pos_lt {outer inner : Occurrence} (below : outer.Encloses inner) :
    outer.pos < inner.pos := by
  induction below with
  | single childMem => exact (child_bounds childMem).1
  | tail _ childMem ih => exact ih.trans (child_bounds childMem).1

theorem Encloses.mem_walk {outer inner : Occurrence} (below : outer.Encloses inner) :
    inner ∈ outer.walk :=
  mem_walk_iff_encloses.mpr (Or.inr below)

/-- What stands properly in a place stands in one of its children. -/
theorem encloses_iff_child {outer inner : Occurrence} :
    outer.Encloses inner ↔ ∃ child ∈ outer.children, inner ∈ child.walk := by
  constructor
  · intro below
    rcases mem_walk.mp below.mem_walk with rfl | found
    · exact absurd below.pos_lt (lt_irrefl _)
    · exact found
  · rintro ⟨child, childMem, inChild⟩
    have first : outer.Encloses child := Relation.TransGen.single childMem
    rcases mem_walk_iff_encloses.mp inChild with rfl | below
    · exact first
    · exact first.trans below

/-- **In one tree, standing properly in a place is a matter of positions.** -/
theorem encloses_iff_between {root outer inner : Occurrence} (outerMem : outer ∈ root.walk)
    (innerMem : inner ∈ root.walk) :
    outer.Encloses inner ↔ outer.pos < inner.pos ∧ inner.pos < outer.stop := by
  constructor
  · intro below
    exact ⟨below.pos_lt, ((mem_walk_iff_between outerMem innerMem).mp below.mem_walk).2⟩
  · rintro ⟨after, before⟩
    have inside := (mem_walk_iff_between outerMem innerMem).mpr ⟨after.le, before⟩
    rcases mem_walk_iff_encloses.mp inside with rfl | below
    · exact absurd after (lt_irrefl _)
    · exact below

end Occurrence

end LetShadow
