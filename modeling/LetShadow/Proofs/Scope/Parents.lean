/-
**The index of a tree as a map from children to parents.**

* `parent?_eq_some_iff` — **the parent of a node is the one place of which it is a child,** if that
  place is in the tree; so equal trees at different places stay apart. The root, and what is not in
  the tree, has no parent.
* `mem_links`, `links_sorted` — the entries of the map are the parents that it tells, one for each
  child.
* `ScopeIndex.Climbs` — going from parent to parent until there is none. **This comes to an end from
  every position** (`climbs_above`), since a parent stands before its children, and what it meets on
  the way is what stands around the position.
* `index_exact` — **the entries and the groups around each node,** nearest first.
-/

import LetShadow.Proofs.Scope.Around

namespace LetShadow

namespace Occurrence

/-- What stands properly in a tree is a child of one of its places. -/
theorem exists_parent {root place : Occurrence} (inside : root.Encloses place) :
    ∃ parent ∈ root.walk, place ∈ parent.children := by
  cases inside with
  | single childMem => exact ⟨root, self_mem_walk root, childMem⟩
  | tail below childMem => exact ⟨_, Encloses.mem_walk below, childMem⟩

/-- **Around a child stand its parent and what stands around that.** -/
theorem placesAround_of_child {root parent child : Occurrence} (parentMem : parent ∈ root.walk)
    (childMem : child ∈ parent.children) :
    root.placesAround child.pos = parent :: root.placesAround parent.pos := by
  induction root using places_induction with
  | step root ih =>
    rcases mem_walk.mp parentMem with rfl | ⟨first, firstMem, inFirst⟩
    · rw [placesAround_child childMem (self_mem_walk child), placesAround_eq_nil (Or.inl le_rfl),
        placesAround_eq_nil (Or.inl le_rfl), List.nil_append]
    · have below := walk_trans (child_mem_walk childMem) inFirst
      rw [placesAround_child firstMem below, placesAround_child firstMem inFirst,
        ih first firstMem inFirst, List.cons_append]

/-- **What stands around a position is nested,** the nearest place first. -/
theorem placesAround_nested (root : Occurrence) (pos : Nat) :
    (root.placesAround pos).Pairwise fun inner outer => outer.Encloses inner := by
  rw [placesAround, List.pairwise_reverse]
  refine ((walk_sorted root).filter _).imp_of_mem fun {outer inner} outerMem innerMem before => ?_
  obtain ⟨outerIn, outerCovers⟩ := List.mem_filter.mp outerMem
  obtain ⟨innerIn, innerCovers⟩ := List.mem_filter.mp innerMem
  rw [covers_iff] at outerCovers innerCovers
  exact (encloses_iff_between outerIn innerIn).mpr ⟨before, by omega⟩

/-- Around a node that does not stand properly in a tree stands nothing of it. -/
theorem placesAround_eq_nil_of_outside {tree root here : Occurrence} (rootMem : root ∈ tree.walk)
    (hereMem : here ∈ tree.walk) (outside : ¬ root.Encloses here) :
    root.placesAround here.pos = [] := by
  refine List.eq_nil_iff_forall_not_mem.mpr fun outer mem => outside ?_
  obtain ⟨inRoot, encloses⟩ := (mem_placesAround rootMem hereMem).mp mem
  rcases mem_walk_iff_encloses.mp inRoot with rfl | below
  · exact encloses
  · exact below.trans encloses

end Occurrence

namespace ScopeIndex

open Occurrence

variable {tree root here : Occurrence}

/-! ### Parents -/

theorem above_of_child {parent child : Occurrence} (parentMem : parent ∈ root.walk)
    (childMem : child ∈ parent.children) :
    (ofTree root).above child.pos = parent :: (ofTree root).above parent.pos := by
  rw [above_ofTree, above_ofTree, placesAround_of_child parentMem childMem]

/-- Every position is that of a child of a place of the tree, or has nothing of the tree around. -/
theorem child_or_above_eq_nil (root : Occurrence) (pos : Nat) :
    (∃ parent ∈ root.walk, ∃ child ∈ parent.children, child.pos = pos) ∨
      (ofTree root).above pos = [] := by
  by_cases inside : root.pos < pos ∧ pos < root.stop
  · left
    obtain ⟨place, mem, same⟩ := exists_mem_walk inside.1.le inside.2
    have below : root.Encloses place :=
      (encloses_iff_between (self_mem_walk root) mem).mpr (same ▸ inside)
    obtain ⟨parent, parentMem, childMem⟩ := exists_parent below
    exact ⟨parent, parentMem, place, childMem, same⟩
  · right
    rw [above_ofTree, placesAround_eq_nil (by omega)]

/-- **The parent at a position is the place of the tree that has a child there.** -/
theorem parent?_eq_some_iff {root parent : Occurrence} {pos : Nat} :
    (ofTree root).parent? pos = some parent ↔
      parent ∈ root.walk ∧ ∃ child ∈ parent.children, child.pos = pos := by
  constructor
  · intro found
    rcases child_or_above_eq_nil root pos with ⟨other, otherMem, child, childMem, rfl⟩ | nothing
    · rw [parent?, above_of_child otherMem childMem, List.head?_cons] at found
      obtain rfl := Option.some.inj found
      exact ⟨otherMem, child, childMem, rfl⟩
    · rw [parent?, nothing] at found
      cases found
  · rintro ⟨parentMem, child, childMem, rfl⟩
    rw [parent?, above_of_child parentMem childMem, List.head?_cons]

/-- A node has the parent of which it is a child, and no other. -/
theorem parent?_of_mem (rootMem : root ∈ tree.walk) (hereMem : here ∈ tree.walk)
    {parent : Occurrence} :
    (ofTree root).parent? here.pos = some parent ↔
      parent ∈ root.walk ∧ here ∈ parent.children := by
  rw [parent?_eq_some_iff]
  refine and_congr_right fun parentMem => ⟨?_, fun childMem => ⟨here, childMem, rfl⟩⟩
  rintro ⟨child, childMem, same⟩
  have inTree := walk_trans (walk_trans (child_mem_walk childMem) parentMem) rootMem
  rwa [← eq_of_pos_eq inTree hereMem same]

theorem exists_parent?_iff (rootMem : root ∈ tree.walk) (hereMem : here ∈ tree.walk) :
    (∃ parent, (ofTree root).parent? here.pos = some parent) ↔ root.Encloses here := by
  constructor
  · rintro ⟨parent, found⟩
    obtain ⟨parentMem, childMem⟩ := (parent?_of_mem rootMem hereMem).mp found
    have child : parent.Encloses here := Relation.TransGen.single childMem
    rcases mem_walk_iff_encloses.mp parentMem with rfl | below
    · exact child
    · exact below.trans child
  · intro inside
    obtain ⟨parent, parentMem, childMem⟩ := exists_parent inside
    exact ⟨parent, (parent?_of_mem rootMem hereMem).mpr ⟨parentMem, childMem⟩⟩

/-! ### The entries of the map -/

theorem mem_links {index : ScopeIndex} {child parent : Nat} :
    (child, parent) ∈ index.links ↔
      ∃ around, index.parent? child = some around ∧ around.pos = parent := by
  rw [links, List.mem_filterMap]
  constructor
  · rintro ⟨⟨chain, place⟩, entry, linked⟩
    obtain ⟨around, head, same⟩ := Option.map_eq_some_iff.mp linked
    obtain ⟨rfl, rfl⟩ := Prod.mk.inj same
    have found := List.mk_mem_zipIdx_iff_getElem?.mp entry
    refine ⟨around, ?_, rfl⟩
    rw [parent?, above_of_le (Nat.le_add_right _ _), Nat.add_sub_cancel_left, found]
    exact head
  · rintro ⟨around, found, rfl⟩
    have after : index.root ≤ child := by
      by_contra before
      rw [parent?, above, if_neg before] at found
      cases found
    rw [parent?, above_of_le after] at found
    cases entry : index.chains.toList[child - index.root]? with
    | none =>
      rw [entry] at found
      cases found
    | some chain =>
      rw [entry] at found
      have head : chain.head? = some around := found
      refine ⟨(chain, child - index.root), List.mk_mem_zipIdx_iff_getElem?.mpr entry, ?_⟩
      simp only [head, Option.map_some, Nat.add_sub_cancel' after]

/-- **The map has one entry for each child,** in the order of the children. -/
theorem links_sorted (index : ScopeIndex) :
    index.links.Pairwise fun first second => first.1 < second.1 := by
  have places : index.chains.toList.zipIdx.Pairwise fun first second => first.2 < second.2 := by
    refine List.pairwise_map.mp ?_
    rw [List.zipIdx_map_snd]
    exact List.pairwise_lt_range'
  refine places.filterMap _ fun first second before one linked other linkedToo => ?_
  obtain ⟨_, -, rfl⟩ := Option.map_eq_some_iff.mp linked
  obtain ⟨_, -, rfl⟩ := Option.map_eq_some_iff.mp linkedToo
  exact Nat.add_lt_add_left before _

/-! ### Going from parent to parent -/

/-- Going from parent to parent, from a position until there is none, meets these places. -/
inductive Climbs (index : ScopeIndex) : Nat → List Occurrence → Prop
  | top {pos : Nat} (none : index.parent? pos = none) : Climbs index pos []
  | onward {pos : Nat} {parent : Occurrence} {rest : List Occurrence}
      (found : index.parent? pos = some parent) (later : Climbs index parent.pos rest) :
      Climbs index pos (parent :: rest)

theorem Climbs.unique {index : ScopeIndex} {pos : Nat} {first second : List Occurrence}
    (left : index.Climbs pos first) (right : index.Climbs pos second) : first = second := by
  induction left generalizing second with
  | top none =>
    cases right with
    | top => rfl
    | onward found => cases none.symm.trans found
  | onward found _ ih =>
    cases right with
    | top none => cases none.symm.trans found
    | onward other later =>
      obtain rfl := Option.some.inj (found.symm.trans other)
      rw [ih later]

/-- **Going from parent to parent comes to an end,** with what stands around the position. -/
theorem climbs_above (root : Occurrence) (pos : Nat) :
    (ofTree root).Climbs pos ((ofTree root).above pos) := by
  -- By induction on the position: a parent stands before its children.
  induction pos using Nat.strong_induction_on with
  | _ pos ih =>
    rcases child_or_above_eq_nil root pos with ⟨parent, parentMem, child, childMem, rfl⟩ | nothing
    · rw [above_of_child parentMem childMem]
      exact .onward (parent?_eq_some_iff.mpr ⟨parentMem, child, childMem, rfl⟩)
        (ih parent.pos (child_bounds childMem).1)
    · rw [nothing]
      exact .top (by rw [parent?, nothing, List.head?_nil])

/-! ### The index is exact -/

theorem enclosing_nested (root : Occurrence) (pos : Nat) :
    ((ofTree root).enclosing pos).Pairwise fun inner outer => outer.Encloses inner := by
  rw [enclosing_ofTree]
  exact (placesAround_nested root pos).filter _

theorem mem_enclosing (rootMem : root ∈ tree.walk) (hereMem : here ∈ tree.walk)
    {group : Occurrence} :
    group ∈ (ofTree root).enclosing here.pos ↔
      group ∈ root.walk ∧ group.node.isGroup = true ∧ group.Encloses here := by
  rw [enclosing_ofTree, groupsAround, List.mem_filter, mem_placesAround rootMem hereMem]
  exact and_right_comm.trans and_assoc

/-- The root of a tree does not stand properly in it, and neither does what is not in it. -/
theorem not_encloses_of_outside (outside : here = root ∨ here ∉ root.walk) :
    ¬ root.Encloses here := by
  rintro inside
  rcases outside with rfl | missing
  · exact absurd inside.pos_lt (lt_irrefl _)
  · exact missing inside.mem_walk

/-- **The index of a tree is exact.** It has one entry for each child of a place of the tree, which
tells that place, and no other. So the nodes with an entry are those properly inside of the tree, and
the parent of a node is the one place of which it is a child. From any node the way from parent to
parent ends. The groups on it are those of the tree that enclose the node, nearest first and each
once; the root, and what is not in the tree, has no parent and no groups around. -/
theorem index_exact (rootMem : root ∈ tree.walk) :
    ((ofTree root).links.Pairwise fun first second => first.1 < second.1) ∧
    (∀ child parent, (child, parent) ∈ (ofTree root).links ↔
      ∃ outer ∈ root.walk, ∃ inner ∈ outer.children, inner.pos = child ∧ outer.pos = parent) ∧
    ∀ here ∈ tree.walk,
      ((∃ parent, (here.pos, parent) ∈ (ofTree root).links) ↔ root.Encloses here) ∧
      (∀ parent, (ofTree root).parent? here.pos = some parent ↔
        parent ∈ root.walk ∧ here ∈ parent.children) ∧
      (∃ chain, (ofTree root).Climbs here.pos chain ∧
        (∀ other, (ofTree root).Climbs here.pos other → other = chain) ∧
        (ofTree root).enclosing here.pos = chain.filter fun around => around.node.isGroup) ∧
      (∀ group, group ∈ (ofTree root).enclosing here.pos ↔
        group ∈ root.walk ∧ group.node.isGroup = true ∧ group.Encloses here) ∧
      ((ofTree root).enclosing here.pos).Pairwise (fun inner outer => outer.Encloses inner) ∧
      ((ofTree root).enclosing here.pos).Nodup ∧
      (here = root ∨ here ∉ root.walk →
        (ofTree root).parent? here.pos = none ∧ (ofTree root).enclosing here.pos = []) := by
  have entries (child parent : Nat) : (child, parent) ∈ (ofTree root).links ↔
      ∃ outer ∈ root.walk, ∃ inner ∈ outer.children, inner.pos = child ∧ outer.pos = parent := by
    simp only [mem_links, parent?_eq_some_iff]
    tauto
  refine ⟨links_sorted _, entries, fun here hereMem => ⟨?_, fun parent => ?_, ?_, fun group => ?_,
    enclosing_nested root _, ?_, fun outside => ?_⟩⟩
  · rw [← exists_parent?_iff rootMem hereMem]
    simp only [mem_links]
    exact ⟨fun ⟨_, around, found, _⟩ => ⟨around, found⟩,
      fun ⟨around, found⟩ => ⟨around.pos, around, found, rfl⟩⟩
  · exact parent?_of_mem rootMem hereMem
  · exact ⟨_, climbs_above root _, fun other climbs => climbs.unique (climbs_above root _), rfl⟩
  · exact mem_enclosing rootMem hereMem
  · refine (enclosing_nested root _).imp fun {inner outer} encloses same => ?_
    exact absurd (same ▸ encloses.pos_lt) (lt_irrefl _)
  · have nothing := placesAround_eq_nil_of_outside rootMem hereMem (not_encloses_of_outside outside)
    rw [parent?, enclosing_ofTree, groupsAround, above_ofTree, nothing]
    exact ⟨rfl, rfl⟩

/-- A group with one declaration. -/
def twin : Node :=
  .block { method := "context" }
    (some (.call { method := "let", arguments := [.symbol "a" none] })) none

/-- Two equal groups in another one. -/
def twins : Node :=
  .block { method := "context" } (some (.sequence [twin, twin] none)) none

/-- The index of the second twin knows the declaration in it, and nothing of the equal one in the
first. -/
theorem index_exact_twins :
    (ofTree ⟨7, twin⟩).parent? 9 = some ⟨7, twin⟩ ∧
      (∃ chain, (ofTree ⟨7, twin⟩).Climbs 9 chain ∧
        (ofTree ⟨7, twin⟩).enclosing 9 = chain.filter fun around => around.node.isGroup) ∧
      (ofTree ⟨7, twin⟩).parent? 5 = none ∧ (ofTree ⟨7, twin⟩).enclosing 5 = [] := by
  have second : ⟨7, twin⟩ ∈ (⟨0, twins⟩ : Occurrence).walk := List.mem_of_getElem? (i := 7) rfl
  have inside : _ ∈ (⟨0, twins⟩ : Occurrence).walk := List.mem_of_getElem? (i := 9) rfl
  have apart : _ ∈ (⟨0, twins⟩ : Occurrence).walk := List.mem_of_getElem? (i := 5) rfl
  obtain ⟨-, -, each⟩ := index_exact second
  obtain ⟨-, parents, ⟨chain, climbs, -, groups⟩, -⟩ := each _ inside
  obtain ⟨-, -, -, -, -, -, outside⟩ := each _ apart
  exact ⟨(parents _).mpr ⟨self_mem_walk _, List.mem_of_getElem? (i := 1) rfl⟩, ⟨chain, climbs, groups⟩,
    outside (Or.inr fun mem => absurd (walk_bounds mem).1 (by decide))⟩

end ScopeIndex

end LetShadow
