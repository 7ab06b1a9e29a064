/-
**The result of a check is an account of the sketch.**

A rank tells of each position how many nodes that count stand before it. Along such a rank the places
of a tree have marks, and the parts of its sketch can be read off the tree:

* `resolve_eq_named` and `entries_madeInside` — the names and the declarations of a sketch are those
  that a check comes to.
* `groups_eq_sketch` — **the groups of a tree that stands in another make up its sketch,** with the
  names that are declared around it.
* `account_eq_settle` — **what a check says of a tree, in marks, is what `settle` says of its
  sketch.** So trees with the same sketch are judged alike.
-/

import LetShadow.Proofs.Check.Failure
import LetShadow.Proofs.Sketch.Basic

namespace LetShadow

variable {Mark : Type} (marking : Marking Mark)

/-! ### Ranks -/

namespace Marking

/-- The rank grows by what each of the nodes at consecutive positions adds to the count. -/
def RanksFrom (rank : Nat → Nat) (pos : Nat) : List Node → Prop
  | [] => True
  | node :: rest =>
    rank (pos + 1) = rank pos + marking.own node ∧ RanksFrom rank (pos + 1) rest

/-- The number of nodes that count before a position of a tree. -/
def rankIn (tree : Node) (pos : Nat) : Nat :=
  (tree.preorder.take pos).countP marking.counts

theorem ranksFrom_take (before nodes : List Node) :
    marking.RanksFrom (fun pos => ((before ++ nodes).take pos).countP marking.counts)
      before.length nodes := by
  induction nodes generalizing before with
  | nil => trivial
  | cons node rest ih =>
    constructor
    · have none : (before ++ node :: rest).take before.length = before := by simp
      have first : (before ++ node :: rest).take (before.length + 1) = before ++ [node] := by
        rw [List.take_append, List.take_of_length_le (Nat.le_succ _)]
        simp
      simp only [none, first]
      rw [List.countP_append, List.countP_singleton, own]
    · have shifted := ih (before ++ [node])
      rwa [List.append_assoc, List.singleton_append, List.length_append, List.length_singleton]
        at shifted

theorem ranksFrom_rankIn (tree : Node) :
    marking.RanksFrom (marking.rankIn tree) 0 tree.preorder :=
  marking.ranksFrom_take [] tree.preorder

variable {marking} {rank : Nat → Nat} {pos : Nat}

theorem RanksFrom.stop {nodes : List Node} (ranks : marking.RanksFrom rank pos nodes) :
    rank (pos + nodes.length) = rank pos + nodes.countP marking.counts := by
  induction nodes generalizing pos with
  | nil => rfl
  | cons node rest ih =>
    have after := ih ranks.2
    rw [ranks.1, own] at after
    rw [List.length_cons, List.countP_cons, Nat.add_comm rest.length, ← Nat.add_assoc, after]
    omega

theorem RanksFrom.split {first second : List Node}
    (ranks : marking.RanksFrom rank pos (first ++ second)) :
    marking.RanksFrom rank pos first ∧ marking.RanksFrom rank (pos + first.length) second := by
  induction first generalizing pos with
  | nil => exact ⟨trivial, ranks⟩
  | cons node rest ih =>
    obtain ⟨here, later⟩ := ranks
    obtain ⟨left, right⟩ := ih later
    refine ⟨⟨here, left⟩, ?_⟩
    rwa [List.length_cons, Nat.add_comm rest.length, ← Nat.add_assoc]

/-- Ranks along a tree go on along its children. -/
theorem RanksFrom.children {node : Node} (ranks : marking.RanksFrom rank pos node.preorder) :
    rank (pos + 1) = rank pos + marking.own node ∧
      marking.RanksFrom rank (pos + 1) (node.children.flatMap Node.preorder) := by
  rwa [Node.preorder_eq] at ranks

/-- Ranks along trees side by side go along the first tree, and then along the others. -/
theorem RanksFrom.cons {node : Node} {rest : List Node}
    (ranks : marking.RanksFrom rank pos ((node :: rest).flatMap Node.preorder)) :
    marking.RanksFrom rank pos node.preorder ∧
      rank (pos + node.size) = rank pos + marking.weight node ∧
      marking.RanksFrom rank (pos + node.size) (rest.flatMap Node.preorder) := by
  rw [List.flatMap_cons] at ranks
  obtain ⟨first, later⟩ := ranks.split
  have stop := first.stop
  rw [Node.length_preorder] at stop later
  exact ⟨first, stop, later⟩

/-- Ranks along a call go along its first argument, behind its receiver. -/
theorem RanksFrom.argument {method : String} {first : Node} {rest : List Node}
    {receiver : Option Node} {place : Option Location}
    (ranks : marking.RanksFrom rank pos (Node.call ⟨method, first :: rest, receiver, place⟩).preorder) :
    rank (pos + 1 + Node.receiverSize receiver) =
        rank pos + marking.own (.call ⟨method, first :: rest, receiver, place⟩) +
          total marking.weight receiver.toList ∧
      marking.RanksFrom rank (pos + 1 + Node.receiverSize receiver) first.preorder := by
  obtain ⟨here, below⟩ := ranks.children
  rw [← here]
  cases receiver with
  | none => exact ⟨rfl, below.cons.1⟩
  | some receiver => exact ⟨below.cons.2.1, below.cons.2.2.cons.1⟩

end Marking

/-! ### Places as a sketch has them -/

namespace Marking

/-- The mark of a place. -/
def markAt (rank : Nat → Nat) (place : Occurrence) : Mark :=
  marking.mark (rank place.pos) place.node

/-- The entry of a declaration at its place. -/
def entryAt? (rank : Nat → Nat) (declaration : Occurrence) : Option (Entry Mark) :=
  Entry.of? (marking.markAt rank declaration)
    (declaration.resolve.mapError fun error => marking.markAt rank error.rejected)

end Marking

/-- The names that are declared around a place. -/
def namesAround (root place : Occurrence) : Set String :=
  {name | DeclaredAround root place name}

/-- A group at its place, as a sketch has it. -/
def Marking.groupAt (rank : Nat → Nat) (root group : Occurrence) : GroupSketch Mark where
  around := namesAround root group
  entries := group.directDeclarations.filterMap (marking.entryAt? rank)

variable {marking} {rank : Nat → Nat}

/-- **The name of a sketch is the one that a resolution finds.** -/
theorem resolve_eq_named {pos : Nat} {node : Node}
    (ranks : marking.RanksFrom rank pos node.preorder) :
    (node.resolveAt pos).mapError (fun error => marking.markAt rank error.rejected) =
      node.named marking (rank pos) := by
  induction pos, node using Node.resolveAt.induct with
  | case1 | case4 => rfl
  | case2 pos method first rest receiver place isLet ih =>
    obtain ⟨stop, below⟩ := ranks.argument
    rw [Node.resolveAt, Node.named, if_pos isLet, if_pos isLet, ih below, stop]
  | case3 pos method first rest receiver place noLet =>
    rw [Node.resolveAt, Node.named, if_neg noLet, if_neg noLet]
    rfl
  | case5 pos method first rest receiver place body location isLet ih =>
    obtain ⟨here, inside⟩ := ranks.children
    obtain ⟨stop, below⟩ := inside.cons.1.argument
    rw [here] at stop
    rw [Node.resolveAt, Node.named, if_pos isLet, if_pos isLet, ← stop]
    exact ih below
  | case6 pos method first rest receiver place body location noLet =>
    rw [Node.resolveAt, Node.named, if_neg noLet, if_neg noLet]
    rfl
  | case7 | case9 | case10 | case11 | case12 => rfl
  | case8 pos first rest place ih =>
    obtain ⟨here, below⟩ := ranks.children
    rw [Node.resolveAt, Node.named, ih below.cons.1, here]

theorem entryAt?_eq {place : Occurrence}
    (ranks : marking.RanksFrom rank place.pos place.node.preorder) :
    marking.entryAt? rank place = place.node.ownEntry marking (rank place.pos) := by
  rw [Marking.entryAt?, Node.ownEntry, Occurrence.resolve, resolve_eq_named ranks, Marking.markAt]

/-- What is read off each of some trees side by side is read off them together. -/
theorem flatMap_placed {Item : Type} {list : Occurrence → List Item}
    (listed : Nat → Node → List Item) (allListed : Nat → List Node → List Item)
    (none : ∀ before, allListed before [] = [])
    (some : ∀ before node rest, allListed before (node :: rest) =
      listed before node ++ allListed (before + marking.weight node) rest)
    {pos : Nat} {nodes : List Node}
    (each : ∀ place ∈ Occurrence.placed pos nodes,
      marking.RanksFrom rank place.pos place.node.preorder →
        list place = listed (rank place.pos) place.node)
    (ranks : marking.RanksFrom rank pos (nodes.flatMap Node.preorder)) :
    (Occurrence.placed pos nodes).flatMap list = allListed (rank pos) nodes := by
  induction nodes generalizing pos with
  | nil => rw [none]; rfl
  | cons node rest ih =>
    obtain ⟨first, stop, later⟩ := ranks.cons
    rw [Occurrence.placed, List.flatMap_cons, some, ← stop,
      ih (fun place mem => each place (List.mem_cons_of_mem _ mem)) later,
      each _ List.mem_cons_self first]

/-- **The declarations that a node makes as a statement are those of the sketch.** -/
theorem entries_made {here : Occurrence}
    (ranks : marking.RanksFrom rank here.pos here.node.preorder) :
    here.statementDeclarations.filterMap (marking.entryAt? rank) =
      here.node.made marking (rank here.pos) := by
  induction here using Occurrence.places_induction with
  | step here ih =>
    rw [Occurrence.statementDeclarations_eq]
    by_cases sequence : here.node.kind = .sequence
    · rw [if_pos sequence, List.filterMap_flatMap, Occurrence.children]
      obtain ⟨own, below⟩ := ranks.children
      rw [flatMap_placed (Node.made marking) (Node.forestMade marking)
        (fun _ => by rw [Node.forestMade]) (fun _ _ _ => by rw [Node.forestMade]) ih below, own]
      cases shape : here.node with
      | sequence statements location => rfl
      | _ => rw [shape] at sequence; cases sequence
    · rw [if_neg sequence, Node.made_eq marking _ _ sequence]
      by_cases declares : here.node.isLet = true
      · rw [if_pos declares, if_pos declares, List.filterMap_cons, entryAt?_eq ranks]
        cases here.node.ownEntry marking (rank here.pos) <;> rfl
      · rw [if_neg declares, if_neg declares, List.filterMap_nil]

/-- **The direct declarations of a block are those of the sketch.** -/
theorem entries_madeInside {block : Occurrence}
    (ranks : marking.RanksFrom rank block.pos block.node.preorder) :
    block.directDeclarations.filterMap (marking.entryAt? rank) =
      block.node.madeInside marking (rank block.pos) := by
  obtain ⟨pos, node⟩ := block
  cases node with
  | block invocation body location =>
    cases body with
    | none => rfl
    | some body =>
      obtain ⟨own, below⟩ := ranks.children
      obtain ⟨_, stop, later⟩ := below.cons
      have made : (Occurrence.statementDeclarations ⟨pos + 1 + Node.callSize invocation, body⟩).filterMap
          (marking.entryAt? rank) = _ := entries_made later.cons.1
      refine made.trans ?_
      show body.made marking (rank (pos + 1 + (Node.call invocation).size)) = _
      rw [stop, own, Node.madeInside]
  | _ => rfl

/-! ### Names around the places of a tree -/

namespace Occurrence

variable {root here child : Occurrence}

/-- What encloses a child of a place is the place, or encloses it. -/
theorem encloses_child_iff {outer : Occurrence} (outerMem : outer ∈ root.walk)
    (hereMem : here ∈ root.walk) (mem : child ∈ here.children) :
    outer.Encloses child ↔ outer = here ∨ outer.Encloses here := by
  constructor
  · intro around
    obtain ⟨other, otherMem, inOther⟩ := encloses_iff_child.mp around
    have hereChild := child_bounds mem
    have inside := walk_bounds inOther
    have last := child.pos_lt_stop
    rcases lt_trichotomy outer.pos here.pos with less | same | more
    · exact Or.inr ((encloses_iff_between outerMem hereMem).mpr
        ⟨less, by have := child_bounds otherMem; omega⟩)
    · exact Or.inl (eq_of_pos_eq outerMem hereMem same)
    · -- A child of the place would stand properly in another.
      have below : here.Encloses outer :=
        (encloses_iff_between hereMem outerMem).mpr ⟨more, by have := around.pos_lt; omega⟩
      obtain ⟨first, firstMem, inFirst⟩ := encloses_iff_child.mp below
      have bounds := walk_bounds inFirst
      have otherBounds := child_bounds otherMem
      obtain rfl := child_eq_of_shared child.pos firstMem mem (by omega) (by omega)
      omega
  · rintro (rfl | around)
    · exact Relation.TransGen.single mem
    · exact around.tail mem

end Occurrence

theorem name_of_entryAt? {declaration : Occurrence} {name : String} :
    (∃ entry ∈ marking.entryAt? rank declaration, entry.name = .ok name) ↔
      declaration.resolve = .ok (.known name) := by
  unfold Marking.entryAt?
  cases declaration.resolve with
  | error error => simp [Except.mapError, Entry.of?]
  | ok found => cases found <;> simp [Except.mapError, Entry.of?]

/-- The names that the entries of a block are known to have. -/
theorem knownNames_entries (block : Occurrence) :
    knownNames (block.directDeclarations.filterMap (marking.entryAt? rank)) =
      {name | ∃ declaration : Occurrence,
        declaration.DirectIn block ∧ declaration.resolve = .ok (.known name)} := by
  ext name
  simp only [knownNames, Set.mem_ofPred_eq, List.mem_filterMap, Occurrence.mem_directDeclarations]
  constructor
  · rintro ⟨entry, ⟨declaration, direct, found⟩, named⟩
    exact ⟨declaration, direct, name_of_entryAt?.mp ⟨entry, found, named⟩⟩
  · rintro ⟨declaration, direct, named⟩
    obtain ⟨entry, found, sameName⟩ := name_of_entryAt?.mpr named
    exact ⟨entry, ⟨declaration, direct, found⟩, sameName⟩

/-- **Around the children of a place the names around it are declared,** and its own if it is a
group. -/
theorem namesAround_child (marking : Marking Mark) (rank : Nat → Nat)
    {root here child : Occurrence} (hereMem : here ∈ root.walk)
    (mem : child ∈ here.children) :
    namesAround root child =
      if here.node.isGroup then
        namesAround root here ∪
          knownNames (here.directDeclarations.filterMap (marking.entryAt? rank))
      else namesAround root here := by
  ext name
  have around : name ∈ namesAround root child ↔ ∃ outer ∈ root.groups,
      (outer = here ∨ outer.Encloses here) ∧ ∃ declaration : Occurrence,
        declaration.DirectIn outer ∧ declaration.resolve = .ok (.known name) := by
    refine exists_congr fun outer => and_congr_right fun outerMem => ?_
    rw [Occurrence.encloses_child_iff (Occurrence.mem_groups.mp outerMem).1 hereMem mem]
  rw [around]
  by_cases group : here.node.isGroup = true
  · rw [if_pos group, knownNames_entries]
    constructor
    · rintro ⟨outer, outerMem, rfl | encloses, declared⟩
      · exact Or.inr declared
      · exact Or.inl ⟨outer, outerMem, encloses, declared⟩
    · rintro (⟨outer, outerMem, encloses, declared⟩ | declared)
      · exact ⟨outer, outerMem, Or.inr encloses, declared⟩
      · exact ⟨here, Occurrence.mem_groups.mpr ⟨hereMem, group⟩, Or.inl rfl, declared⟩
  · rw [if_neg group]
    constructor
    · rintro ⟨outer, outerMem, rfl | encloses, declared⟩
      · exact absurd (Occurrence.mem_groups.mp outerMem).2 group
      · exact ⟨outer, outerMem, encloses, declared⟩
    · rintro ⟨outer, outerMem, encloses, declared⟩
      exact ⟨outer, outerMem, Or.inr encloses, declared⟩

theorem namesAround_root (root : Occurrence) : namesAround root root = ∅ := by
  refine Set.eq_empty_of_forall_notMem fun name => ?_
  rintro ⟨outer, outerMem, encloses, _⟩
  have after := (Occurrence.walk_bounds (Occurrence.mem_groups.mp outerMem).1).1
  exact absurd encloses.pos_lt (not_lt.mpr after)

/-! ### The groups of a tree -/

theorem Occurrence.groups_eq (here : Occurrence) :
    here.groups = (if here.node.isGroup then [here] else []) ++ here.children.flatMap groups := by
  unfold groups
  rw [walk_eq, List.filter_cons, List.filter_flatMap]
  split <;> rfl

/-- **The groups of a tree that stands in another make up its sketch.** -/
theorem groups_eq_sketch {root here : Occurrence} (hereMem : here ∈ root.walk)
    (ranks : marking.RanksFrom rank here.pos here.node.preorder) :
    here.groups.map (marking.groupAt rank root) =
      here.node.sketch marking (namesAround root here) (rank here.pos) := by
  induction here using Occurrence.places_induction with
  | step here ih =>
    obtain ⟨own, below⟩ := ranks.children
    have inside : ∀ around, (∀ child ∈ here.children, namesAround root child = around) →
        here.children.flatMap (fun child => child.groups.map (marking.groupAt rank root)) =
          Node.forestSketch marking around (rank here.pos + marking.own here.node)
            here.node.children := by
      intro around same
      rw [Occurrence.children, ← own]
      refine flatMap_placed (fun before node => node.sketch marking around before) _
        (Node.forestSketch_nil marking around) (Node.forestSketch_cons marking around) ?_ below
      intro child mem childRanks
      rw [ih child mem (Occurrence.walk_trans (Occurrence.child_mem_walk mem) hereMem) childRanks,
        same child mem]
    have names : ∀ child ∈ here.children, _ := fun child mem =>
      namesAround_child marking rank hereMem mem
    rw [Occurrence.groups_eq, List.map_append, List.map_flatMap, Node.sketch_eq]
    by_cases group : here.node.isGroup = true
    · simp only [if_pos group] at names
      rw [if_pos group, if_pos group, inside _ names, List.map_singleton, Marking.groupAt,
        entries_madeInside ranks, List.singleton_append]
    · simp only [if_neg group] at names
      rw [if_neg group, if_neg group, inside _ names, List.map_nil, List.nil_append]

/-! ### Settling a sketch -/

/-- What should be reported of an entry: its mark and its name, if that is among `around`. -/
noncomputable def Entry.reported (around : Set String) (entry : Entry Mark) :
    Option (Mark × String) :=
  open Classical in
  match entry.name with
  | .ok name => if name ∈ around then some (entry.mark, name) else none
  | .error _ => none

/-- What should be reported of a group. -/
noncomputable def GroupSketch.reported (group : GroupSketch Mark) : List (Mark × String) :=
  group.entries.filterMap (Entry.reported group.around)

/-- The mark at which the name of an entry was rejected. -/
def Entry.rejected (entry : Entry Mark) : Option Mark :=
  match entry.name with
  | .ok _ => none
  | .error mark => some mark

/-- What is said of the groups of a sketch: where the first name was rejected, or their number and
what should be reported of them. -/
noncomputable def settle (groups : List (GroupSketch Mark)) :
    Except Mark (Nat × List (Mark × String)) :=
  match (groups.flatMap GroupSketch.entries).findSome? Entry.rejected with
  | some mark => .error mark
  | none => .ok (groups.length, groups.flatMap GroupSketch.reported)

variable (marking)

/-- What an analysis says of a tree, in marks: where it failed, or the number of groups and the
offenses. -/
def account (tree : Node) (file : String) : Except Mark (Nat × List (Mark × String)) :=
  match analyzeTree tree file with
  | .ok result => .ok (result.scopes, result.offenses.map fun offense =>
      (marking.markAt (marking.rankIn tree) offense.declaration, offense.name))
  | .error error => .error (marking.markAt (marking.rankIn tree) error.rejected)

variable {marking}

/-- **What a group reports is what should be reported of it in a sketch.** -/
theorem map_overriddenIn (root group : Occurrence) :
    (overriddenIn root group).map
        (fun offense => (marking.markAt rank offense.declaration, offense.name)) =
      (marking.groupAt rank root group).reported := by
  classical
  rw [overriddenIn, GroupSketch.reported, Marking.groupAt, List.map_filterMap, List.filterMap_filterMap,
    Occurrence.madeDirectly_eq]
  refine List.filterMap_congr fun declaration _ => ?_
  unfold overriding Marking.entryAt?
  cases declaration.resolve with
  | error error => rfl
  | ok name =>
    cases name with
    | indeterminate => rfl
    | known name => exact apply_ite (Option.map _) (DeclaredAround root group name) _ _

theorem flatMap_overriddenIn (root : Occurrence) (groups : List Occurrence) :
    (groups.flatMap (overriddenIn root)).map
        (fun offense => (marking.markAt rank offense.declaration, offense.name)) =
      (groups.map (marking.groupAt rank root)).flatMap GroupSketch.reported := by
  rw [List.map_flatMap, List.flatMap_map]
  exact List.flatMap_congr fun group _ => map_overriddenIn root group

/-- Why the name of a declaration cannot be resolved, if it cannot. -/
def Occurrence.unresolvable? (declaration : Occurrence) : Option Unresolvable :=
  match declaration.resolve with
  | .error error => some error
  | .ok _ => none

theorem Occurrence.unresolvable?_eq_some_iff {declaration : Occurrence} {error : Unresolvable} :
    declaration.unresolvable? = some error ↔ declaration.resolve = .error error := by
  unfold unresolvable?
  cases declaration.resolve <;> simp

theorem Occurrence.unresolvable?_eq_none_iff {declaration : Occurrence} :
    declaration.unresolvable? = none ↔ declaration.Resolves := by
  unfold unresolvable? Resolves
  cases declaration.resolve <;> simp

/-- The failure of a whole tree is that of its first declaration that cannot be resolved. -/
theorem contribution_failure_eq (root : Occurrence) :
    (contribution root root).failure =
      (root.groups.flatMap Occurrence.directDeclarations).findSome? Occurrence.unresolvable? := by
  have declarations : root.groups.flatMap Occurrence.directDeclarations =
      root.declarationsInOrder.map Prod.snd := by
    rw [Occurrence.declarationsInOrder, List.map_flatMap]
    refine List.flatMap_congr fun group _ => ?_
    rw [List.map_map, Occurrence.madeDirectly_eq]
    exact (List.map_id _).symm
  rw [declarations, List.findSome?_map]
  refine Option.ext fun error => ?_
  rw [contribution_failure_iff, List.findSome?_eq_some_iff]
  constructor
  · rintro ⟨before, group, declaration, after, order, resolved, fails⟩
    exact ⟨before, (group, declaration), after, order,
      Occurrence.unresolvable?_eq_some_iff.mpr fails,
      fun earlier mem => Occurrence.unresolvable?_eq_none_iff.mpr (resolved earlier mem)⟩
  · rintro ⟨before, ⟨group, declaration⟩, after, order, fails, silent⟩
    exact ⟨before, group, declaration, after, order,
      fun earlier mem => Occurrence.unresolvable?_eq_none_iff.mp (silent earlier mem),
      Occurrence.unresolvable?_eq_some_iff.mp fails⟩

/-- **A tree fails at the first name that its sketch rejects.** -/
theorem findSome?_rejected (root : Occurrence) :
    ((root.groups.map (marking.groupAt rank root)).flatMap GroupSketch.entries).findSome?
        Entry.rejected =
      (contribution root root).failure.map fun error => marking.markAt rank error.rejected := by
  have rejected : ∀ declaration : Occurrence,
      (marking.entryAt? rank declaration).bind Entry.rejected =
        declaration.unresolvable?.map fun error => marking.markAt rank error.rejected := by
    intro declaration
    unfold Marking.entryAt? Occurrence.unresolvable?
    cases declaration.resolve with
    | error error => rfl
    | ok name => cases name <;> rfl
  rw [contribution_failure_eq, List.flatMap_map, List.map_findSome?]
  simp only [Marking.groupAt]
  rw [← List.filterMap_flatMap, ← List.head?_filterMap, List.filterMap_filterMap,
    List.head?_filterMap]
  exact congrArg (List.findSome? · _) (funext rejected)

/-- **What an analysis says of a tree is what is said of its sketch.** -/
theorem account_eq_settle (tree : Node) (file : String) :
    account marking tree file = settle (tree.sketch marking ∅ 0) := by
  have mem := Occurrence.self_mem_walk ⟨0, tree⟩
  have groups := groups_eq_sketch mem (marking.ranksFrom_rankIn tree)
  rw [namesAround_root, show marking.rankIn tree 0 = 0 from rfl] at groups
  rw [settle, ← groups, findSome?_rejected, ← flatMap_overriddenIn, List.length_map, account]
  cases outcome : analyzeTree tree file with
  | ok result =>
    obtain ⟨passes, rfl⟩ := analyzeTree_eq_ok_iff.mp outcome
    rw [passes]
    rfl
  | error error =>
    rw [analyzeTree_eq] at outcome
    cases failure : (contribution ⟨0, tree⟩ ⟨0, tree⟩).failure with
    | none =>
      rw [failure] at outcome
      cases outcome
    | some other =>
      rw [failure] at outcome
      rw [Except.error.inj outcome]
      rfl

end LetShadow
