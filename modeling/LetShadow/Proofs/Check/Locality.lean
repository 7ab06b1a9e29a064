/-
**What a check says of a group depends on the names around it only.**

Two trees may hold the same group. What else stands in them, and where, can matter for the offenses
inside of the group in one way only: through the names that the groups around it are known to declare.

* `Node.bare` — a tree without its places in a source. Groups are the same if these are equal.
* `Result.offensesIn` — the offenses of a result inside of a tree, by where they stand in it.
* `offensesIn_local` — **with more names around, a group has the same offenses and maybe more; with
  the same names around, it has the same offenses in the same order.** How often, by how many groups
  and in which way a name is declared, names that are not known and whatever stands beside the group
  make no difference.
-/

import LetShadow.Proofs.Sketch.Account

namespace LetShadow

/-! ### Trees without places -/

namespace Node

mutual

/-- A tree without its places in a source. -/
def bare : Node → Node
  | .call invocation => .call (bareCall invocation)
  | .block invocation none _ => .block (bareCall invocation) none none
  | .block invocation (some body) _ => .block (bareCall invocation) (some body.bare) none
  | .sequence statements _ => .sequence (bareAll statements) none
  | .symbol value _ => .symbol value none
  | .string value _ => .string value none
  | .localVariable name _ => .localVariable name none
  | .other kind children text _ => .other kind (bareAll children) text none

/-- A call without its places in a source. -/
def bareCall : Call Node → Call Node
  | ⟨method, arguments, none, _⟩ => ⟨method, bareAll arguments, none, none⟩
  | ⟨method, arguments, some receiver, _⟩ =>
    ⟨method, bareAll arguments, some receiver.bare, none⟩

/-- Trees without their places in a source. -/
def bareAll : List Node → List Node
  | [] => []
  | node :: rest => node.bare :: bareAll rest

end

theorem bareAll_eq (nodes : List Node) : bareAll nodes = nodes.map bare := by
  induction nodes with
  | nil => rfl
  | cons node rest ih => rw [bareAll, ih, List.map_cons]

end Node

/-- Every node counts, and a mark tells how many stand before. -/
def position : Marking Nat where
  counts _ := true
  mark before _ := before

theorem sameFace_position (first second : Node) : SameFace position first second :=
  ⟨rfl, fun _ => rfl⟩

theorem isTopLevel_bare (node : Node) : node.bare.isTopLevel = node.isTopLevel := by
  cases node with
  | block _ body _ => cases body <;> rfl
  | _ => rfl

theorem isGroupReceiver_bare (receiver : Node) :
    isGroupReceiver (some receiver) = isGroupReceiver (some receiver.bare) := by
  cases receiver with
  | block _ body _ => cases body <;> rfl
  | other kind children text place =>
    have same : standsAtTop (Node.bareAll children) = standsAtTop children := by
      match children with
      | [] => rfl
      | [scope] => exact isTopLevel_bare scope
      | _ :: _ :: _ => rfl
    rw [Node.bare, isGroupReceiver_other, isGroupReceiver_other, same]
  | _ => rfl

theorem similar_bareAll {nodes : List Node} (each : ∀ node ∈ nodes, Similar position node node.bare) :
    List.Forall₂ (Similar position) nodes (Node.bareAll nodes) := by
  rw [Node.bareAll_eq, List.forall₂_map_right_iff, List.forall₂_same]
  exact each

theorem similarCalls_bare {invocation : Call Node}
    (each : ∀ node ∈ (Node.call invocation).children, Similar position node node.bare) :
    SimilarCalls position invocation (Node.bareCall invocation) := by
  obtain ⟨method, arguments, receiver, place⟩ := invocation
  obtain ⟨ofReceiver, ofArguments⟩ := List.forall_mem_append.mp each
  cases receiver with
  | none => exact ⟨sameFace_position _ _, rfl, .nil, rfl, similar_bareAll ofArguments⟩
  | some receiver =>
    exact ⟨sameFace_position _ _, rfl, .cons (ofReceiver receiver List.mem_cons_self) .nil,
      isGroupReceiver_bare receiver, similar_bareAll ofArguments⟩

/-- **Places in a source make no difference to a check.** -/
theorem similar_bare (node : Node) : Similar position node node.bare := by
  -- A block is not made of its call as a node, so the induction tells of calls as well.
  suffices both : Similar position node node.bare ∧ ∀ invocation, node = .call invocation →
      SimilarCalls position invocation (Node.bareCall invocation) from both.1
  induction node using Node.children_induction with
  | step node ih =>
    have each : ∀ child ∈ node.children, Similar position child child.bare :=
      fun child mem => (ih child mem).1
    cases node with
    | call invocation =>
      have calls := similarCalls_bare each
      exact ⟨calls.similar, fun _ same => Node.call.inj same ▸ calls⟩
    | block invocation body place =>
      have calls := (ih _ List.mem_cons_self).2 invocation rfl
      refine ⟨?_, nofun⟩
      cases body with
      | none => exact calls.similar_block (sameFace_position _ _) .nil
      | some body =>
        have inside := each body (List.mem_cons_of_mem _ List.mem_cons_self)
        exact calls.similar_block (sameFace_position _ _) (.cons inside.toSimilarStatements .nil)
    | sequence statements place =>
      exact ⟨similar_row (sameFace_position _ _) (similar_bareAll each), nofun⟩
    | other kind children text place =>
      exact ⟨similar_other (sameFace_position _ _) (.of_similar (similar_bareAll each)), nofun⟩
    | _ =>
      exact ⟨similar_plain ⟨rfl, fun _ => rfl⟩ ⟨rfl, fun _ => rfl⟩ (sameFace_position _ _) .nil
        fun _ => rfl, nofun⟩

/-- **The same trees have the same sketch.** -/
theorem sketch_eq_of_bare {first second : Node} (same : first.bare = second.bare)
    (around : Set String) (before : Nat) :
    first.sketch position around before = second.sketch position around before := by
  rw [(similar_bare first).sketch, same, ← (similar_bare second).sketch]

theorem isGroup_bare (node : Node) : node.bare.isGroup = node.isGroup := by
  cases node with
  | block invocation body place =>
    obtain ⟨method, arguments, receiver, _⟩ := invocation
    have same : isGroupReceiver (receiver.map Node.bare) = isGroupReceiver receiver := by
      cases receiver with
      | none => rfl
      | some receiver => exact (isGroupReceiver_bare receiver).symm
    have group := congrArg (groupMethods.contains method && ·) same
    cases body <;> cases receiver <;> exact group
  | _ => rfl

/-! ### More names around -/

/-- With more names around, an entry that should be reported still is. -/
theorem Entry.reported_mono {Mark : Type} {around more : Set String} (within : around ⊆ more)
    (entry : Entry Mark) :
    entry.reported around = none ∨ entry.reported around = entry.reported more := by
  classical
  unfold Entry.reported
  split
  · rename_i name named
    by_cases mem : name ∈ around
    · rw [if_pos mem, if_pos (within mem)]
      exact Or.inr rfl
    · exact Or.inl (if_neg mem)
  · exact Or.inl rfl

theorem filterMap_sublist {Item Image : Type} {first second : Item → Option Image}
    (each : ∀ item, first item = none ∨ first item = second item) (items : List Item) :
    (items.filterMap first).Sublist (items.filterMap second) := by
  induction items with
  | nil => exact .slnil
  | cons item rest ih =>
    rw [List.filterMap_cons, List.filterMap_cons]
    rcases each item with none | same
    · rw [none]
      cases second item with
      | none => exact ih
      | some _ => exact ih.cons _
    · rw [same]
      cases second item with
      | none => exact ih
      | some _ => exact ih.cons_cons _

/-- **With more names around a tree, its groups report the same and maybe more.** -/
theorem reported_sublist {Mark : Type} {marking : Marking Mark} {around more : Set String}
    (within : around ⊆ more) (node : Node) (before : Nat) :
    ((node.sketch marking around before).flatMap GroupSketch.reported).Sublist
      ((node.sketch marking more before).flatMap GroupSketch.reported) := by
  rw [← Set.union_empty around, ← Set.union_empty more, Node.sketch_union, Node.sketch_union,
    List.flatMap_map, List.flatMap_map]
  refine List.Sublist.flatMap_right _ fun group _ => filterMap_sublist (fun entry => ?_) _
  exact entry.reported_mono (Set.union_subset_union_left _ within)

/-! ### The offenses inside of a tree -/

/-- The offenses of a result about declarations of the tree at a place, each by where its
declaration stands in the tree and by its name. -/
def Result.offensesIn (result : Result) (here : Occurrence) : List (Nat × String) :=
  (result.offenses.filter fun offense =>
    here.pos ≤ offense.declaration.pos && offense.declaration.pos < here.stop).map
      fun offense => (offense.declaration.pos - here.pos, offense.name)

variable {root here group declaration : Occurrence}

theorem Node.kind_of_isGroup {node : Node} (isGroup : node.isGroup = true) : node.kind = .block := by
  cases node with
  | block => rfl
  | _ => cases isGroup

theorem Node.isLet_of_isGroup {node : Node} (isGroup : node.isGroup = true) :
    node.isLet = false := by
  cases node with
  | block invocation body place =>
    have disjoint : ∀ method ∈ groupMethods, letMethods.contains method = false := by decide
    have method := List.contains_iff_mem.mp (Bool.and_eq_true_iff.mp isGroup).1
    show (invocation.receiver.isNone && letMethods.contains invocation.method) = false
    rw [disjoint _ method, Bool.and_false]
  | _ => cases isGroup

/-- **A direct declaration of a group stands in another group if and only if the group does.** -/
theorem Occurrence.DirectIn.mem_walk_iff (direct : declaration.DirectIn group)
    (groupMem : group ∈ root.walk) (hereMem : here ∈ root.walk)
    (isGroup : here.node.isGroup = true) : declaration ∈ here.walk ↔ group ∈ here.walk := by
  have declarationMem := walk_trans direct.encloses.mem_walk groupMem
  constructor
  · intro inside
    rcases mem_walk_iff_encloses.mp inside with rfl | encloses
    · -- A group is no declaration.
      have declares := direct.1
      rw [Node.isLet_of_isGroup isGroup] at declares
      cases declares
    · by_contra outside
      have bounds := (encloses_iff_between hereMem declarationMem).mp encloses
      have around := (encloses_iff_between groupMem declarationMem).mp direct.encloses
      have before : group.pos < here.pos := by
        by_contra after
        rcases mem_walk_or_stop_le hereMem groupMem (not_lt.mp after) with inner | behind
        · exact outside inner
        · omega
      have between := (encloses_iff_between groupMem hereMem).mpr ⟨before, by omega⟩
      have row := direct.kind_between groupMem between encloses
      rw [Node.kind_of_isGroup isGroup] at row
      cases row
  · exact fun inside => walk_trans direct.encloses.mem_walk inside

theorem filter_flatMap_of_each {Item Image : Type} {images : Item → List Image}
    {keeps : Image → Bool} {inside : Item → Bool} {items : List Item}
    (each : ∀ item ∈ items, ∀ image ∈ images item, keeps image = inside item) :
    (items.flatMap images).filter keeps = (items.filter inside).flatMap images := by
  rw [List.filter_flatMap]
  induction items with
  | nil => rfl
  | cons item rest ih =>
    rw [List.flatMap_cons, ih fun other mem => each other (List.mem_cons_of_mem _ mem),
      List.filter_cons]
    have here := each item List.mem_cons_self
    by_cases kept : inside item = true
    · rw [if_pos kept, List.flatMap_cons]
      congr 1
      exact List.filter_eq_self.mpr fun image mem => (here image mem).trans kept
    · rw [if_neg kept, List.filter_eq_nil_iff.mpr fun image mem => here image mem ▸ kept,
        List.nil_append]

/-- The groups inside of a tree, among those of the tree it stands in. -/
theorem groups_eq_filter (hereMem : here ∈ root.walk) :
    here.groups =
      root.groups.filter fun group => here.pos ≤ group.pos && group.pos < here.stop := by
  refine Occurrence.eq_of_sorted here.groups_sorted (root.groups_sorted.filter _) fun group => ?_
  rw [List.mem_filter, Occurrence.mem_groups, Occurrence.mem_groups]
  constructor
  · rintro ⟨inside, isGroup⟩
    have mem := Occurrence.walk_trans inside hereMem
    refine ⟨⟨mem, isGroup⟩, ?_⟩
    simpa using (Occurrence.mem_walk_iff_between hereMem mem).mp inside
  · rintro ⟨⟨mem, isGroup⟩, between⟩
    exact ⟨(Occurrence.mem_walk_iff_between hereMem mem).mpr (by simpa using between), isGroup⟩

theorem ranksFrom_sub {base pos : Nat} (nodes : List Node) (after : base ≤ pos) :
    position.RanksFrom (fun other => other - base) pos nodes := by
  induction nodes generalizing pos with
  | nil => trivial
  | cons node rest ih =>
    refine ⟨?_, ih (Nat.le_succ_of_le after)⟩
    show pos + 1 - base = pos - base + 1
    omega

/-- **The offenses inside of a group are those of its sketch.** -/
theorem offensesIn_eq {tree : Node} {file : String} {result : Result}
    (analyzed : analyzeTree tree file = .ok result)
    (hereMem : here ∈ (⟨0, tree⟩ : Occurrence).walk) (isGroup : here.node.isGroup = true) :
    result.offensesIn here =
      (here.node.sketch position (namesAround ⟨0, tree⟩ here) 0).flatMap GroupSketch.reported := by
  obtain ⟨_, rfl⟩ := analyzeTree_eq_ok_iff.mp analyzed
  have ranks := ranksFrom_sub here.node.preorder (le_refl here.pos)
  have groups := groups_eq_sketch hereMem ranks
  rw [Nat.sub_self] at groups
  rw [← groups, ← flatMap_overriddenIn, groups_eq_filter hereMem, Result.offensesIn, overridden,
    filter_flatMap_of_each]
  · rfl
  · intro group groupMem offense offenseMem
    have direct := directIn_of_mem_overriddenIn offenseMem
    have mem := (Occurrence.mem_groups.mp groupMem).1
    have same := direct.mem_walk_iff mem hereMem isGroup
    rw [Occurrence.mem_walk_iff_between hereMem mem, Occurrence.mem_walk_iff_between hereMem
      (Occurrence.walk_trans direct.encloses.mem_walk mem)] at same
    rw [Bool.eq_iff_iff]
    simpa only [Bool.and_eq_true, decide_eq_true_eq] using same

/-- **What is reported inside of a group depends on the names around it only.** Where the same group
stands in two trees, more names around the one than around the other lead to the same offenses inside
and maybe to more, and the same names lead to the same offenses, in the same order. -/
theorem offensesIn_local {first second : Node} {firstFile secondFile : String}
    {firstResult secondResult : Result} (firstAnalyzed : analyzeTree first firstFile = .ok firstResult)
    (secondAnalyzed : analyzeTree second secondFile = .ok secondResult) {here there : Occurrence}
    (hereMem : here ∈ (⟨0, first⟩ : Occurrence).walk)
    (thereMem : there ∈ (⟨0, second⟩ : Occurrence).walk) (isGroup : here.node.isGroup = true)
    (same : here.node.bare = there.node.bare) :
    (namesAround ⟨0, first⟩ here ⊆ namesAround ⟨0, second⟩ there →
      (firstResult.offensesIn here).Sublist (secondResult.offensesIn there)) ∧
    (namesAround ⟨0, first⟩ here = namesAround ⟨0, second⟩ there →
      firstResult.offensesIn here = secondResult.offensesIn there) := by
  have thereGroup : there.node.isGroup = true := by
    rwa [← isGroup_bare, ← same, isGroup_bare]
  rw [offensesIn_eq firstAnalyzed hereMem isGroup, offensesIn_eq secondAnalyzed thereMem thereGroup,
    sketch_eq_of_bare same]
  exact ⟨fun within => reported_sublist within _ _, fun equal => by rw [equal]⟩

/-! ### Names around a place, computed -/

/-- The name that a declaration is known to have. -/
def Occurrence.knownName? (declaration : Occurrence) : Option String :=
  match declaration.resolve with
  | .ok (.known name) => some name
  | _ => none

theorem Occurrence.knownName?_eq_some_iff {declaration : Occurrence} {name : String} :
    declaration.knownName? = some name ↔ declaration.resolve = .ok (.known name) := by
  unfold knownName?
  split <;> simp_all

/-- **The names around a place are those of the declarations around its position.** -/
theorem mem_namesAround_iff {place : Occurrence} (placeMem : place ∈ root.walk) (name : String) :
    name ∈ namesAround root place ↔
      name ∈ (root.declarationsAround place.pos).filterMap Occurrence.knownName? := by
  simp only [List.mem_filterMap, mem_declarationsAround root.self_mem_walk placeMem,
    Occurrence.knownName?_eq_some_iff]
  constructor
  · rintro ⟨outer, outerMem, encloses, declared, direct, named⟩
    exact ⟨declared, ⟨outer, outerMem, encloses, direct⟩, named⟩
  · rintro ⟨declared, ⟨outer, outerMem, encloses, direct⟩, named⟩
    exact ⟨outer, outerMem, encloses, declared, direct, named⟩

/-- A group that declares two names. -/
def twoNames : Node :=
  contextOf [letOf "a", letOf "b"]

/-- The group stands below another that declares one of the names. -/
def oneAround : Node :=
  contextOf [letOf "a", twoNames]

/-- The group stands below two others, behind a third, and both names are declared around it. -/
def twoAround : Node :=
  contextOf [letOf "a", contextOf [contextOf [letOf "c"], letOf "a", letOf "b", twoNames]]

/-- In `twoAround` the inner group has the offense that it has in `oneAround`, and another. -/
theorem offensesIn_local_twoAround :
    ∃ first second, analyzeTree oneAround "a_spec.rb" = .ok first ∧
      analyzeTree twoAround "b_spec.rb" = .ok second ∧
      namesAround ⟨0, oneAround⟩ ⟨5, twoNames⟩ ⊆ namesAround ⟨0, twoAround⟩ ⟨17, twoNames⟩ ∧
      (first.offensesIn ⟨5, twoNames⟩).Sublist (second.offensesIn ⟨17, twoNames⟩) ∧
      first.offensesIn ⟨5, twoNames⟩ = [(3, "a")] ∧
      second.offensesIn ⟨17, twoNames⟩ = [(3, "a"), (5, "b")] := by
  have firstAnalyzed : analyzeTree oneAround "a_spec.rb" = .ok _ := rfl
  have secondAnalyzed : analyzeTree twoAround "b_spec.rb" = .ok _ := rfl
  have firstMem : ⟨5, twoNames⟩ ∈ (⟨0, oneAround⟩ : Occurrence).walk :=
    List.mem_of_getElem? (i := 5) rfl
  have secondMem : ⟨17, twoNames⟩ ∈ (⟨0, twoAround⟩ : Occurrence).walk :=
    List.mem_of_getElem? (i := 17) rfl
  have within : namesAround ⟨0, oneAround⟩ ⟨5, twoNames⟩ ⊆
      namesAround ⟨0, twoAround⟩ ⟨17, twoNames⟩ := by
    intro name mem
    rw [mem_namesAround_iff firstMem] at mem
    rw [mem_namesAround_iff secondMem]
    obtain rfl : name = "a" := List.mem_singleton.mp mem
    decide
  exact ⟨_, _, firstAnalyzed, secondAnalyzed, within,
    (offensesIn_local firstAnalyzed secondAnalyzed firstMem secondMem rfl rfl).1 within,
    by decide, by decide⟩

end LetShadow
