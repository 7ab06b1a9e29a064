/-
**Bindings and the bare names that they make local variables.**

A bare name reads a local variable if the name has been bound before. Names are bound where a
conversion plans the assignment, or the call with a block, that binds them.

* `boundBefore` — has a name been bound when the conversion comes to a place? `tree_eq_treeBy`: **a
  tree is converted by this rule, place by place.**
* `Spot.bindings` — the places at which a node binds a name; a call without a method binds none of
  them.
* `boundBefore_iff_of_ordered` — **a bare name has been bound exactly if a node binds it before the
  name, or around it.**
* `boundInSource` — does a binding of the name stand at a place or before it?
* `words_follow_bindings` — **how trees go by bindings, and when they go by their places.**
-/

import LetShadow.Proofs.Ruby.Placement

namespace LetShadow.Ruby

/-! ### Names bound on the way -/

/-- Has the name of a place been bound when a conversion comes to the place? -/
def boundBefore (root place : Spot) : Bool :=
  (root.reached.takeWhile fun other => other.pos ≠ place.pos).any fun other =>
    (boundBy other.node).contains place.node.text

/-- The places before a place are those that the conversion comes to before. -/
theorem takeWhile_reached {root place : Spot} {before after : List Spot}
    (split : root.reached = before ++ place :: after) :
    (root.reached.takeWhile fun other => other.pos ≠ place.pos) = before := by
  have distinct := Spot.reached_nodup root
  have inside := Spot.reached_subset_walk root
  rw [split] at distinct inside
  have apart : ∀ other ∈ before, decide (other.pos ≠ place.pos) = true := by
    intro other mem
    refine decide_eq_true fun same => ?_
    have equal := Spot.eq_of_pos_eq (inside (List.mem_append_left _ mem))
      (inside (List.mem_append_right _ List.mem_cons_self)) same
    exact (List.nodup_append'.mp distinct).2.2 mem (equal ▸ List.mem_cons_self)
  rw [split, List.takeWhile_append_of_pos apart, List.takeWhile_cons_of_neg (by simp),
    List.append_nil]

theorem boundBefore_iff {root place : Spot} {before after : List Spot}
    (split : root.reached = before ++ place :: after) :
    boundBefore root place = true ↔ ∃ other ∈ before, place.node.text ∈ boundBy other.node := by
  rw [boundBefore, takeWhile_reached split]
  simp

theorem decides_boundBefore (root : Spot) : Decides (boundBefore root) [] root.reached := by
  intro before word after split isWord
  obtain ⟨early, late, whole, rfl, rest⟩ := List.filter_eq_append_iff.mp split
  obtain ⟨passed, later, rfl, without, -, -⟩ := List.filter_eq_cons_iff.mp rest
  rw [← List.append_assoc] at whole
  rw [boundBefore_iff whole]
  constructor
  · rintro ⟨place, mem, binds⟩
    have matters := Spot.matters_of_mem binds
    rcases List.mem_append.mp mem with here | there
    · exact .inr ⟨place, List.mem_filter.mpr ⟨here, matters⟩, binds⟩
    · exact absurd matters (without place there)
  · rintro (⟨⟨⟩⟩ | ⟨place, mem, binds⟩)
    exact ⟨place, List.mem_append_left _ (List.mem_of_mem_filter mem), binds⟩

/-- **A tree is converted place by place:** a bare name is a local variable exactly if it has been
bound by a place that the conversion comes to before. -/
theorem tree_eq_treeBy (source : Concrete) :
    tree source = treeBy (boundBefore ⟨0, source⟩) ⟨0, source⟩ := by
  rw [tree, treeBy, Conversion.build_eq_convert, Conversion.build_eq_convert]
  have placed := convert_placed ⟨0, source⟩ (decides_boundBefore ⟨0, source⟩)
  exact (SameOutcome.map (placed.imp fun _ _ both => both.1)).eq

/-! ### Bindings -/

namespace Spot

/-- The places at which a node binds a name: the name on the left of an assignment, or the names among
the parameters of the block that is attached to a call. -/
def bindings (here : Spot) : List Spot :=
  if here.node.type ∈ assignmentTypes then
    ((here.childAt? "left").filter fun left => isIdentifier left.node).toList
  else if here.node.type ∈ callTypes then
    match here.attachedBlock?.bind fun block => block.childAt? "parameters" with
    | some parameters => parameters.children.filter fun parameter => isIdentifier parameter.node
    | none => []
  else []

/-- Calls without a method name do not count. -/
def IsNamed (here : Spot) : Prop :=
  here.node.type ∈ callTypes → (here.childAt? "method").isSome

instance : DecidablePred IsNamed := fun here =>
  inferInstanceAs (Decidable (here.node.type ∈ callTypes → (here.childAt? "method").isSome))

/-- **A node binds the names at its bindings,** unless it is a call without a method. -/
theorem boundBy_eq (here : Spot) :
    boundBy here.node =
      if here.IsNamed then here.bindings.map fun name => name.node.text else [] := by
  have method : (here.node.childAt? "method").isSome = (here.childAt? "method").isSome := by
    rw [← map_node_childAt?, Option.isSome_map]
  unfold boundBy bindings
  simp only [List.contains_iff_mem, method]
  by_cases assigns : here.node.type ∈ assignmentTypes
  · have noCall : here.node.type ∉ callTypes := by
      simp only [assignmentTypes, List.mem_cons, List.not_mem_nil, or_false] at assigns
      rcases assigns with type | type <;> simp [type, callTypes]
    have isNamed : here.IsNamed := fun call => absurd call noCall
    rw [if_pos assigns, if_pos assigns, if_pos isNamed, ← map_node_childAt?]
    cases here.childAt? "left" with
    | none => rfl
    | some left => cases named : isIdentifier left.node <;> simp [Option.filter, named]
  rw [if_neg assigns, if_neg assigns]
  by_cases call : here.node.type ∈ callTypes
  · rw [if_pos call]
    by_cases named : (here.childAt? "method").isSome = true
    · have isNamed : here.IsNamed := fun _ => named
      rw [if_pos ⟨call, named⟩, if_pos isNamed, ← map_node_attachedBlock?]
      cases here.attachedBlock? with
      | none => rfl
      | some block =>
        simp only [Option.map_some, Option.getD_some, Option.bind_some, blockParameters,
          ← map_node_childAt?]
        cases block.childAt? "parameters" with
        | none => rfl
        | some parameters =>
          simp only [Option.map_some, ← map_node_children, List.filter_map, List.map_map]
          rfl
    · have nameless : ¬ here.IsNamed := fun isNamed => named (isNamed call)
      rw [if_neg fun both => named both.2, if_neg nameless]
  · rw [if_neg fun both => call both.1, if_neg call, List.map_nil, ite_self]

theorem pos_lt_of_mem_walk_child {here child place : Spot} (mem : child ∈ here.children)
    (inside : place ∈ child.walk) : here.pos < place.pos := by
  have sorted := walk_sorted here
  rw [walk_eq] at sorted
  exact (List.pairwise_cons.mp sorted).1 place (List.mem_flatMap.mpr ⟨child, mem, inside⟩)

/-- A name is bound inside the node that binds it. -/
theorem exists_child_of_mem_bindings {here name : Spot} (mem : name ∈ here.bindings) :
    ∃ child ∈ here.children, name ∈ child.walk := by
  unfold bindings at mem
  split_ifs at mem with assigns call
  · rw [Option.mem_toList] at mem
    exact ⟨name, mem_of_childAt? (Option.filter_eq_some_iff.mp mem).1, self_mem_walk name⟩
  · split at mem
    · rename_i parameters found
      obtain ⟨block, attached, atBlock⟩ := Option.bind_eq_some_iff.mp found
      refine ⟨block, mem_of_childAt? (Option.filter_eq_some_iff.mp attached).1, ?_⟩
      exact child_walk_subset (mem_of_childAt? atBlock)
        (child_walk_subset (List.mem_of_mem_filter mem) (self_mem_walk name))
    · cases mem
  · cases mem

end Spot

/-! ### Names and the places of their bindings -/

/-- **A place is before another exactly if it stands before it,** where all calls are in order. -/
theorem mem_before_iff {root other place : Spot} {before after : List Spot}
    (ordered : ∀ call ∈ root.walk, call.node.type ∈ callTypes → call.IsOrdered)
    (split : root.reached = before ++ place :: after) :
    other ∈ before ↔ other ∈ root.reached ∧ other.pos < place.pos := by
  have sorted := (Spot.walk_sorted root).sublist (Spot.reached_sublist_walk root ordered)
  rw [split, List.pairwise_append, List.pairwise_cons] at sorted
  obtain ⟨-, ⟨late, -⟩, early⟩ := sorted
  rw [split]
  constructor
  · exact fun mem => ⟨List.mem_append_left _ mem, early other mem place List.mem_cons_self⟩
  · rintro ⟨mem, less⟩
    rcases List.mem_append.mp mem with mem | mem
    · exact mem
    rcases List.mem_cons.mp mem with rfl | mem
    · exact absurd less (lt_irrefl _)
    · exact absurd (less.trans (late other mem)) (lt_irrefl _)

/-- **A bare name has been bound before** exactly if a node that is no call without method binds it,
before the name or around it. -/
theorem boundBefore_iff_of_ordered {root word : Spot}
    (ordered : ∀ call ∈ root.walk, call.node.type ∈ callTypes → call.IsOrdered)
    (mem : word ∈ root.reached) (isWord : word.node.type = "identifier") :
    boundBefore root word = true ↔
      ∃ binder ∈ root.reached, binder.IsNamed ∧
        ∃ name ∈ binder.bindings, name.node.text = word.node.text ∧
          (name.pos ≤ word.pos ∨ word ∈ binder.walk) := by
  obtain ⟨before, after, split⟩ := List.append_of_mem mem
  have places := Spot.reached_subset_walk root
  rw [boundBefore_iff split]
  constructor
  · rintro ⟨binder, isBefore, binds⟩
    obtain ⟨reached, less⟩ := (mem_before_iff ordered split).mp isBefore
    rw [Spot.boundBy_eq] at binds
    split_ifs at binds with named
    · obtain ⟨name, bound, text⟩ := List.mem_map.mp binds
      refine ⟨binder, reached, named, name, bound, text, ?_⟩
      obtain ⟨child, childMem, inside⟩ := Spot.exists_child_of_mem_bindings bound
      have bounds := Spot.walk_bounds (Spot.child_walk_subset childMem inside)
      by_cases within : word.pos < binder.pos + binder.node.size
      · exact .inr (Spot.mem_walk_of_between (places reached) (places mem) less.le within)
      · exact .inl (by omega)
    · cases binds
  · rintro ⟨binder, reached, named, name, bound, text, stands⟩
    have binds : word.node.text ∈ boundBy binder.node := by
      rw [Spot.boundBy_eq, if_pos named]
      exact List.mem_map.mpr ⟨name, bound, text⟩
    refine ⟨binder, (mem_before_iff ordered split).mpr ⟨reached, ?_⟩, binds⟩
    obtain ⟨child, childMem, inside⟩ := Spot.exists_child_of_mem_bindings bound
    have within := Spot.pos_lt_of_mem_walk_child childMem inside
    rcases stands with after | inBinder
    · omega
    · have bounds := Spot.walk_bounds inBinder
      refine lt_of_le_of_ne bounds.1 fun same => ?_
      rw [Spot.eq_of_pos_eq (places reached) (places mem) same, boundBy_of_word isWord] at binds
      cases binds

/-- Does a binding of the name of a place stand at the place or before it? -/
def boundInSource (root place : Spot) : Bool :=
  root.reached.any fun binder => binder.bindings.any fun name =>
    name.node.text = place.node.text ∧ name.pos ≤ place.pos

/-- **Bare names follow the order of the bindings.** -/
theorem words_follow_bindings (source : Concrete) :
    tree source = treeBy (boundBefore ⟨0, source⟩) ⟨0, source⟩ ∧
      (∀ node, tree source = .ok node →
        (treeBy (boundInSource ⟨0, source⟩) ⟨0, source⟩ = .ok node ↔
          ∀ word ∈ (⟨0, source⟩ : Spot).reached, word.node.type = "identifier" →
            boundBefore ⟨0, source⟩ word = boundInSource ⟨0, source⟩ word)) ∧
      ((∀ call ∈ (⟨0, source⟩ : Spot).walk, call.node.type ∈ callTypes → call.IsOrdered) →
        ∀ word ∈ (⟨0, source⟩ : Spot).reached, word.node.type = "identifier" →
          (boundBefore ⟨0, source⟩ word = true ↔
            ∃ binder ∈ (⟨0, source⟩ : Spot).reached, binder.IsNamed ∧
              ∃ name ∈ binder.bindings, name.node.text = word.node.text ∧
                (name.pos ≤ word.pos ∨ word ∈ binder.walk))) := by
  refine ⟨tree_eq_treeBy source, fun node converts => ?_,
    fun ordered word mem isWord => boundBefore_iff_of_ordered ordered mem isWord⟩
  exact treeBy_eq_ok_iff ((tree_eq_treeBy source).symm.trans converts)

/-- The concrete tree of `foo(x) { |x| x }`. -/
def parameterBehind : Concrete :=
  onLine none "call" "" 0
    [ onLine (some "method") "identifier" "foo" 0 [],
      onLine (some "arguments") "argument_list" "" 3 [onLine none "identifier" "x" 4 []],
      onLine (some "block") "block" "" 7
        [ onLine (some "parameters") "block_parameters" "" 9 [onLine none "identifier" "x" 10 []],
          onLine (some "body") "block_body" "" 13 [onLine none "identifier" "x" 13 []]] ]

/-- The concrete tree of `foo.() { |x| x }`. -/
def parameterOfNameless : Concrete :=
  onLine none "call" "" 0
    [ onLine (some "receiver") "identifier" "foo" 0 [],
      onLine (some "arguments") "argument_list" "" 4 [],
      onLine (some "block") "block" "" 7
        [ onLine (some "parameters") "block_parameters" "" 9 [onLine none "identifier" "x" 10 []],
          onLine (some "body") "block_body" "" 13 [onLine none "identifier" "x" 13 []]] ]

/-- The places at which a tree reads a local variable. -/
def readings (root : Node) : List (Option Location) :=
  (root.preorder.filter fun node => node.kind = .localVariable).map Node.location

theorem words_follow_bindings_parameterBehind :
    ∃ root, tree parameterBehind = .ok root ∧ readings root = [some ⟨1, 4⟩, some ⟨1, 13⟩] ∧
      treeBy (boundBefore ⟨0, parameterBehind⟩) ⟨0, parameterBehind⟩ = .ok root ∧
      ∀ word ∈ (⟨0, parameterBehind⟩ : Spot).reached, word.node.type = "identifier" →
        ∃ binder ∈ (⟨0, parameterBehind⟩ : Spot).reached, binder.IsNamed ∧
          ∃ name ∈ binder.bindings, name.node.text = word.node.text ∧
            (name.pos ≤ word.pos ∨ word ∈ binder.walk) := by
  have ordered : ∀ call ∈ (⟨0, parameterBehind⟩ : Spot).walk, call.node.type ∈ callTypes →
      call.IsOrdered := by
    simp [Spot.walk_eq, Spot.children, Spot.placed, parameterBehind, onLine, callTypes,
      Spot.IsOrdered, Spot.childAt?, Concrete.size, Concrete.forestSize]
  have found : (tree parameterBehind).map readings = .ok [some ⟨1, 4⟩, some ⟨1, 13⟩] := by
    decide +kernel
  have bound : ∀ word ∈ (⟨0, parameterBehind⟩ : Spot).reached, word.node.type = "identifier" →
      boundBefore ⟨0, parameterBehind⟩ word = true := by
    decide +kernel
  obtain ⟨root, converts, places⟩ := map_eq_ok_iff.mp found
  obtain ⟨byPlaces, -, byBindings⟩ := words_follow_bindings parameterBehind
  exact ⟨root, converts, places, byPlaces.symm.trans converts, fun word mem isWord =>
    (byBindings ordered word mem isWord).mp (bound word mem isWord)⟩

/-- **Not by the places of bindings alone:** a parameter makes local variables of the names in the
arguments in front of it, and the parameters of a call without a method make none. -/
theorem words_misplaced :
    tree parameterBehind ≠
        treeBy (boundInSource ⟨0, parameterBehind⟩) ⟨0, parameterBehind⟩ ∧
      tree parameterOfNameless ≠
        treeBy (boundInSource ⟨0, parameterOfNameless⟩) ⟨0, parameterOfNameless⟩ := by
  refine ⟨fun same => ?_, fun same => ?_⟩
  · have places := congrArg (Except.map readings) same
    revert places
    decide +kernel
  · have places := congrArg (Except.map readings) same
    revert places
    decide +kernel

end LetShadow.Ruby
