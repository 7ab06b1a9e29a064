/-
**Conversions that go by places.**

A conversion of a concrete tree keeps the names bound so far. Whether a bare name is a local variable
may as well be told by a rule, place by place, with no state that goes along.

* `Spot.reached_nodup` — **a conversion comes to no place twice.**
* `treeBy` — the syntax tree in which a rule tells which bare names are local variables.
* `Decides` — a rule that decides as the conversion does, and `convert_placed`: **it gives what the
  conversion gives.**
* `plan_injective` — the parts of a plan can be read off what it puts together, so that two rules give
  the same tree exactly if they agree on the bare names that are reached (`treeBy_eq_ok_iff`).
-/

import LetShadow.Proofs.Ruby.Words
import LetShadow.Proofs.Ruby.Blocks

namespace LetShadow.Ruby

open Conversion (convert convertAll convertAll_nil of_convertAll_cons)

namespace Spot

theorem walk_bounds {here place : Spot} (mem : place ∈ here.walk) :
    here.pos ≤ place.pos ∧ place.pos < here.pos + here.node.size := by
  have among : place.pos ∈ here.walk.map pos := List.mem_map_of_mem mem
  rw [walk_positions] at among
  exact List.mem_range'_1.mp among

theorem walk_nodup (here : Spot) : here.walk.Nodup :=
  (walk_sorted here).imp fun less same => absurd (same ▸ less) (lt_irrefl _)

/-- A tree has one place at each position. -/
theorem eq_of_pos_eq {root first second : Spot} (firstMem : first ∈ root.walk)
    (secondMem : second ∈ root.walk) (same : first.pos = second.pos) : first = second := by
  have distinct : (root.walk.map pos).Nodup := by
    rw [walk_positions]
    exact List.nodup_range'
  exact List.inj_on_of_nodup_map distinct firstMem secondMem same

/-- What stands between the first and the last place of a tree stands in it. -/
theorem mem_walk_of_between {root here place : Spot} (hereMem : here ∈ root.walk)
    (placeMem : place ∈ root.walk) (after : here.pos ≤ place.pos)
    (before : place.pos < here.pos + here.node.size) : place ∈ here.walk := by
  have among : place.pos ∈ here.walk.map pos := by
    rw [walk_positions]
    exact List.mem_range'_1.mpr ⟨after, before⟩
  obtain ⟨other, otherMem, same⟩ := List.mem_map.mp among
  rwa [← eq_of_pos_eq (walk_trans otherMem hereMem) placeMem same]

/-! ### Places that are reached -/

theorem piece_walk_subset {here piece : Spot} (mem : piece ∈ here.pieces) :
    piece.walk ⊆ here.walk := by
  obtain ⟨child, childMem, inside⟩ := exists_child_of_mem_pieces mem
  exact fun place inner => child_walk_subset childMem (walk_trans inner inside)

theorem reached_subset_walk (here : Spot) : here.reached ⊆ here.walk := by
  rw [reached_eq]
  refine List.cons_subset.mpr ⟨self_mem_walk here, fun place mem => ?_⟩
  obtain ⟨piece, pieceMem, inside⟩ := List.mem_flatMap.mp mem
  have := piece_size_lt pieceMem
  exact piece_walk_subset pieceMem (reached_subset_walk piece inside)
termination_by here.node.size

theorem children_walks_nodup (here : Spot) : (here.children.flatMap walk).Nodup :=
  (walk_nodup here).sublist (flatMap_children_sublist_walk here)

/-- Different children have no places in common. -/
theorem children_apart {here first second : Spot} (firstMem : first ∈ here.children)
    (secondMem : second ∈ here.children) (differ : first ≠ second) :
    first.walk.Disjoint second.walk := by
  have pairwise := (List.nodup_flatMap.mp (children_walks_nodup here)).2
  have symmetric : Std.Symm (Function.onFun List.Disjoint walk) :=
    ⟨fun _ _ apart => List.disjoint_symm apart⟩
  exact pairwise.forall firstMem secondMem differ

theorem field_of_childAt? {here child : Spot} {field : String}
    (found : here.childAt? field = some child) : child.node.field = some field := by
  have at' := List.find?_some found
  simpa using at'

theorem field_walks_nodup (here : Spot) (field : String) :
    ((here.childAt? field).toList.flatMap walk).Nodup := by
  cases here.childAt? field with
  | none => exact List.nodup_nil
  | some child =>
    rw [Option.toList_some, List.flatMap_singleton]
    exact walk_nodup child

theorem fields_apart (here : Spot) {field field' : String} (differ : field ≠ field') :
    ((here.childAt? field).toList.flatMap walk).Disjoint
      ((here.childAt? field').toList.flatMap walk) := by
  intro place mem mem'
  obtain ⟨child, found, inside⟩ := List.mem_flatMap.mp mem
  obtain ⟨child', found', inside'⟩ := List.mem_flatMap.mp mem'
  rw [Option.mem_toList] at found found'
  refine children_apart (mem_of_childAt? found) (mem_of_childAt? found') ?_ inside inside'
  rintro rfl
  exact differ (Option.some_inj.mp ((field_of_childAt? found).symm.trans (field_of_childAt? found')))

/-- The pieces of a node have no places in common. -/
theorem pieces_walks_nodup (here : Spot) : (here.pieces.flatMap walk).Nodup := by
  have ofChildren : ∀ chosen : List Spot, chosen.Sublist here.children →
      (chosen.flatMap walk).Nodup := fun chosen sub =>
    (children_walks_nodup here).sublist (flatMap_sublist sub fun _ _ => List.Sublist.refl _)
  have each : ∀ child ∈ here.children, ∀ place ∈ child.walk, (walk place).Sublist place.walk :=
    fun _ _ _ _ => List.Sublist.refl _
  have ofField := field_walks_nodup here
  unfold pieces
  split_ifs
  · have receiver := receiver_sublist each
    have arguments := arguments_sublist each
    have statements := statements_sublist each
    rw [List.flatMap_append, List.flatMap_append]
    refine List.nodup_append'.mpr ⟨List.nodup_append'.mpr ⟨?_, ?_, ?_⟩, ?_, ?_⟩
    · exact (ofField _).sublist receiver
    · exact (ofField _).sublist arguments
    · exact fun _ mem mem' => fields_apart here (by decide) (receiver.subset mem)
        (arguments.subset mem')
    · exact (ofField _).sublist statements
    · refine List.disjoint_append_left.mpr ⟨?_, ?_⟩
      · exact fun _ mem mem' => fields_apart here (by decide) (receiver.subset mem)
          (statements.subset mem')
      · exact fun _ mem mem' => fields_apart here (by decide) (arguments.subset mem)
          (statements.subset mem')
  · exact ofChildren _ (List.Sublist.refl _)
  · exact List.nodup_nil
  · exact List.nodup_nil
  · exact ofChildren _ List.filter_sublist
  · exact ofField _
  · exact ofChildren _ List.filter_sublist

/-- **A conversion comes to no place twice.** -/
theorem reached_nodup (here : Spot) : here.reached.Nodup := by
  have ⟨_, apart⟩ := List.nodup_flatMap.mp (pieces_walks_nodup here)
  rw [reached_eq]
  refine List.nodup_cons.mpr ⟨fun mem => ?_, List.nodup_flatMap.mpr ⟨fun piece mem => ?_, ?_⟩⟩
  · obtain ⟨piece, pieceMem, inside⟩ := List.mem_flatMap.mp mem
    have smaller := piece_size_lt pieceMem
    have larger := size_le_of_mem_walk (reached_subset_walk piece inside)
    omega
  · have := piece_size_lt mem
    exact reached_nodup piece
  · exact apart.imp fun disjoint _ mem mem' =>
      disjoint (reached_subset_walk _ mem) (reached_subset_walk _ mem')
termination_by here.node.size

end Spot

/-! ### Conversions that go by places -/

theorem total_map {Item Image : Type} (measure : Image → Nat) (image : Item → Image)
    (items : List Item) :
    total measure (items.map image) = total (fun item => measure (image item)) items := by
  induction items with
  | nil => rfl
  | cons item rest ih => rw [List.map_cons, total_cons, total_cons, ih]

/-- What plans ask for is together smaller than the node. -/
theorem Spot.asked_total_lt (here : Spot) :
    total (fun place : Spot => place.node.size) here.asked < here.node.size := by
  rw [← total_map Concrete.size Spot.node, Spot.map_node_asked]
  by_cases oversized : here.node.IsOversized
  · have noPieces : here.node.pieces = [] := by
      have quoted := oversized.quoted
      simp only [quotedTypes, List.mem_cons, List.not_mem_nil, or_false] at quoted
      have known : (∀ part ∈ here.node.code, part.type ∈ partTypes) := oversized.known
      rcases quoted with type | type <;>
        simp [Concrete.pieces, type, callTypes, sequenceTypes, leafTypes, quotedTypes] <;>
        exact fun part mem no => absurd (known part mem) no
    rw [noPieces]
    exact here.node.size_pos
  · obtain ⟨planned, -, asks⟩ := plan_asksFor oversized []
    exact asks.parts ▸ planned.smaller

/-- The plan of a node at its place, where a rule tells which bare names are local variables. -/
def placePlan (isLocal : Spot → Bool) (here : Spot) :
    Except OversizedCodePoint
      (Plan (fun place : Spot => place.node.size) Node OversizedCodePoint here) :=
  if here.node.type = "identifier" then
    .ok {
      parts := []
      assemble := fun _ => .ok (wordNode here.node (isLocal here))
      smaller := here.node.size_pos }
  else
    (plan here.node []).map fun planned => {
      parts := here.asked
      assemble := planned.assemble
      smaller := here.asked_total_lt }

/-- Plans nodes at their places. No state goes along. -/
def placePlanner (isLocal : Spot → Bool) :
    Conversion.Planner (fun place : Spot => place.node.size) Node OversizedCodePoint Unit :=
  fun here state => do return (← placePlan isLocal here, state)

/-- **The syntax tree in which a rule tells, place by place, which bare names are local variables.** -/
def treeBy (isLocal : Spot → Bool) (here : Spot) : Except OversizedCodePoint Node :=
  (Conversion.build (placePlanner isLocal) here ()).map Prod.fst

variable {isLocal isLocal' : Spot → Bool}

theorem convert_placeWord {here : Spot} (isWord : here.node.type = "identifier") :
    convert (placePlanner isLocal) here () = .ok (wordNode here.node (isLocal here), ()) := by
  have plans : placePlanner isLocal here () = .ok
      ({ parts := []
         assemble := fun _ => .ok (wordNode here.node (isLocal here))
         smaller := here.node.size_pos }, ()) := by
    show (placePlan isLocal here >>= _) = _
    rw [placePlan, if_pos isWord]
    rfl
  exact Conversion.convert_eq_ok plans (convertAll_nil ()) rfl

/-- A node that is no bare name is converted by a plan that is the same in sight of any names. -/
theorem convert_node {node : Concrete} {bound : Names} (noWord : node.type ≠ "identifier") :
    convert planner node bound = (do
      let planned ← plan node []
      let (nodes, last) ← convertAll planner planned.parts (boundBy node ++ bound)
      return (← planned.assemble nodes, last)) := by
  rw [convert]
  show ((plan node _ >>= _) >>= _) = _
  rw [plan_of_noWord noWord]
  cases plan node [] <;> rfl

/-- A node that is no bare name is converted by converting what its plan asks for. -/
theorem convert_placeNode {here : Spot} (noWord : here.node.type ≠ "identifier") :
    convert (placePlanner isLocal) here () = (do
      let planned ← plan here.node []
      let (nodes, _) ← convertAll (placePlanner isLocal) here.asked ()
      return (← planned.assemble nodes, ())) := by
  rw [convert]
  show ((placePlan isLocal here >>= _) >>= _) = _
  rw [placePlan, if_neg noWord]
  cases plan here.node [] <;> rfl

/-! ### Names that are bound on the way -/

/-- The places that a rule for bare names may depend on. -/
def Spot.matters (place : Spot) : Bool :=
  place.node.type = "identifier" || !(boundBy place.node).isEmpty

/-- A rule decides the bare names among places as the conversion does that comes to them in their order:
a name is a local variable if it has been bound before, or is bound by a place in front. -/
def Decides (isLocal : Spot → Bool) (bound : Names) (places : List Spot) : Prop :=
  ∀ before word after, places.filter Spot.matters = before ++ word :: after →
    word.node.type = "identifier" →
    (isLocal word = true ↔
      word.node.text ∈ bound ∨ ∃ place ∈ before, word.node.text ∈ boundBy place.node)

theorem Spot.matters_of_mem {place : Spot} {name : String} (binds : name ∈ boundBy place.node) :
    place.matters = true := by
  have nonempty : boundBy place.node ≠ [] := List.ne_nil_of_mem binds
  simp [matters, nonempty]

theorem Decides.left {bound : Names} {first second : List Spot}
    (decides : Decides isLocal bound (first ++ second)) : Decides isLocal bound first := by
  intro before word after split isWord
  refine decides before word (after ++ second.filter Spot.matters) ?_ isWord
  rw [List.filter_append, split, List.append_assoc, List.cons_append]

/-- The names `last` are the names `bound`, and those that places bind. -/
def Leaves (places : List Spot) (bound last : Names) : Prop :=
  ∀ name, name ∈ last ↔ name ∈ bound ∨ ∃ place ∈ places, name ∈ boundBy place.node

theorem Leaves.append {first second : List Spot} {bound middle last : Names}
    (start : Leaves first bound middle) (rest : Leaves second middle last) :
    Leaves (first ++ second) bound last := by
  intro name
  rw [rest name, start name, or_assoc]
  simp only [List.mem_append, or_and_right, exists_or]

/-- Behind places, the bare names are decided by what the places leave. -/
theorem Decides.right {bound last : Names} {first second : List Spot}
    (decides : Decides isLocal bound (first ++ second)) (leaves : Leaves first bound last) :
    Decides isLocal last second := by
  intro before word after split isWord
  have whole : (first ++ second).filter Spot.matters =
      first.filter Spot.matters ++ before ++ word :: after := by
    rw [List.filter_append, split, List.append_assoc]
  rw [decides _ word after whole isWord, leaves, or_assoc]
  refine or_congr_right ?_
  constructor
  · rintro ⟨place, mem, binds⟩
    rcases List.mem_append.mp mem with early | late
    · exact .inl ⟨place, List.mem_of_mem_filter early, binds⟩
    · exact .inr ⟨place, late, binds⟩
  · rintro (⟨place, mem, binds⟩ | ⟨place, mem, binds⟩)
    · have matters := List.mem_filter.mpr ⟨mem, Spot.matters_of_mem binds⟩
      exact ⟨place, List.mem_append_left _ matters, binds⟩
    · exact ⟨place, List.mem_append_right _ mem, binds⟩

theorem boundBy_of_wrapper {wrapper : Concrete} (wraps : wrapper.isWrapper = true) :
    boundBy wrapper = [] := by
  simp only [Concrete.isWrapper, wrapperTypes, List.contains_iff_mem, List.mem_cons,
    List.not_mem_nil, or_false] at wraps
  rcases wraps with type | type <;> simp [boundBy, type, assignmentTypes, callTypes]

theorem boundBy_of_word {word : Concrete} (isWord : word.type = "identifier") : boundBy word = [] := by
  simp [boundBy, isWord, assignmentTypes, callTypes]

theorem matters_of_wrapper (wrapper : Spot) (wraps : wrapper.node.isWrapper = true) :
    wrapper.matters = false := by
  have noWord : wrapper.node.type ≠ "identifier" := by
    intro isWord
    simp [Concrete.isWrapper, wrapperTypes, isWord] at wraps
  simp [Spot.matters, noWord, boundBy_of_wrapper wraps]

/-- Places that differ in wrappers only leave the same names. -/
theorem Leaves.of_filter_eq {first second : List Spot} {bound last : Names}
    (leaves : Leaves first bound last)
    (same : first.filter Spot.matters = second.filter Spot.matters) : Leaves second bound last := by
  have binders : ∀ (places : List Spot) (name : String),
      (∃ place ∈ places, name ∈ boundBy place.node) ↔
        ∃ place ∈ places.filter Spot.matters, name ∈ boundBy place.node := by
    intro places name
    constructor
    · rintro ⟨place, mem, binds⟩
      exact ⟨place, List.mem_filter.mpr ⟨mem, Spot.matters_of_mem binds⟩, binds⟩
    · rintro ⟨place, mem, binds⟩
      exact ⟨place, List.mem_of_mem_filter mem, binds⟩
  intro name
  rw [leaves name, binders, binders second, same]

theorem Decides.of_filter_eq {first second : List Spot} {bound : Names}
    (decides : Decides isLocal bound first)
    (same : first.filter Spot.matters = second.filter Spot.matters) :
    Decides isLocal bound second := by
  unfold Decides
  rw [← same]
  exact decides

theorem Spot.reached_of_word {here : Spot} (isWord : here.node.type = "identifier") :
    here.reached = [here] := by
  rw [Spot.reached_eq, Spot.pieces]
  simp [isWord, callTypes, leafTypes]

/-- The outcome of a conversion of places: a rule by places gives the same, and the names that are
bound are those that the places leave. -/
def PlacedAlike {Target : Type} (places : List Spot) (bound : Names) :
    Except OversizedCodePoint (Target × Names) → Except OversizedCodePoint (Target × Unit) → Prop :=
  SameOutcome fun found found' => found.1 = found'.1 ∧ Leaves places bound found.2

theorem convertAll_placed {places : List Spot}
    (each : ∀ place ∈ places, ∀ bound, Decides isLocal bound place.reached →
      PlacedAlike place.reached bound (convert planner place.node bound)
        (convert (placePlanner isLocal) place ()))
    {bound : Names} (decides : Decides isLocal bound (places.flatMap Spot.reached)) :
    PlacedAlike (places.flatMap Spot.reached) bound
      (convertAll planner (places.map Spot.node) bound)
      (convertAll (placePlanner isLocal) places ()) := by
  induction places generalizing bound with
  | nil =>
    rw [List.map_nil, convertAll_nil, convertAll_nil]
    exact .ok ⟨rfl, fun name => by simp⟩
  | cons place rest ih =>
    rw [List.flatMap_cons] at decides
    rw [List.map_cons, convertAll, convertAll]
    refine (each place List.mem_cons_self bound decides.left).bind ?_
    rintro ⟨node, middle⟩ ⟨_, _⟩ ⟨rfl, leaves⟩
    have later := ih (fun other mem => each other (List.mem_cons_of_mem _ mem)) (decides.right leaves)
    refine later.bind ?_
    rintro ⟨nodes, last⟩ ⟨_, _⟩ ⟨rfl, leavesToo⟩
    exact .ok ⟨rfl, leaves.append leavesToo⟩

/-- **A rule that decides the bare names as the conversion does gives what the conversion gives.** -/
theorem convert_placed (here : Spot) {bound : Names} (decides : Decides isLocal bound here.reached) :
    PlacedAlike here.reached bound (convert planner here.node bound)
      (convert (placePlanner isLocal) here ()) := by
  by_cases isWord : here.node.type = "identifier"
  · have alone := Spot.reached_of_word isWord
    have matters : here.reached.filter Spot.matters = [] ++ here :: [] := by
      rw [alone]
      simp [Spot.matters, isWord]
    have binds := boundBy_of_word isWord
    have own := decides [] here [] matters isWord
    have same : nameNode here.node bound = wordNode here.node (isLocal here) := by
      unfold nameNode wordNode
      simp [own]
    rw [convert_word isWord, convert_placeWord isWord, binds, alone]
    exact .ok ⟨same, fun name => by simp [binds]⟩
  · rw [convert_node isWord, convert_placeNode isWord]
    cases outcome : plan here.node [] with
    | error error => exact .error error
    | ok planned =>
      obtain ⟨parts, assembles⟩ := asksFor_of_plan outcome
      have own : Leaves [here] bound (boundBy here.node ++ bound) := by
        intro name
        simp [or_comm]
      have same := Spot.filter_reached_asked matters_of_wrapper here
      rw [Spot.reached_eq, ← List.singleton_append] at decides ⊢
      have below := (decides.right own).of_filter_eq same.symm
      have each : ∀ place ∈ here.asked, ∀ bound, Decides isLocal bound place.reached →
          PlacedAlike place.reached bound (convert planner place.node bound)
            (convert (placePlanner isLocal) place ()) := by
        intro place mem bound
        have := Spot.asked_size_lt mem
        exact convert_placed place
      show SameOutcome _ (convertAll planner planned.parts _ >>= _) (convertAll _ _ _ >>= _)
      rw [parts, ← Spot.map_node_asked]
      refine (convertAll_placed each below).bind ?_
      rintro ⟨nodes, last⟩ ⟨_, _⟩ ⟨rfl, leaves⟩
      obtain ⟨node, assembled⟩ := assembles nodes
      show SameOutcome _ (planned.assemble nodes >>= _) (planned.assemble nodes >>= _)
      rw [assembled]
      exact .ok ⟨rfl, own.append (leaves.of_filter_eq same)⟩
termination_by here.node.size

/-! ### Rules that give the same tree -/

/-- Two rules decide the bare names among places alike. -/
def Agree (isLocal isLocal' : Spot → Bool) (places : List Spot) : Prop :=
  ∀ word ∈ places, word.node.type = "identifier" → isLocal word = isLocal' word

theorem Agree.of_filter_eq {first second : List Spot} (agree : Agree isLocal isLocal' first)
    (same : first.filter Spot.matters = second.filter Spot.matters) :
    Agree isLocal isLocal' second := by
  intro word mem isWord
  have kept : word ∈ second.filter Spot.matters :=
    List.mem_filter.mpr ⟨mem, by simp [Spot.matters, isWord]⟩
  exact agree word (List.mem_of_mem_filter (same ▸ kept)) isWord

theorem agree_append {first second : List Spot} :
    Agree isLocal isLocal' (first ++ second) ↔
      Agree isLocal isLocal' first ∧ Agree isLocal isLocal' second :=
  List.forall_mem_append

/-- A bare name tells how it was decided. -/
theorem wordNode_inj {source : Concrete} {first second : Bool} :
    wordNode source first = wordNode source second ↔ first = second := by
  refine ⟨fun same => ?_, fun same => same ▸ rfl⟩
  cases first <;> cases second <;> simp_all [wordNode]

theorem eq_of_bodies {statements statements' : List Node} {place : Option Location}
    (same : (match statements with | [] => none | nodes => some (.sequence nodes place) : Option Node) =
      match statements' with | [] => none | nodes => some (.sequence nodes place)) :
    statements = statements' := by
  cases statements <;> cases statements' <;> simp_all

theorem take_eq_of_head? {Item Image : Type} (item : Option Item) {images images' : List Image}
    (same : (images.take item.toList.length).head? = (images'.take item.toList.length).head?) :
    images.take item.toList.length = images'.take item.toList.length := by
  cases item with
  | none => rfl
  | some item => cases images <;> cases images' <;> simp_all

/-- A list is what it is cut into. -/
theorem eq_of_cuts {Item : Type} (first second : Nat) {items items' : List Item}
    (start : items.take first = items'.take first)
    (middle : (items.drop first).take second = (items'.drop first).take second)
    (rest : (items.drop first).drop second = (items'.drop first).drop second) : items = items' := by
  rw [← List.take_append_drop first items, ← List.take_append_drop second (items.drop first), start,
    middle, rest, List.take_append_drop, List.take_append_drop]

/-- **The pieces of a call can be read off the call.** -/
theorem assembleCall_injective {source : Concrete} {method : String} {nodes nodes' : List Node}
    (count : nodes.length = ((source.childAt? "receiver").toList ++ callArguments source ++
      blockStatements source).length)
    (count' : nodes'.length = ((source.childAt? "receiver").toList ++ callArguments source ++
      blockStatements source).length)
    (same : assembleCall source method nodes = assembleCall source method nodes') :
    nodes = nodes' := by
  unfold assembleCall at same
  cases attached : attachedBlock? source with
  | none =>
    simp only [attached, Node.call.injEq, Call.mk.injEq] at same
    obtain ⟨-, arguments, receiver, -⟩ := same
    refine eq_of_cuts _ _ (take_eq_of_head? _ receiver) arguments ?_
    rw [blockStatements, attached, List.append_nil, List.length_append] at count count'
    rw [List.drop_drop, List.drop_drop, List.drop_of_length_le count.le,
      List.drop_of_length_le count'.le]
  | some block =>
    simp only [attached, Node.block.injEq, Call.mk.injEq] at same
    obtain ⟨⟨-, arguments, receiver, -⟩, statements, -⟩ := same
    exact eq_of_cuts _ _ (take_eq_of_head? _ receiver) arguments (eq_of_bodies statements)

/-- **The parts of a plan can be read off what it puts together.** -/
theorem plan_injective {source : Concrete} {bound : Names} {planned : RubyPlan source}
    (plans : plan source bound = .ok planned) {nodes nodes' : List Node}
    (count : nodes.length = planned.parts.length) (count' : nodes'.length = planned.parts.length)
    (same : planned.assemble nodes = planned.assemble nodes') : nodes = nodes' := by
  have leaf : ∀ node, planned = leafPlan source node → nodes = nodes' := by
    rintro node rfl
    rw [List.length_eq_zero_iff.mp count, List.length_eq_zero_iff.mp count']
  have others : ∀ choose kind text, planned = childrenPlan source choose
      (fun parts => .other kind parts text (some source.location)) → nodes = nodes' := by
    rintro choose kind text rfl
    injection same with same
    injection same
  unfold plan at plans
  split_ifs at plans
  · injection plans with plans
    unfold callPlan at plans
    split at plans
    · exact others _ _ _ plans.symm
    · subst plans
      exact assembleCall_injective count count' (Except.ok.inj same)
  · cases plans
    injection same with same
    injection same
  · injection plans with plans
    exact leaf _ plans.symm
  · injection plans with plans
    exact leaf _ plans.symm
  · rw [quotedPlan_eq] at plans
    split at plans
    · obtain ⟨value, -, plans⟩ := map_eq_ok_iff.mp plans
      exact leaf _ plans.symm
    · injection plans with plans
      exact others _ _ _ plans.symm
  · injection plans with plans
    exact leaf _ plans.symm
  · injection plans with plans
    unfold scopedConstantPlan at plans
    split at plans
    · exact leaf _ plans.symm
    · subst plans
      injection same with same
      injection same
  · injection plans with plans
    exact others _ _ _ plans.symm

/-- Two rules give the same for places exactly if they agree on the bare names that are reached. -/
theorem convertAll_agree {places : List Spot}
    (each : ∀ place ∈ places, SameOutcome
      (fun found found' => found.1 = found'.1 ↔ Agree isLocal isLocal' place.reached)
      (convert (placePlanner isLocal) place ()) (convert (placePlanner isLocal') place ())) :
    SameOutcome
      (fun found found' => (found.1.length = places.length ∧ found'.1.length = places.length) ∧
        (found.1 = found'.1 ↔ Agree isLocal isLocal' (places.flatMap Spot.reached)))
      (convertAll (placePlanner isLocal) places ())
      (convertAll (placePlanner isLocal') places ()) := by
  induction places with
  | nil =>
    rw [convertAll_nil, convertAll_nil]
    exact .ok ⟨⟨rfl, rfl⟩, iff_of_true rfl nofun⟩
  | cons place rest ih =>
    rw [List.flatMap_cons, convertAll, convertAll]
    have others := ih fun other mem => each other (List.mem_cons_of_mem _ mem)
    refine (each place List.mem_cons_self).bind fun node node' here => ?_
    refine others.bind fun nodes nodes' both => ?_
    obtain ⟨⟨count, count'⟩, later⟩ := both
    refine .ok ⟨⟨congrArg Nat.succ count, congrArg Nat.succ count'⟩, ?_⟩
    rw [agree_append, ← here, ← later]
    exact List.cons_eq_cons

/-- **Two rules give the same node exactly if they agree** on the bare names that a conversion comes
to. -/
theorem convert_agree (here : Spot) :
    SameOutcome (fun found found' => found.1 = found'.1 ↔ Agree isLocal isLocal' here.reached)
      (convert (placePlanner isLocal) here ()) (convert (placePlanner isLocal') here ()) := by
  by_cases isWord : here.node.type = "identifier"
  · rw [convert_placeWord isWord, convert_placeWord isWord, Spot.reached_of_word isWord]
    refine .ok (wordNode_inj.trans ?_)
    simp [Agree, isWord]
  · have own : Agree isLocal isLocal' here.reached ↔
        Agree isLocal isLocal' (here.asked.flatMap Spot.reached) := by
      have same := Spot.filter_reached_asked matters_of_wrapper here
      have alone : Agree isLocal isLocal' [here] :=
        fun word mem isWord' => absurd (List.mem_singleton.mp mem ▸ isWord') isWord
      rw [Spot.reached_eq, ← List.singleton_append, agree_append, and_iff_right alone]
      exact ⟨fun agree => agree.of_filter_eq same.symm, fun agree => agree.of_filter_eq same⟩
    rw [convert_placeNode isWord, convert_placeNode isWord]
    cases outcome : plan here.node [] with
    | error error => exact .error error
    | ok planned =>
      have each : ∀ place ∈ here.asked, SameOutcome
          (fun found found' => found.1 = found'.1 ↔ Agree isLocal isLocal' place.reached)
          (convert (placePlanner isLocal) place ()) (convert (placePlanner isLocal') place ()) := by
        intro place mem
        have := Spot.asked_size_lt mem
        exact convert_agree place
      obtain ⟨parts, assembles⟩ := asksFor_of_plan outcome
      have count : here.asked.length = planned.parts.length := by
        rw [parts, ← Spot.map_node_asked, List.length_map]
      refine (convertAll_agree each).bind fun nodes nodes' both => ?_
      obtain ⟨⟨length, length'⟩, below⟩ := both
      obtain ⟨node, assembled⟩ := assembles nodes.1
      obtain ⟨node', assembled'⟩ := assembles nodes'.1
      show SameOutcome _ (planned.assemble nodes.1 >>= _) (planned.assemble nodes'.1 >>= _)
      rw [assembled, assembled']
      refine .ok ?_
      rw [own, ← below]
      refine ⟨fun same => ?_, fun same => ?_⟩
      · have alike : planned.assemble nodes.1 = planned.assemble nodes'.1 := by
          rw [assembled, assembled', show node = node' from same]
        exact plan_injective outcome (length.trans count) (length'.trans count) alike
      · rw [same] at assembled
        exact Except.ok.inj (assembled.symm.trans assembled')
termination_by here.node.size

/-- **Two rules give the same tree exactly if they agree** on the bare names that are reached. -/
theorem treeBy_eq_ok_iff {root : Spot} {node : Node} (given : treeBy isLocal root = .ok node) :
    treeBy isLocal' root = .ok node ↔ Agree isLocal isLocal' root.reached := by
  unfold treeBy at given ⊢
  rw [Conversion.build_eq_convert] at given ⊢
  have agree := @convert_agree isLocal isLocal' root
  obtain ⟨found, converts, rfl⟩ := map_eq_ok_iff.mp given
  rw [converts] at agree
  generalize convert (placePlanner isLocal') root () = other at agree
  cases agree with
  | ok both =>
    rw [← both]
    exact ⟨fun same => (Except.ok.inj same).symm, fun same => congrArg Except.ok same.symm⟩

end LetShadow.Ruby
