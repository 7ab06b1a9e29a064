/-
**Names that only running the code would tell.**

A name that is given by a call, or by a bare name, is not known and stands in no check's way. An
operator is a method call as well, and so is a call without a method name, but neither of them is
converted to a call: a declaration that is named by one ends the analysis of its file.

* `Concrete.nameSource` — **the node that gives the name:** from a `let` call its first argument, from
  statements in a row the first of them.
* `Assembled` — what a node that is no call becomes, said once for all later case splits.
* `NameOutcome` — what becomes of a name, by the sort of the node that gives it, and
  `nameOutcome_of_becomes`.
* `ComesFrom` — the declarations of a file come from calls that the conversion comes to
  (`exists_source_of_let`).
* `names_of_ruby` — **when a Ruby file is given up, and for which names.**
-/

import LetShadow.Proofs.Check.Failure
import LetShadow.Proofs.Name.Chain
import LetShadow.Proofs.Ruby.Spellings

namespace LetShadow.Ruby

open Conversion (convert convertAll)
open Relation (ReflTransGen)

namespace Concrete

/-! ### The node that gives a name -/

theorem size_lt_of_mem_pieces {node piece : Concrete} (mem : piece ∈ node.pieces) :
    piece.size < node.size := by
  rw [← Spot.map_node_asked ⟨0, node⟩] at mem
  obtain ⟨place, asked, rfl⟩ := List.mem_map.mp mem
  exact Spot.asked_size_lt asked

/-- Is the node a call of `let` or `let!`, on whatever receiver? -/
def IsLetCall (node : Concrete) : Prop :=
  node.type ∈ callTypes ∧ ∃ method ∈ node.childAt? "method", method.text ∈ letMethods

instance : DecidablePred IsLetCall := fun node =>
  inferInstanceAs (Decidable (node.type ∈ callTypes ∧
    ∃ method ∈ node.childAt? "method", method.text ∈ letMethods))

/-- Where the name of a node is looked for, if not in the node itself. -/
def nameStep? (node : Concrete) : Option Concrete :=
  if node.IsLetCall then node.argumentNodes.head?
  else if node.type ∈ sequenceTypes then node.statements.head?
  else none

theorem noCall_of_row {node : Concrete} (isRow : node.type ∈ sequenceTypes) :
    node.type ∉ callTypes := by
  simp only [sequenceTypes, List.mem_cons, List.not_mem_nil, or_false] at isRow
  rcases isRow with type | type | type <;> rw [type] <;> decide

theorem mem_pieces_of_nameStep? {node next : Concrete} (step : node.nameStep? = some next) :
    next ∈ node.pieces := by
  unfold nameStep? at step
  split_ifs at step with isLet row
  · obtain ⟨call, method, atMethod, -⟩ := isLet
    have named : (node.childAt? "method").isSome = true := Option.isSome_of_mem atMethod
    rw [pieces, if_pos call, if_pos named]
    exact List.mem_append_left _ (List.mem_append_right _ (List.mem_of_head? step))
  · rw [pieces, if_neg (noCall_of_row row), if_pos row]
    exact List.mem_of_head? step

/-- The node that gives the name of a node. -/
def nameSource (node : Concrete) : Concrete :=
  if goesOn : node.nameStep?.isSome then (node.nameStep?.get goesOn).nameSource else node
termination_by node.size
decreasing_by exact size_lt_of_mem_pieces (mem_pieces_of_nameStep? (Option.some_get goesOn).symm)

theorem nameSource_of_step {node next : Concrete} (step : node.nameStep? = some next) :
    node.nameSource = next.nameSource := by
  have goesOn : node.nameStep?.isSome = true := Option.isSome_of_mem step
  rw [nameSource, dif_pos goesOn, Option.get_of_mem goesOn step]

theorem nameSource_of_stuck {node : Concrete} (stuck : node.nameStep? = none) :
    node.nameSource = node := by
  rw [nameSource, dif_neg]
  rw [stuck]
  exact nofun

/-- A symbol or a string whose value is known. -/
def IsLiteral (node : Concrete) : Prop :=
  node.type = "simple_symbol" ∨
    node.type ∈ quotedTypes ∧ ∀ part ∈ node.code, part.type ∈ partTypes

/-- A bare name, or a call with a method name. -/
def IsComputed (node : Concrete) : Prop :=
  node.type = "identifier" ∨ node.type ∈ callTypes ∧ (node.childAt? "method").isSome

end Concrete

/-- What becomes of a name that a node gives. -/
inductive NameOutcome (source : Concrete) : Except Unresolvable Name → Prop
  | known (literal : source.IsLiteral) (value : String) : NameOutcome source (.ok (.known value))
  | indeterminate (computed : source.IsComputed) : NameOutcome source (.ok .indeterminate)
  | rejected (noLiteral : ¬ source.IsLiteral) (noCall : ¬ source.IsComputed) (error : Unresolvable) :
    NameOutcome source (.error error)

/-! ### Nodes without calls -/

/-- What a node that is no call becomes, when its parts have become some nodes. -/
inductive Assembled (source : Concrete) (bound : Names) (nodes : List Node) : Node → Prop
  | row (isRow : source.type ∈ sequenceTypes) :
    Assembled source bound nodes (.sequence nodes (some source.location))
  | word (isWord : source.type = "identifier") :
    Assembled source bound nodes (nameNode source bound)
  | symbol (literal : source.IsLiteral) (value : String) (place : Option Location) :
    Assembled source bound nodes (.symbol value place)
  | string (literal : source.IsLiteral) (value : String) (place : Option Location) :
    Assembled source bound nodes (.string value place)
  | other (noRow : source.type ∉ sequenceTypes) (noLiteral : ¬ source.IsLiteral)
    (noName : ¬ source.IsComputed) (kind : String) {children : List Node}
    (among : children ⊆ topLevel source :: nodes) (text : Option String) (place : Option Location) :
    Assembled source bound nodes (.other kind children text place)

section Assembled

variable {source : Concrete} {bound : Names} {planned : RubyPlan source} {nodes : List Node}
  {node : Node}

theorem assembled_of_quoted (isQuoted : source.type ∈ quotedTypes)
    (noRow : source.type ∉ sequenceTypes) (noName : ¬ source.IsComputed)
    (plans : quotedPlan source = .ok planned) (assembles : planned.assemble nodes = .ok node) :
    Assembled source bound nodes node := by
  rw [quotedPlan_eq] at plans
  split at plans
  · rename_i known
    obtain ⟨value, -, rfl⟩ := map_eq_ok_iff.mp plans
    cases assembles
    have literal : source.IsLiteral := .inr ⟨isQuoted, known⟩
    unfold literalNode
    split
    · exact .symbol literal value _
    · exact .string literal value _
  · rename_i unknown
    cases plans
    cases assembles
    have noSymbol : source.type ≠ "simple_symbol" := by
      intro type
      simp [type, quotedTypes] at isQuoted
    exact .other noRow (fun literal => literal.elim noSymbol fun quoted => unknown quoted.2) noName _
      (List.subset_cons_self _ _) _ _

theorem plan_of_row (isRow : source.type ∈ sequenceTypes) (bound : Names) :
    plan source bound = .ok (sequencePlan source) := by
  have noCall := Concrete.noCall_of_row isRow
  rw [plan, if_neg (by rwa [List.contains_iff_mem]), if_pos (by rwa [List.contains_iff_mem])]

/-- **What a plan puts together where there is no call.** -/
theorem assembled_of_plan (noCall : source.type ∉ callTypes) (plans : plan source bound = .ok planned)
    (assembles : planned.assemble nodes = .ok node) : Assembled source bound nodes node := by
  unfold plan at plans
  simp only [List.contains_iff_mem, noCall, if_false] at plans
  split_ifs at plans with isRow isWord isSymbol isQuoted isConstant isScoped
  · cases plans
    cases assembles
    exact .row isRow
  · cases plans
    cases assembles
    exact .word isWord
  · cases plans
    cases assembles
    exact .symbol (.inl isSymbol) _ _
  all_goals
    have noName : ¬ source.IsComputed := fun computed =>
      computed.elim isWord fun call => noCall call.1
  · exact assembled_of_quoted isQuoted isRow noName plans assembles
  all_goals
    have noLiteral : ¬ source.IsLiteral := fun literal =>
      literal.elim isSymbol fun quoted => isQuoted quoted.1
  · cases plans
    cases assembles
    exact .other isRow noLiteral noName _ (List.nil_subset _) _ _
  · cases plans
    unfold scopedConstantPlan at assembles
    split at assembles
    · cases assembles
      exact .other isRow noLiteral noName _ (List.cons_subset_cons _ (List.nil_subset _)) _ _
    · cases assembles
      exact .other isRow noLiteral noName _ (List.subset_cons_self _ _) _ _
  · cases plans
    cases assembles
    exact .other isRow noLiteral noName _ (List.subset_cons_self _ _) _ _

end Assembled

/-! ### Names of converted nodes -/

/-- A call with or without a block has the name of its call. -/
theorem resolveAt_callNode (source : Concrete) (invocation : Call Node) (statements : List Node)
    (pos : Nat) :
    ∃ behind, (callNode source invocation statements).resolveAt pos =
      (Node.call invocation).resolveAt behind := by
  unfold callNode
  cases attachedBlock? source with
  | none => exact ⟨pos, rfl⟩
  | some block => exact ⟨pos + 1, Node.resolveAt_block pos invocation _ _⟩

/-- A node that is no literal, no bare name and no call with a method gives no name. -/
theorem nameOutcome_of_other {source : Concrete} (stuck : source.nameStep? = none)
    (noLiteral : ¬ source.IsLiteral) (noCall : ¬ source.IsComputed) (kind : String)
    (children : List Node) (text : Option String) (place : Option Location) (pos : Nat) :
    NameOutcome source.nameSource ((Node.other kind children text place).resolveAt pos) := by
  rw [Concrete.nameSource_of_stuck stuck]
  exact .rejected noLiteral noCall _

theorem nameOutcome_of_unnamedCall {source : Concrete} (isCall : source.type ∈ callTypes)
    (noMethod : source.childAt? "method" = none) {nodes : List Node} {node : Node}
    (assembles : (callPlan source).assemble nodes = .ok node) (pos : Nat) :
    NameOutcome source.nameSource (node.resolveAt pos) := by
  have noLet : ¬ source.IsLetCall := by
    rintro ⟨-, method, found, -⟩
    cases noMethod.symm.trans found
  have stuck : source.nameStep? = none := by
    rw [Concrete.nameStep?, if_neg noLet, if_neg fun isRow => Concrete.noCall_of_row isRow isCall]
  have shape : callPlan source = childrenPlan source (fun _ => true) (otherNode source) := by
    unfold callPlan
    rw [noMethod]
  rw [shape] at assembles
  cases assembles
  simp only [callTypes, List.mem_cons, List.not_mem_nil, or_false] at isCall
  refine nameOutcome_of_other stuck ?_ ?_ _ _ _ _ pos
  · rcases isCall with type | type <;> simp [Concrete.IsLiteral, type, quotedTypes]
  · rcases isCall with type | type <;> simp [Concrete.IsComputed, type, noMethod]

/-- A call that is no declaration has a name that is not known. -/
theorem nameOutcome_of_otherCall {source method : Concrete} (isCall : source.type ∈ callTypes)
    (atMethod : source.childAt? "method" = some method) (other : method.text ∉ letMethods)
    (arguments : List Node) (receiver : Option Node) (place : Option Location) (pos : Nat) :
    NameOutcome source.nameSource
      ((Node.call ⟨method.text, arguments, receiver, place⟩).resolveAt pos) := by
  have noLet : ¬ source.IsLetCall := by
    rintro ⟨-, found, atFound, declares⟩
    cases atMethod.symm.trans atFound
    exact other declares
  have stuck : source.nameStep? = none := by
    rw [Concrete.nameStep?, if_neg noLet, if_neg fun isRow => Concrete.noCall_of_row isRow isCall]
  have computed : source.IsComputed := .inr ⟨isCall, by rw [atMethod]; rfl⟩
  rw [Concrete.nameSource_of_stuck stuck, Node.resolveAt_call]
  cases arguments with
  | nil => exact .indeterminate computed
  | cons first others =>
    dsimp only
    rw [if_neg other]
    exact .indeterminate computed

/-- A declaration has the name that its first argument gives. -/
theorem nameOutcome_of_letCall {source method : Concrete} (isCall : source.type ∈ callTypes)
    (atMethod : source.childAt? "method" = some method) (declares : method.text ∈ letMethods)
    {arguments : List Node} (become : List.Forall₂ Becomes source.argumentNodes arguments)
    (below : ∀ piece ∈ source.pieces, ∀ converted, Becomes piece converted → ∀ pos,
      NameOutcome piece.nameSource (converted.resolveAt pos))
    (receiver : Option Node) (place : Option Location) (pos : Nat) :
    NameOutcome source.nameSource
      ((Node.call ⟨method.text, arguments, receiver, place⟩).resolveAt pos) := by
  have isLet : source.IsLetCall := ⟨isCall, method, atMethod, declares⟩
  have goes : source.nameStep? = source.argumentNodes.head? := by
    rw [Concrete.nameStep?, if_pos isLet]
  rw [Node.resolveAt_call]
  cases found : source.argumentNodes with
  | nil =>
    rw [found] at become goes
    cases become
    rw [Concrete.nameSource_of_stuck goes]
    exact .indeterminate (.inr ⟨isCall, by rw [atMethod]; rfl⟩)
  | cons argument rest =>
    rw [found] at become goes
    cases become with
    | cons first others =>
      rw [Concrete.nameSource_of_step goes]
      dsimp only
      rw [if_pos declares]
      exact below argument (Concrete.mem_pieces_of_nameStep? goes) _ first _

theorem nameOutcome_of_call {source : Concrete} (isCall : source.type ∈ callTypes)
    {bound last : Names} {nodes : List Node} {node : Node}
    (converts : convertAll planner (callPlan source).parts bound = .ok (nodes, last))
    (assembles : (callPlan source).assemble nodes = .ok node)
    (below : ∀ piece ∈ source.pieces, ∀ converted, Becomes piece converted → ∀ pos,
      NameOutcome piece.nameSource (converted.resolveAt pos)) (pos : Nat) :
    NameOutcome source.nameSource (node.resolveAt pos) := by
  cases atMethod : source.childAt? "method" with
  | none => exact nameOutcome_of_unnamedCall isCall atMethod assembles pos
  | some method =>
    rw [callPlan_eq atMethod] at converts assembles
    cases assembles
    obtain ⟨receiver, arguments, statements, rfl, -, ofArguments, -, made⟩ :=
      assembleCall_of_becomes method.text (forall₂_becomes converts)
    obtain ⟨behind, shown⟩ := resolveAt_callNode source
      { method := method.text, arguments, receiver, location := some source.location } statements pos
    rw [made, shown]
    by_cases declares : method.text ∈ letMethods
    · exact nameOutcome_of_letCall isCall atMethod declares ofArguments below receiver _ behind
    · exact nameOutcome_of_otherCall isCall atMethod declares arguments receiver _ behind

theorem nameOutcome_of_row {source : Concrete} (isRow : source.type ∈ sequenceTypes)
    {nodes : List Node} (become : List.Forall₂ Becomes source.statements nodes)
    (below : ∀ statement ∈ source.statements, ∀ converted, Becomes statement converted → ∀ pos,
      NameOutcome statement.nameSource (converted.resolveAt pos)) (pos : Nat) :
    NameOutcome source.nameSource
      ((Node.sequence nodes (some source.location)).resolveAt pos) := by
  have noCall := Concrete.noCall_of_row isRow
  have step : source.nameStep? = source.statements.head? := by
    rw [Concrete.nameStep?, if_neg fun isLet => noCall isLet.1, if_pos isRow]
  cases found : source.statements with
  | nil =>
    rw [found] at become
    cases become
    rw [Concrete.nameSource_of_stuck (step.trans (by rw [found]; rfl))]
    simp only [sequenceTypes, List.mem_cons, List.not_mem_nil, or_false] at isRow
    refine .rejected ?_ ?_ _
    · rcases isRow with type | type | type <;> simp [Concrete.IsLiteral, type, quotedTypes]
    · rcases isRow with type | type | type <;> simp [Concrete.IsComputed, type, callTypes]
  | cons statement rest =>
    rw [found] at become
    cases become with
    | cons first others =>
      rw [Concrete.nameSource_of_step (step.trans (by rw [found]; rfl)), Node.resolveAt]
      exact below statement (found ▸ List.mem_cons_self) _ first _

/-- **What becomes of a name goes by the node that gives it.** -/
theorem nameOutcome_of_becomes (source : Concrete) (node : Node) (becomes : Becomes source node)
    (pos : Nat) : NameOutcome source.nameSource (node.resolveAt pos) := by
  obtain ⟨bound, last, converts⟩ := becomes
  obtain ⟨planned, nodes, plans, below, assembles⟩ := plan_of_convert converts
  have each : ∀ piece ∈ source.pieces, ∀ converted, Becomes piece converted → ∀ pos,
      NameOutcome piece.nameSource (converted.resolveAt pos) := by
    intro piece mem
    have := Concrete.size_lt_of_mem_pieces mem
    exact nameOutcome_of_becomes piece
  by_cases isCall : source.type ∈ callTypes
  · cases (plan_of_call isCall _).symm.trans plans
    exact nameOutcome_of_call isCall below assembles each pos
  by_cases isRow : source.type ∈ sequenceTypes
  · cases (plan_of_row isRow _).symm.trans plans
    cases assembles
    refine nameOutcome_of_row isRow (forall₂_becomes below) (fun statement mem => each statement ?_) pos
    rwa [Concrete.pieces, if_neg isCall, if_pos isRow]
  have stuck : source.nameStep? = none := by
    rw [Concrete.nameStep?, if_neg fun isLet => isCall isLet.1, if_neg isRow]
  rw [Concrete.nameSource_of_stuck stuck]
  cases assembled_of_plan isCall plans assembles with
  | row row => exact absurd row isRow
  | word isWord =>
    have resolved : (nameNode source (boundBy source ++ bound)).resolveAt pos =
        .ok .indeterminate := by
      unfold nameNode
      split <;> rfl
    rw [resolved]
    exact .indeterminate (.inl isWord)
  | symbol literal value => exact .known literal value
  | string literal value => exact .known literal value
  | other _ noLiteral noName => exact .rejected noLiteral noName _
termination_by source.size

/-! ### Where declarations come from -/

/-- A node is what a node of a concrete tree becomes, or the call of the block that it becomes. -/
inductive ComesFrom (source : Concrete) : Node → Prop
  | whole {node : Node} (becomes : Becomes source node) : ComesFrom source node
  | call {invocation : Call Node} {body : Option Node} {place : Option Location}
      (becomes : Becomes source (.block invocation body place)) :
      ComesFrom source (.call invocation)

/-- A declaration in a node is the node itself, the call of a block, or in one of some parts. -/
def KeepsLets (node : Node) (parts : List Node) : Prop :=
  ∀ inner ∈ node.preorder, inner.isLet = true → inner = node ∨
    (∃ invocation body place, node = .block invocation body place ∧ inner = .call invocation) ∨
      ∃ part ∈ parts, inner ∈ part.preorder

theorem mem_preorder_iff {node inner : Node} :
    inner ∈ node.preorder ↔ inner = node ∨ ∃ child ∈ node.children, inner ∈ child.preorder := by
  rw [Node.preorder_eq, List.mem_cons, List.mem_flatMap]

theorem keepsLets_of_children {node : Node} {parts : List Node} (among : node.children ⊆ parts) :
    KeepsLets node parts := by
  intro inner mem _
  refine (mem_preorder_iff.mp mem).imp_right fun ⟨child, childMem, inside⟩ => ?_
  exact .inr ⟨child, among childMem, inside⟩

theorem keepsLets_assembleCall (source : Concrete) (method : String) (pieces : List Node) :
    KeepsLets (assembleCall source method pieces) pieces := by
  have ofDrop : ∀ {count : Nat}, pieces.drop count ⊆ pieces := fun mem => List.mem_of_mem_drop mem
  have operands : ∀ {receivers arguments : Nat},
      ((pieces.take receivers).head?.toList ++ (pieces.drop receivers).take arguments) ⊆ pieces := by
    intro receivers arguments
    refine List.append_subset.mpr ⟨fun part mem => ?_, fun part mem => ?_⟩
    · exact List.mem_of_mem_take (List.mem_of_head? (Option.mem_toList.mp mem))
    · exact ofDrop (List.mem_of_mem_take mem)
  unfold assembleCall
  dsimp only
  split
  · exact keepsLets_of_children operands
  · intro inner mem isLet
    obtain same | ⟨child, childMem, inside⟩ := mem_preorder_iff.mp mem
    · exact .inl same
    refine .inr ?_
    rcases List.mem_cons.mp childMem with rfl | inBody
    · obtain rfl | ⟨part, partMem, inPart⟩ := mem_preorder_iff.mp inside
      · exact .inl ⟨_, _, _, rfl, rfl⟩
      · exact .inr ⟨part, operands partMem, inPart⟩
    · split at inBody
      · cases inBody
      · obtain rfl := List.mem_singleton.mp inBody
        obtain rfl | ⟨part, partMem, inPart⟩ := mem_preorder_iff.mp inside
        · cases isLet
        · exact .inr ⟨part, ofDrop (List.mem_of_mem_drop partMem), inPart⟩

/-- **A plan makes no declaration of its own but the node that it puts together.** -/
theorem keepsLets_of_plan {source : Concrete} {bound : Names} {planned : RubyPlan source}
    {nodes : List Node} {node : Node} (plans : plan source bound = .ok planned)
    (assembles : planned.assemble nodes = .ok node) : KeepsLets node nodes := by
  by_cases isCall : source.type ∈ callTypes
  · cases (plan_of_call isCall _).symm.trans plans
    unfold callPlan at assembles
    split at assembles
    · cases assembles
      exact keepsLets_of_children (List.Subset.refl _)
    · cases assembles
      exact keepsLets_assembleCall source _ nodes
  cases assembled_of_plan isCall plans assembles with
  | row => exact keepsLets_of_children (List.Subset.refl _)
  | word =>
    unfold nameNode
    split <;> exact keepsLets_of_children (List.nil_subset _)
  | symbol => exact keepsLets_of_children (List.nil_subset _)
  | string => exact keepsLets_of_children (List.nil_subset _)
  | other _ _ _ _ among =>
    intro inner mem isLet
    obtain same | ⟨child, childMem, inside⟩ := mem_preorder_iff.mp mem
    · exact .inl same
    -- The top level, as a scope, is no declaration and has no parts.
    rcases List.mem_cons.mp (among childMem) with rfl | inNodes
    · obtain rfl | ⟨part, partMem, -⟩ := mem_preorder_iff.mp inside
      · cases isLet
      · cases partMem
    · exact .inr (.inr ⟨child, inNodes, inside⟩)

namespace Concrete

/-- A conversion comes to a node from another. -/
def Reaches : Concrete → Concrete → Prop :=
  ReflTransGen fun outer inner => inner ∈ outer.pieces

end Concrete

/-- **A declaration comes from a node that the conversion comes to.** -/
theorem exists_source_of_let {source : Concrete} {node inner : Node} (becomes : Becomes source node)
    (mem : inner ∈ node.preorder) (isLet : inner.isLet = true) :
    ∃ place, source.Reaches place ∧ ComesFrom place inner := by
  obtain ⟨bound, last, converts⟩ := becomes
  obtain ⟨planned, nodes, plans, below, assembles⟩ := plan_of_convert converts
  rcases keepsLets_of_plan plans assembles inner mem isLet with rfl |
      ⟨invocation, body, place, rfl, rfl⟩ | ⟨part, partMem, inside⟩
  · exact ⟨source, .refl, .whole ⟨bound, last, converts⟩⟩
  · exact ⟨source, .refl, .call ⟨bound, last, converts⟩⟩
  · rw [(asksFor_of_plan plans).parts] at below
    obtain ⟨piece, pieceMem, ofPiece⟩ := exists_of_mem_image (forall₂_becomes below) partMem
    have := Concrete.size_lt_of_mem_pieces pieceMem
    obtain ⟨place, reaches, comes⟩ := exists_source_of_let ofPiece inside isLet
    exact ⟨place, .head pieceMem reaches, comes⟩
termination_by source.size

/-- **What becomes of the name of a declaration goes by the node that gives it.** -/
theorem nameOutcome_of_comesFrom {source : Concrete} {node : Node} (comes : ComesFrom source node)
    (pos : Nat) : NameOutcome source.nameSource (node.resolveAt pos) := by
  cases comes with
  | whole becomes => exact nameOutcome_of_becomes source node becomes pos
  | @call invocation body place becomes =>
    have outcome := nameOutcome_of_becomes source _ becomes 0
    rw [Node.resolveAt_block] at outcome
    -- The call stands at another place than in its block, where it gives the same name.
    have alike := Node.ResolvesLike.refl (.call invocation) (0 + 1) pos
    revert outcome alike
    generalize (Node.call invocation).resolveAt (0 + 1) = first
    generalize (Node.call invocation).resolveAt pos = second
    intro outcome alike
    cases alike with
    | named => exact outcome
    | rejected =>
      cases outcome with
      | rejected noLiteral noCall => exact .rejected noLiteral noCall _

/-- Only a call or a bare name becomes a declaration. -/
theorem type_of_comesFrom {source : Concrete} {node : Node} (comes : ComesFrom source node)
    (isLet : node.isLet = true) : source.type ∈ callTypes ∨ source.type = "identifier" := by
  have ofBecomes : ∀ node, Becomes source node → node.isLet = true →
      source.type ∈ callTypes ∨ source.type = "identifier" := by
    rintro node ⟨bound, last, converts⟩ isLet
    obtain ⟨planned, nodes, plans, below, assembles⟩ := plan_of_convert converts
    by_cases isCall : source.type ∈ callTypes
    · exact .inl isCall
    cases assembled_of_plan isCall plans assembles with
    | word isWord => exact .inr isWord
    | _ => cases isLet
  cases comes with
  | whole becomes => exact ofBecomes node becomes isLet
  | call becomes => exact ofBecomes _ becomes isLet

/-! ### Names given by calls -/

namespace Concrete

/-- The types of an expression with an operator. -/
def operatorTypes : List String :=
  ["binary", "unary"]

/-- The expressions that may give a name: a literal, a bare name, any call, any operator, and any of
them in parentheses. -/
inductive IsNameExpression : Concrete → Prop
  | literal {node : Concrete} (literal : node.IsLiteral) : IsNameExpression node
  | word {node : Concrete} (type : node.type = "identifier") : IsNameExpression node
  | call {node : Concrete} (type : node.type ∈ callTypes) : IsNameExpression node
  | operator {node : Concrete} (type : node.type ∈ operatorTypes) : IsNameExpression node
  | parenthesized {node inner : Concrete} (type : node.type = "parenthesized_statements")
      (first : node.statements.head? = some inner) (inside : inner.IsNameExpression) :
      IsNameExpression node

/-- A method call that is not converted to a call: an operator, or a call without a method name. -/
def IsLostCall (node : Concrete) : Prop :=
  node.type ∈ operatorTypes ∨ node.type ∈ callTypes ∧ node.childAt? "method" = none

/-- Every call of `let` or `let!` that the conversion comes to is given its name by an expression. -/
def NamesByExpressions (source : Concrete) : Prop :=
  ∀ call, source.Reaches call → call.IsLetCall →
    ∀ first ∈ call.argumentNodes.head?, first.IsNameExpression

theorem IsLostCall.noLiteral {node : Concrete} (lost : node.IsLostCall) : ¬ node.IsLiteral := by
  unfold IsLostCall at lost
  simp only [operatorTypes, callTypes, List.mem_cons, List.not_mem_nil, or_false] at lost
  rcases lost with (type | type) | ⟨type | type, -⟩ <;> simp [IsLiteral, type, quotedTypes]

theorem IsLostCall.noCall {node : Concrete} (lost : node.IsLostCall) : ¬ node.IsComputed := by
  unfold IsLostCall at lost
  simp only [operatorTypes, callTypes, List.mem_cons, List.not_mem_nil, or_false] at lost
  rcases lost with (type | type) | ⟨type | type, nameless⟩ <;>
    simp_all [IsComputed, callTypes]

/-- **Where expressions give the names, each is a literal, a call or a lost call.** -/
theorem isLostCall_of_expression {source : Concrete} (names : source.NamesByExpressions)
    {node : Concrete} (reaches : source.Reaches node) (expression : node.IsNameExpression)
    (noLiteral : ¬ node.nameSource.IsLiteral) (noCall : ¬ node.nameSource.IsComputed) :
    node.nameSource.IsLostCall := by
  cases step : node.nameStep? with
  | some next =>
    rw [nameSource_of_step step] at noLiteral noCall ⊢
    have mem := mem_pieces_of_nameStep? step
    have := size_lt_of_mem_pieces mem
    refine isLostCall_of_expression names (reaches.tail mem) ?_ noLiteral noCall
    unfold nameStep? at step
    split_ifs at step with isLet isRow
    · exact names node reaches isLet next step
    · simp only [sequenceTypes, List.mem_cons, List.not_mem_nil, or_false] at isRow
      cases expression with
      | literal literal => rcases isRow with type | type | type <;> simp_all [IsLiteral, quotedTypes]
      | word => rcases isRow with type | type | type <;> simp_all
      | call => rcases isRow with type | type | type <;> simp_all [callTypes]
      | operator => rcases isRow with type | type | type <;> simp_all [operatorTypes]
      | parenthesized type first inside =>
        cases first.symm.trans step
        exact inside
  | none =>
    rw [nameSource_of_stuck step] at noLiteral noCall ⊢
    cases expression with
    | literal literal => exact absurd literal noLiteral
    | word type => exact absurd (.inl type) noCall
    | call type =>
      refine .inr ⟨type, Option.not_isSome_iff_eq_none.mp fun named => noCall (.inr ⟨type, named⟩)⟩
    | operator type => exact .inl type
    | parenthesized type first inside =>
      have noLet : ¬ node.IsLetCall := fun isLet => by
        have call := isLet.1
        simp [type, callTypes] at call
      have isRow : node.type ∈ sequenceTypes := by simp [type, sequenceTypes]
      rw [nameStep?, if_neg noLet, if_pos isRow, first] at step
      cases step
termination_by node.size

end Concrete

/-! ### Files -/

/-- A dumped call of a method other than `let`, an operator among them, is a name that is not known. -/
theorem resolve_dumpedCall {kind : String} {receiver method : Json.Value}
    {arguments : List Json.Value} {node : Node} (isCall : kind ∈ Dump.callKinds)
    (other : method.shown ∉ letMethods)
    (loads : Dump.tree ⟨kind, receiver :: method :: arguments⟩ = .ok node) (pos : Nat) :
    node.resolveAt pos = .ok .indeterminate := by
  have ofMethod : ∀ arguments receiver, (Node.call { method := method.shown, arguments, receiver
      }).resolveAt pos = .ok .indeterminate := by
    intro arguments receiver
    rw [Node.resolveAt_call]
    cases arguments with
    | nil => rfl
    | cons first rest => exact if_neg other
  rw [Dump.tree, Conversion.build_eq_convert] at loads
  obtain ⟨⟨_, last⟩, converts, rfl⟩ := map_eq_ok_iff.mp loads
  obtain ⟨planned, middle, nodes, plans, -, assembles⟩ := Conversion.of_convert converts
  obtain ⟨found, ofPlan, same⟩ := bind_eq_ok_iff.mp plans
  cases same
  rw [Dump.plan, if_pos (by rwa [List.contains_iff_mem])] at ofPlan
  unfold Dump.callPlan at ofPlan
  dsimp only at ofPlan
  split at ofPlan
  · cases ofPlan
    cases assembles
    exact ofMethod _ _
  · cases ofPlan
    cases assembles
    exact ofMethod _ _

/-- A declaration made directly in a group of a tree has its name from a node of a sort. -/
def HasName (source : Concrete) (root : Node) (sort : Concrete → Prop) : Prop :=
  ∃ group ∈ (⟨0, root⟩ : Occurrence).groups, ∃ declaration : Occurrence, declaration.DirectIn group ∧
    ∃ place, source.Reaches place ∧ ComesFrom place declaration.node ∧ sort place.nameSource

theorem not_resolves_iff {source : Concrete} {declaration : Occurrence}
    (outcome : NameOutcome source declaration.resolve) :
    ¬ declaration.Resolves ↔ ¬ source.IsLiteral ∧ ¬ source.IsComputed := by
  unfold Occurrence.Resolves
  generalize declaration.resolve = resolved at outcome
  cases outcome with
  | known literal value => exact iff_of_false (fun no => no ⟨_, rfl⟩) fun both => both.1 literal
  | indeterminate computed => exact iff_of_false (fun no => no ⟨_, rfl⟩) fun both => both.2 computed
  | rejected noLiteral noCall error =>
    exact iff_of_true (fun ⟨_, found⟩ => nomatch found) ⟨noLiteral, noCall⟩

theorem node_mem_preorder {here place : Occurrence} (mem : place ∈ here.walk) :
    place.node ∈ here.node.preorder := by
  induction here using Occurrence.places_induction with
  | step here ih =>
    obtain rfl | ⟨child, childMem, inside⟩ := Occurrence.mem_walk.mp mem
    · exact mem_preorder_iff.mpr (.inl rfl)
    · exact mem_preorder_iff.mpr
        (.inr ⟨child.node, (Occurrence.mem_placed childMem).1, ih child childMem inside⟩)

/-- **A check fails exactly at a name that is no literal, no bare name and no call with a method.** -/
theorem analyzeTree_fails_iff {source : Concrete} {root : Node} (becomes : Becomes source root)
    (file : String) :
    (∃ error, analyzeTree root file = .error error) ↔
      HasName source root fun name => ¬ name.IsLiteral ∧ ¬ name.IsComputed := by
  rw [(analyzeTree_error_iff root file).1]
  refine exists_congr fun group => and_congr_right fun groupMem => exists_congr fun declaration =>
    and_congr_right fun direct => ?_
  constructor
  · intro fails
    have inTree := Occurrence.walk_trans direct.encloses.mem_walk (Occurrence.mem_groups.mp groupMem).1
    obtain ⟨place, reaches, comes⟩ :=
      exists_source_of_let becomes (node_mem_preorder inTree) direct.1
    exact ⟨place, reaches, comes, (not_resolves_iff (nameOutcome_of_comesFrom comes _)).mp fails⟩
  · rintro ⟨place, -, comes, lost⟩
    exact (not_resolves_iff (nameOutcome_of_comesFrom comes _)).mpr lost

/-- A file gives no result exactly if a literal of it has a code point that is too large. -/
theorem analyzeRuby_aborts_iff (source : Concrete) (file : String) (abort : Abort) :
    analyzeRuby file (some source) = .error abort ↔ abort = .codePointTooLarge ∧
      ∃ literal, source.Reaches literal ∧ literal.IsOversized := by
  rw [analyzeRuby, loadRuby]
  cases outcome : tree source with
  | error error =>
    have found := tree_eq_error_iff.mp outcome
    refine ⟨fun aborted => ⟨(Except.error.inj aborted).symm, found⟩, ?_⟩
    rintro ⟨rfl, -⟩
    rfl
  | ok root =>
    refine iff_of_false (fun aborted => ?_) fun tooLarge => ?_
    · change resultOf file (.ok root) = _ at aborted
      rw [resultOf] at aborted
      split at aborted <;> cases aborted
    · have givenUp : tree source = .error {} := tree_eq_error_iff.mpr tooLarge.2
      cases givenUp.symm.trans outcome

/-- The result of a file has an error exactly if the check of its tree fails. -/
theorem exists_result_of_tree {source : Concrete} {root : Node} (ofTree : tree source = .ok root)
    (file : String) : ∃ result, analyzeRuby file (some source) = .ok result ∧
      (result.error ≠ none ↔ ∃ error, analyzeTree root file = .error error) := by
  have given : analyzeRuby file (some source) = resultOf file (.ok root) := by
    rw [analyzeRuby, loadRuby, ofTree]
    rfl
  rw [given, resultOf]
  cases outcome : analyzeTree root file with
  | ok result =>
    obtain ⟨-, rfl⟩ := analyzeTree_eq_ok_iff.mp outcome
    refine ⟨_, rfl, iff_of_false (fun no => no rfl) ?_⟩
    rintro ⟨_, found⟩
    cases found
  | error error => exact ⟨_, rfl, iff_of_true (Option.some_ne_none _) ⟨error, rfl⟩⟩

/-- Where all names are given by expressions, a name that is neither a literal nor a call with a method
name is an operator or a call without one. -/
theorem hasName_isLostCall_iff {source : Concrete} {root : Node} (names : source.NamesByExpressions) :
    (HasName source root fun name => ¬ name.IsLiteral ∧ ¬ name.IsComputed) ↔
      HasName source root Concrete.IsLostCall := by
  refine exists_congr fun group => and_congr_right fun groupMem => exists_congr fun declaration =>
    and_congr_right fun direct => exists_congr fun place => and_congr_right fun reaches =>
      and_congr_right fun comes => ⟨fun neither => ?_, fun lost => ?_⟩
  · have expression : place.IsNameExpression :=
      (type_of_comesFrom comes direct.1).elim .call .word
    exact Concrete.isLostCall_of_expression names reaches expression neither.1 neither.2
  · exact ⟨lost.noLiteral, lost.noCall⟩

/-- **Which names a Ruby file is given up for.** A file gives a result, unless it has a literal with a
code point that is too large. Each declaration has its name from a node that the conversion comes to:
it is known from a literal, and not known from a bare name or a call with a method name. The result has
an error exactly if a declaration made directly in a group has its name from any other node; where all
names are given by expressions these are the operators and the calls without a method name. Dumped,
they are calls like any other, and their names are not known. -/
theorem names_of_ruby (source : Concrete) (file : String) :
    (∀ abort, analyzeRuby file (some source) = .error abort ↔ abort = .codePointTooLarge ∧
      ∃ literal, source.Reaches literal ∧ literal.IsOversized) ∧
    (∀ root, tree source = .ok root → ∃ result, analyzeRuby file (some source) = .ok result ∧
      (∀ declaration ∈ (⟨0, root⟩ : Occurrence).walk, declaration.node.isLet = true →
        ∃ place, source.Reaches place ∧ ComesFrom place declaration.node ∧
          NameOutcome place.nameSource declaration.resolve) ∧
      (result.error ≠ none ↔
        HasName source root fun name => ¬ name.IsLiteral ∧ ¬ name.IsComputed) ∧
      (source.NamesByExpressions →
        (result.error ≠ none ↔ HasName source root Concrete.IsLostCall))) ∧
    ∀ kind receiver method arguments node, kind ∈ Dump.callKinds → method.shown ∉ letMethods →
      Dump.tree ⟨kind, receiver :: method :: arguments⟩ = .ok node →
        ∀ pos, node.resolveAt pos = .ok .indeterminate := by
  refine ⟨analyzeRuby_aborts_iff source file, fun root ofTree => ?_,
    fun kind receiver method arguments node isCall other loads pos =>
      resolve_dumpedCall isCall other loads pos⟩
  have becomes : Becomes source root := by
    rw [tree, Conversion.build_eq_convert] at ofTree
    obtain ⟨⟨_, last⟩, converts, rfl⟩ := map_eq_ok_iff.mp ofTree
    exact ⟨[], last, converts⟩
  obtain ⟨result, analyzed, erred⟩ := exists_result_of_tree ofTree file
  have fails := erred.trans (analyzeTree_fails_iff becomes file)
  refine ⟨result, analyzed, fun declaration mem isLet => ?_, fails, fun names => ?_⟩
  · obtain ⟨place, reaches, comes⟩ := exists_source_of_let becomes (node_mem_preorder mem) isLet
    exact ⟨place, reaches, comes, nameOutcome_of_comesFrom comes _⟩
  · exact fails.trans (hasName_isLostCall_iff names)

/-- Names that are operators or calls are given by expressions. -/
theorem namesByExpressions_of_reached {source : Concrete}
    (each : ∀ place ∈ (⟨0, source⟩ : Spot).reached, place.node.IsLetCall →
      ∀ first ∈ place.node.argumentNodes.head?,
        first.type ∈ Concrete.operatorTypes ∨ first.type ∈ callTypes) :
    source.NamesByExpressions := by
  have passes : ∀ wrapper : Concrete, wrapper.isWrapper = true → ¬ (wrapper.IsLetCall ∧
      ∃ first ∈ wrapper.argumentNodes.head?, ¬ first.IsNameExpression) := by
    rintro wrapper wraps ⟨⟨call, -⟩, -⟩
    simp only [Concrete.isWrapper, wrapperTypes, List.contains_iff_mem, List.mem_cons,
      List.not_mem_nil, or_false] at wraps
    rcases wraps with type | type <;> simp [callTypes, type] at call
  intro call reaches isLet first mem
  by_contra noExpression
  obtain ⟨place, placeMem, declares, other, otherMem, none⟩ :=
    (Spot.exists_reached_iff passes ⟨0, source⟩).mpr
      ⟨call, reaches, isLet, first, mem, noExpression⟩
  exact none ((each place placeMem declares other otherMem).elim .operator .call)

/-- The concrete tree of `context { let(:a + :b) }`. -/
def namedByOperator : Concrete :=
  grouping [declaring (onLine none "binary" ":a + :b" 14
    [onLine (some "left") "simple_symbol" ":a" 14 [], onLine none "simple_symbol" ":b" 19 []]) 10] 0

/-- The concrete tree of `context { let(f.()) }`. -/
def namedByNameless : Concrete :=
  grouping [declaring (onLine none "call" "f.()" 14
    [onLine (some "receiver") "identifier" "f" 14 [],
      onLine (some "arguments") "argument_list" "()" 16 []]) 10] 0

theorem names_of_ruby_namedByOperator :
    ∃ root, tree namedByOperator = .ok root ∧ HasName namedByOperator root Concrete.IsLostCall := by
  have found : (tree namedByOperator).map (fun _ => ()) = .ok () := by decide +kernel
  have fails : (analyzeRuby "a_spec.rb" (some namedByOperator)).map Result.error ≠ .ok none := by
    decide +kernel
  have names : namedByOperator.NamesByExpressions := namesByExpressions_of_reached (by decide +kernel)
  obtain ⟨root, ofTree, -⟩ := map_eq_ok_iff.mp found
  obtain ⟨result, analyzed, -, -, erred⟩ :=
    (names_of_ruby namedByOperator "a_spec.rb").2.1 root ofTree
  refine ⟨root, ofTree, (erred names).mp fun goes => fails ?_⟩
  rw [analyzed, ← goes]
  rfl

/-- **An operator ends the analysis of a Ruby file,** and so does a call without a method name, though
either of them is a method call. -/
theorem lostCalls_given_up :
    (namedByOperator.NamesByExpressions ∧
      (analyzeRuby "a_spec.rb" (some namedByOperator)).map Result.error =
        .ok (some "Unexpected node type while resolving let name: binary at line 1")) ∧
    (namedByNameless.NamesByExpressions ∧
      (analyzeRuby "a_spec.rb" (some namedByNameless)).map Result.error =
        .ok (some "Unexpected node type while resolving let name: call at line 1")) := by
  refine ⟨⟨namesByExpressions_of_reached ?_, ?_⟩, namesByExpressions_of_reached ?_, ?_⟩
  · decide +kernel
  · decide +kernel
  · decide +kernel
  · decide +kernel

end LetShadow.Ruby
