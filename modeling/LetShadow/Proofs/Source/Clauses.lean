/-
**Statements with clauses around them.**

A body may have `rescue`, `else` and `ensure` clauses. The two trees of a program nest them the other
way round: in a concrete tree the clauses follow the main statements of the body, in a dump a node of
the clauses is around these. A declaration belongs to the group whose body has it as a statement,
through rows of statements only; so the node of the clauses is in its way.

* `Seen` — what both readers make of statements. **They find the same in them**, and differ in what is
  declared there; it is kept by each way to put statements together: side by side (`Seen.append`), in
  a row (`Seen.rowRead`, `Seen.rowDumped`), with clauses around them (`Seen.behind`).
* `MainStatement.seen` — by recursion on `begin` inside `begin`, both readers have seen all main
  statements.
* `mainStatements_declared` — **a dump lacks the declarations with clauses around them, and no
  others.**
-/

import LetShadow.Proofs.Ruby.Blocks
import LetShadow.Proofs.Source.Agreement

namespace LetShadow

open Json (Value)
open Dump (textOf bodyOf forms)
open Ruby (Concrete Names Becomes)
open Conversion (convert convertAll convertAll_nil convertAll_cons_eq_ok convertAll_append_eq_ok
  of_convertAll_cons length_of_convertAll)

/-! ### Declarations of statements -/

/-- The declarations that a node makes as a statement. -/
def Node.declared (node : Node) : List Node :=
  (⟨0, node⟩ : Occurrence).statementDeclarations.map Occurrence.node

theorem Occurrence.map_node_placed (pos : Nat) (nodes : List Node) :
    (placed pos nodes).map node = nodes := by
  induction nodes generalizing pos with
  | nil => rfl
  | cons first rest ih => rw [placed, List.map_cons, ih]

/-- What a statement declares does not depend on its place. -/
theorem Occurrence.map_node_statementDeclarations (here : Occurrence) :
    here.statementDeclarations.map node =
      if here.node.kind = .sequence then here.node.children.flatMap Node.declared
      else if here.node.isLet then [here.node] else [] := by
  obtain ⟨pos, node⟩ := here
  induction node using Node.children_induction generalizing pos with
  | step node ih =>
    rw [statementDeclarations_eq]
    split_ifs with row isLet
    · rw [List.map_flatMap]
      have each : ∀ child ∈ (⟨pos, node⟩ : Occurrence).children,
          child.statementDeclarations.map Occurrence.node = child.node.declared := by
        intro child mem
        have among := (mem_placed mem).1
        rw [Node.declared, ih _ among child.pos, ih _ among 0]
      rw [List.flatMap_congr each, ← List.flatMap_map, children, map_node_placed]
    · rfl
    · rfl

theorem Node.declared_eq (node : Node) :
    node.declared =
      if node.kind = .sequence then node.children.flatMap declared
      else if node.isLet then [node] else [] :=
  Occurrence.map_node_statementDeclarations ⟨0, node⟩

@[simp]
theorem Node.declared_sequence (statements : List Node) (place : Option Location) :
    (Node.sequence statements place).declared = statements.flatMap declared :=
  declared_eq _

/-- The direct declarations of a block are what some statements declare. -/
def Node.DeclaresAs (block : Node) (statements : List Node) : Prop :=
  ∀ pos, (⟨pos, block⟩ : Occurrence).directDeclarations.map Occurrence.node =
    statements.flatMap declared

/-- **The direct declarations of a block are those of its body.** -/
theorem Node.declaresAs_block {invocation : Call Node} {body : Option Node}
    {place : Option Location} {statements : List Node}
    (same : body.toList.flatMap declared = statements.flatMap declared) :
    (Node.block invocation body place).DeclaresAs statements := by
  intro pos
  rw [Occurrence.directDeclarations_eq_body, ← same]
  cases body with
  | none => rfl
  | some body =>
    show (Occurrence.statementDeclarations _).map _ = _
    rw [Occurrence.map_node_statementDeclarations, Option.toList_some, List.flatMap_singleton,
      Node.declared_eq]

/-- What declares nothing makes no entry in a sketch. -/
theorem Node.made_of_declared {Mark : Type} {marking : Marking Mark} {node : Node}
    (nothing : node.declared = []) (before : Nat) : node.made marking before = [] := by
  induction node using Node.children_induction generalizing before with
  | step node ih =>
    rw [declared_eq] at nothing
    by_cases row : node.kind = .sequence
    · cases node with
      | sequence statements place =>
        rw [if_pos row, List.flatMap_eq_nil_iff] at nothing
        have forest : ∀ nodes ⊆ statements, ∀ before, forestMade marking before nodes = [] := by
          intro nodes
          induction nodes with
          | nil => exact fun _ _ => rfl
          | cons first rest others =>
            intro among before
            obtain ⟨firstMem, restAmong⟩ := List.cons_subset.mp among
            rw [forestMade, ih first firstMem (nothing first firstMem), others restAmong]
            rfl
        exact forest statements (List.Subset.refl _) _
      | _ => cases row
    · rw [if_neg row] at nothing
      rw [made_eq marking before node row]
      split_ifs at nothing ⊢ with isLet
      rfl

theorem forestMade_single {Mark : Type} (marking : Marking Mark) (before : Nat) (node : Node) :
    Node.forestMade marking before [node] = node.made marking before :=
  List.append_nil _

theorem forestMade_of_declared {Mark : Type} {marking : Marking Mark} {nodes : List Node}
    (nothing : ∀ node ∈ nodes, node.declared = []) (before : Nat) :
    Node.forestMade marking before nodes = [] := by
  induction nodes generalizing before with
  | nil => rfl
  | cons node rest ih =>
    rw [Node.forestMade, Node.made_of_declared (nothing node List.mem_cons_self),
      ih fun other mem => nothing other (List.mem_cons_of_mem _ mem)]
    rfl

/-! ### Bodies with clauses -/

/-- A statement as both readers have it. They convert it to similar nodes. -/
structure Leaf where
  form : Dump.Form
  node : Concrete
  isRead : node.IsRead
  both : BothConvert form node

/-- The statement declares nothing. -/
def Leaf.DeclaresNothing (leaf : Leaf) : Prop :=
  ∀ node, convert Dump.planner leaf.form () = .ok (node, ()) → node.declared = []

/-- The types of the clauses of a body. -/
def clauseTypes : List String :=
  ["rescue", "else", "ensure"]

/-- Clauses that belong together. A dump has them in a node around the statements that they are about,
behind these; in a concrete tree they follow the statements. -/
structure Clauses where
  kind : String
  values : List Value
  nodes : List Concrete
  kinds : kind = "rescue" ∨ kind = "ensure"
  types : ∀ node ∈ nodes, node.type ∈ clauseTypes
  both : BothGive (SimilarForests namedLets) values nodes

/-- A main statement of a body: any statement, or a `begin` with main statements and clauses of its
own, the inner clauses first. -/
inductive MainStatement where
  | plain (leaf : Leaf)
  | begin (statements : List MainStatement) (clauses : List Clauses)

/-- Main statements as one value, with clauses around it. -/
def Clauses.around (clauses : List Clauses) (main : Value) : Value :=
  clauses.foldl (fun inner own => (⟨own.kind, inner :: own.values⟩ : Dump.Form).value) main

/-- The clauses of a body as nodes. -/
def Clauses.allNodes (clauses : List Clauses) : List Concrete :=
  clauses.flatMap Clauses.nodes

namespace MainStatement

mutual

/-- The form of a main statement. -/
def form : MainStatement → Dump.Form
  | .plain leaf => leaf.form
  | .begin statements clauses =>
    ⟨"kwbegin",
      if clauses = [] then (forms statements).map Dump.Form.value
      else [Clauses.around clauses (bodyOf ((forms statements).map Dump.Form.value))]⟩

/-- The forms of main statements. -/
def forms : List MainStatement → List Dump.Form
  | [] => []
  | statement :: rest => statement.form :: forms rest

end

mutual

/-- The concrete trees of a main statement. -/
def IsWritten : MainStatement → Concrete → Prop
  | .plain leaf, node => node = leaf.node
  | .begin statements clauses, node =>
    node.type = "begin" ∧ ∃ mains, AreWritten statements mains ∧
      node.code = mains ++ Clauses.allNodes clauses

/-- The concrete trees of main statements side by side. -/
def AreWritten : List MainStatement → List Concrete → Prop
  | [], nodes => nodes = []
  | statement :: rest, nodes =>
    ∃ node others, nodes = node :: others ∧ statement.IsWritten node ∧ AreWritten rest others

end

/-- A statement with clauses around it. -/
def behindClauses (main : Leaf × Bool) : Leaf × Bool :=
  (main.1, true)

mutual

/-- The statements that a main statement is made of, in their order, each with the answer to whether
there are clauses around it. -/
def leaves : MainStatement → List (Leaf × Bool)
  | .plain leaf => [(leaf, false)]
  | .begin statements clauses =>
    if clauses = [] then allLeaves statements else (allLeaves statements).map behindClauses

/-- The statements that main statements are made of. -/
def allLeaves : List MainStatement → List (Leaf × Bool)
  | [] => []
  | statement :: rest => statement.leaves ++ allLeaves rest

end

end MainStatement

/-! ### What both readers see -/

/-- A row is as good as its statements. -/
theorem similarForests_row (statements : List Node) (place : Option Location) :
    SimilarForests namedLets [.sequence statements place] statements where
  weight := by rw [total_cons, total_nil, Nat.add_zero, namedLets_passes.weight_row]
  sketch around before := by
    rw [Node.forestSketch_cons, Node.forestSketch_nil, List.append_nil, namedLets_passes.sketch_row]

/-- The node of a statement in a dump. -/
def IsDumped (main : Leaf × Bool) (node : Node) : Prop :=
  convert Dump.planner main.1.form () = .ok (node, ())

/-- Both readers have read statements that are made of leaves. They find the same inside; what they
find declared are the declarations of all leaves in the one tree, and of the leaves without clauses
around them in the other. -/
structure Seen (leaves : List (Leaf × Bool)) (dumped read : List Node) : Prop where
  inside : SimilarForests namedLets dumped read
  inRuby : ∃ nodes, List.Forall₂ (fun main node => Becomes main.1.node node) leaves nodes ∧
    read.flatMap Node.declared = nodes.flatMap Node.declared
  inDump : ∃ nodes, List.Forall₂ IsDumped
      (leaves.filter fun main => !main.2) nodes ∧
    dumped.flatMap Node.declared = nodes.flatMap Node.declared
  quiet : (∀ main ∈ leaves, main.1.DeclaresNothing) →
    ∀ before, Node.forestMade namedLets before read = []
  same : (∀ main ∈ leaves, main.2 = true → main.1.DeclaresNothing) →
    ∀ before, Node.forestMade namedLets before dumped = Node.forestMade namedLets before read

namespace Seen

variable {leaves others : List (Leaf × Bool)} {dumped read : List Node}

theorem nil : Seen [] [] [] where
  inside := .nil
  inRuby := ⟨[], .nil, rfl⟩
  inDump := ⟨[], .nil, rfl⟩
  quiet _ _ := rfl
  same _ _ := rfl

theorem append {moreDumped moreRead : List Node} (start : Seen leaves dumped read)
    (rest : Seen others moreDumped moreRead) :
    Seen (leaves ++ others) (dumped ++ moreDumped) (read ++ moreRead) where
  inside := start.inside.append rest.inside
  inRuby := by
    obtain ⟨nodes, become, declared⟩ := start.inRuby
    obtain ⟨moreNodes, becomeToo, declaredToo⟩ := rest.inRuby
    refine ⟨nodes ++ moreNodes, List.rel_append become becomeToo, ?_⟩
    rw [List.flatMap_append, List.flatMap_append, declared, declaredToo]
  inDump := by
    obtain ⟨nodes, become, declared⟩ := start.inDump
    obtain ⟨moreNodes, becomeToo, declaredToo⟩ := rest.inDump
    rw [List.filter_append]
    refine ⟨nodes ++ moreNodes, List.rel_append become becomeToo, ?_⟩
    rw [List.flatMap_append, List.flatMap_append, declared, declaredToo]
  quiet nothing before := by
    rw [List.forall_mem_append] at nothing
    rw [Node.forestMade_append, start.quiet nothing.1, rest.quiet nothing.2]
    rfl
  same nothing before := by
    rw [List.forall_mem_append] at nothing
    rw [Node.forestMade_append, Node.forestMade_append, start.same nothing.1,
      rest.same nothing.2, start.inside.weight]

theorem leaf {leaf : Leaf} {dumped read : Node} {bound last : Names}
    (ofForm : convert Dump.planner leaf.form () = .ok (dumped, ()))
    (ofNode : convert Ruby.planner leaf.node bound = .ok (read, last))
    (similar : Similar namedLets dumped read) : Seen [(leaf, false)] [dumped] [read] where
  inside := .single similar.toSimilarInside
  inRuby := ⟨[read], .cons ⟨bound, last, ofNode⟩ .nil, rfl⟩
  inDump := ⟨[dumped], .cons ofForm .nil, rfl⟩
  quiet nothing before := by
    have none := nothing _ List.mem_cons_self dumped ofForm
    rw [Node.forestMade, Node.forestMade, ← similar.made, Node.made_of_declared none]
    rfl
  same _ before := by
    rw [Node.forestMade, Node.forestMade, similar.made]
    rfl

/-- A row in the concrete tree is seen as its statements are. -/
theorem rowRead (seen : Seen leaves dumped read) (place : Option Location) :
    Seen leaves dumped [.sequence read place] where
  inside := seen.inside.trans (similarForests_row read place).symm
  inRuby := by
    obtain ⟨nodes, become, declared⟩ := seen.inRuby
    exact ⟨nodes, become, by rw [List.flatMap_singleton, Node.declared_sequence, declared]⟩
  inDump := seen.inDump
  quiet nothing before := by
    rw [forestMade_single, namedLets_passes.made_row, seen.quiet nothing]
  same nothing before := by
    rw [forestMade_single, namedLets_passes.made_row, seen.same nothing]

/-- A row in the dump is seen as its statements are. -/
theorem rowDumped (seen : Seen leaves dumped read) : Seen leaves [.sequence dumped none] read where
  inside := (similarForests_row dumped none).trans seen.inside
  inRuby := seen.inRuby
  inDump := by
    obtain ⟨nodes, become, declared⟩ := seen.inDump
    exact ⟨nodes, become, by rw [List.flatMap_singleton, Node.declared_sequence, declared]⟩
  quiet := seen.quiet
  same nothing before := by
    rw [forestMade_single, namedLets_passes.made_row, seen.same nothing]

/-- **Statements together are seen as they are:** nothing, the only one of them, or a row. -/
theorem joined (seen : Seen leaves dumped read) : Seen leaves (Dump.joined dumped).toList read := by
  match dumped with
  | [] => exact seen
  | [_] => exact seen
  | _ :: _ :: _ => exact seen.rowDumped

/-- So are the statements of a body. -/
theorem blockBody (seen : Seen leaves dumped read) (block : Concrete) :
    Seen leaves dumped (Ruby.blockBody block read).toList := by
  cases read with
  | nil => exact seen
  | cons => exact seen.rowRead _

/-- **Behind clauses, statements declare nothing in a dump,** and all that they declare in a concrete
tree. -/
theorem behind {wrapped clauses : List Node} (seen : Seen leaves dumped read)
    (inside : SimilarForests namedLets wrapped (dumped ++ clauses))
    (ofClauses : ∀ node ∈ clauses, node.declared = [])
    (ofWrapped : ∀ node ∈ wrapped, node.declared = []) :
    Seen (leaves.map MainStatement.behindClauses) wrapped (read ++ clauses) where
  inside := inside.trans (seen.inside.append ⟨rfl, fun _ _ => rfl⟩)
  inRuby := by
    obtain ⟨nodes, become, declared⟩ := seen.inRuby
    refine ⟨nodes, List.forall₂_map_left_iff.mpr become, ?_⟩
    rw [List.flatMap_append, declared, List.flatMap_eq_nil_iff.mpr ofClauses, List.append_nil]
  inDump := by
    have none : (leaves.map MainStatement.behindClauses).filter (fun main => !main.2) = [] := by
      rw [List.filter_map, List.map_eq_nil_iff, List.filter_eq_nil_iff]
      exact fun _ _ hidden => nomatch hidden
    rw [none]
    exact ⟨[], .nil, List.flatMap_eq_nil_iff.mpr ofWrapped⟩
  quiet nothing before := by
    rw [List.forall_mem_map] at nothing
    rw [Node.forestMade_append, seen.quiet nothing, forestMade_of_declared ofClauses]
    rfl
  same nothing before := by
    rw [List.forall_mem_map] at nothing
    rw [forestMade_of_declared ofWrapped, Node.forestMade_append,
      seen.quiet fun main mem => nothing main mem rfl, forestMade_of_declared ofClauses]
    rfl

end Seen

/-! ### Clauses -/

/-- A node that is not interpreted is as good as what is in it, but for what is declared there. -/
theorem similarForests_other (kind : String) (children : List Node) (text : Option String)
    (place : Option Location) :
    SimilarForests namedLets [.other kind children text place] children where
  weight := by
    rw [total_cons, total_nil, Nat.add_zero, Marking.weight_eq]
    exact Nat.zero_add _
  sketch around before := by
    rw [Node.forestSketch_cons, Node.forestSketch_nil, List.append_nil, Node.sketch_eq, if_neg]
    · rfl
    · exact nofun

theorem Ruby.plan_clause {clause : Concrete} (type : clause.type ∈ clauseTypes) (bound : Names) :
    plan clause bound =
      .ok (childrenPlan clause (fun child => !child.isSkipped) (otherNode clause)) := by
  simp only [clauseTypes, List.mem_cons, List.not_mem_nil, or_false] at type
  rcases type with type | type | type <;>
    simp [plan, type, callTypes, sequenceTypes, quotedTypes]

/-- A clause declares nothing in a concrete tree. -/
theorem declared_of_clause {clause : Concrete} {node : Node} (becomes : Becomes clause node)
    (type : clause.type ∈ clauseTypes) : node.declared = [] := by
  obtain ⟨bound, last, converts⟩ := becomes
  obtain ⟨planned, nodes, plans, -, assembles⟩ := Ruby.plan_of_convert converts
  cases (Ruby.plan_clause type _).symm.trans plans
  cases assembles
  rfl

theorem plan_of_clauseKind {kind : String} (isClause : kind = "rescue" ∨ kind = "ensure")
    (elements : List Value) :
    Dump.plan ⟨kind, elements⟩ = .ok (Dump.partsPlan _ elements (Nat.le_refl _) fun parts =>
      .other kind parts none none) := by
  rcases isClause with rfl | rfl <;> rfl

/-- **Clauses around a value make a node that declares nothing,** with the same in it. -/
theorem Clauses.around_converts (clauses : List Clauses) {main : Value} {dumped : List Node}
    (ofMain : convertAll Dump.planner (forms [main]) () = .ok (dumped, ())) (bound : Names) :
    ∃ wrapped read after,
      convertAll Dump.planner (forms [Clauses.around clauses main]) () = .ok (wrapped, ()) ∧
        convertAll Ruby.planner (Clauses.allNodes clauses) bound = .ok (read, after) ∧
        SimilarForests namedLets wrapped (dumped ++ read) ∧
        (∀ node ∈ read, node.declared = []) ∧
        (clauses ≠ [] → ∀ node ∈ wrapped, node.declared = []) := by
  induction clauses generalizing main dumped bound with
  | nil =>
    refine ⟨dumped, [], bound, ofMain, convertAll_nil bound, ?_, nofun, fun no => absurd rfl no⟩
    rw [List.append_nil]
    exact ⟨rfl, fun _ _ => rfl⟩
  | cons own rest ih =>
    obtain ⟨parts, clauseNodes, middle, ofValues, ofNodes, similar⟩ := own.both bound
    have ofInner : convert Dump.planner ⟨own.kind, main :: own.values⟩ () =
        .ok (.other own.kind (dumped ++ parts) none none, ()) := by
      refine Dump.convert_other (plan_of_clauseKind own.kinds _) ?_
      rw [← List.singleton_append, Dump.forms_append]
      exact convertAll_append_eq_ok ofMain ofValues
    have ofValue : convertAll Dump.planner
        (forms [(⟨own.kind, main :: own.values⟩ : Dump.Form).value]) () =
          .ok ([.other own.kind (dumped ++ parts) none none], ()) := by
      rw [Dump.forms_value_cons]
      exact Dump.convertAll_single ofInner
    obtain ⟨wrapped, read, after, ofWrapped, ofRest, inside, nothing, nothingToo⟩ := ih ofValue middle
    have opened := (similarForests_other own.kind (dumped ++ parts) none none).trans
      (SimilarForests.append ⟨rfl, fun _ _ => rfl⟩ similar)
    refine ⟨wrapped, clauseNodes ++ read, after, ofWrapped, ?_, ?_, ?_, fun _ => ?_⟩
    · exact convertAll_append_eq_ok ofNodes ofRest
    · rw [← List.append_assoc]
      exact inside.trans (opened.append ⟨rfl, fun _ _ => rfl⟩)
    · refine List.forall_mem_append.mpr ⟨fun node mem => ?_, nothing⟩
      obtain ⟨clause, clauseMem, becomes⟩ :=
        Ruby.exists_of_mem_image (Ruby.forall₂_becomes ofNodes) mem
      exact declared_of_clause becomes (own.types clause clauseMem)
    · cases rest with
      | nil =>
        cases ofWrapped.symm.trans ofValue
        exact List.forall_mem_singleton.mpr rfl
      | cons => exact nothingToo (List.cons_ne_nil _ _)

/-! ### Main statements -/

theorem isRead_of_type {node : Concrete} (type : node.type ∈ "call" :: "begin" :: clauseTypes) :
    node.IsRead := by
  have types : ∀ type ∈ "call" :: "begin" :: clauseTypes,
      Ruby.skippedTypes.contains type = false ∧ Ruby.wrapperTypes.contains type = false := by
    decide
  obtain ⟨kept, single⟩ := types _ type
  exact ⟨kept, single⟩

namespace MainStatement

theorem isRead {statement : MainStatement} {node : Concrete} (written : statement.IsWritten node) :
    node.IsRead := by
  cases statement with
  | plain leaf =>
    obtain rfl := written
    exact leaf.isRead
  | «begin» statements clauses =>
    obtain ⟨type, -⟩ := written
    exact isRead_of_type (by simp [type])

theorem areRead {statements : List MainStatement} {nodes : List Concrete}
    (written : AreWritten statements nodes) : ∀ node ∈ nodes, node.IsRead := by
  induction statements generalizing nodes with
  | nil =>
    obtain rfl := written
    exact nofun
  | cons statement rest ih =>
    obtain ⟨node, others, rfl, here, later⟩ := written
    exact List.forall_mem_cons.mpr ⟨isRead here, ih later⟩

end MainStatement

theorem Clauses.areRead (clauses : List Clauses) :
    ∀ node ∈ Clauses.allNodes clauses, node.IsRead := by
  intro node mem
  obtain ⟨own, -, among⟩ := List.mem_flatMap.mp mem
  exact isRead_of_type (List.mem_cons_of_mem _ (List.mem_cons_of_mem _ (own.types node among)))

/-- Main statements with clauses are seen, where the statements are. -/
theorem seen_body {statements : List MainStatement} {mains : List Concrete}
    {dumped read : List Node} {bound middle : Names} (clauses : List Clauses)
    (ofForms : convertAll Dump.planner (MainStatement.forms statements) () = .ok (dumped, ()))
    (ofMains : convertAll Ruby.planner mains bound = .ok (read, middle))
    (seen : Seen (MainStatement.allLeaves statements) dumped read) :
    ∃ whole nodes after,
      convertAll Dump.planner (forms [Clauses.around clauses
        (bodyOf ((MainStatement.forms statements).map Dump.Form.value))]) () = .ok (whole, ()) ∧
      convertAll Ruby.planner (mains ++ Clauses.allNodes clauses) bound = .ok (nodes, after) ∧
      Seen (MainStatement.begin statements clauses).leaves whole nodes := by
  obtain ⟨whole, clauseNodes, after, ofWhole, ofClauses, inside, nothing, nothingToo⟩ :=
    Clauses.around_converts clauses (Dump.convert_bodyOf ofForms) middle
  refine ⟨whole, read ++ clauseNodes, after, ofWhole, convertAll_append_eq_ok ofMains ofClauses, ?_⟩
  rw [MainStatement.leaves]
  split
  · rename_i noClauses
    subst noClauses
    cases (Dump.convert_bodyOf ofForms).symm.trans ofWhole
    rw [Clauses.allNodes, List.flatMap_nil, convertAll_nil] at ofClauses
    cases ofClauses
    rw [List.append_nil]
    exact seen.joined
  · rename_i someClauses
    exact seen.joined.behind inside nothing (nothingToo someClauses)

mutual

/-- **Both readers see a main statement.** -/
theorem MainStatement.seen (statement : MainStatement) {node : Concrete}
    (written : statement.IsWritten node) (bound : Names) :
    ∃ dumped read after, convert Dump.planner statement.form () = .ok (dumped, ()) ∧
      convert Ruby.planner node bound = .ok (read, after) ∧
      Seen statement.leaves [dumped] [read] := by
  match statement with
  | .plain leaf =>
    obtain rfl := written
    obtain ⟨dumped, read, after, ofForm, ofNode, similar⟩ := leaf.both bound
    exact ⟨dumped, read, after, ofForm, ofNode, .leaf ofForm ofNode similar⟩
  | .begin statements clauses =>
    obtain ⟨type, mains, ofStatements, code⟩ := written
    obtain ⟨dumped, read, middle, ofForms, ofMains, seen⟩ :=
      MainStatement.seenAll statements ofStatements (Ruby.boundBy node ++ bound)
    obtain ⟨whole, nodes, after, ofWhole, ofNodes, seenToo⟩ := seen_body clauses ofForms ofMains seen
    have isRow : node.type ∈ Ruby.sequenceTypes := by simp [type, Ruby.sequenceTypes]
    have areRead : ∀ child ∈ node.code, child.IsRead := by
      rw [code]
      exact List.forall_mem_append.mpr ⟨areRead ofStatements, Clauses.areRead clauses⟩
    rw [form, leaves]
    split_ifs with noClauses
    · subst noClauses
      rw [Clauses.allNodes, List.flatMap_nil, List.append_nil] at code
      have ofNode := Ruby.convert_row isRow areRead (code.symm ▸ ofMains)
      rw [← Dump.forms_map_value (forms statements)] at ofForms
      exact ⟨_, _, middle, Dump.convert_row true ofForms, ofNode, seen.rowDumped.rowRead _⟩
    · have ofNode := Ruby.convert_row isRow areRead (code.symm ▸ ofNodes)
      rw [leaves, if_neg noClauses] at seenToo
      exact ⟨_, _, after, Dump.convert_row true ofWhole, ofNode,
        seenToo.rowDumped.rowRead _⟩

/-- **Both readers see main statements side by side.** -/
theorem MainStatement.seenAll (statements : List MainStatement) {nodes : List Concrete}
    (written : AreWritten statements nodes) (bound : Names) :
    ∃ dumped read after, convertAll Dump.planner (forms statements) () = .ok (dumped, ()) ∧
      convertAll Ruby.planner nodes bound = .ok (read, after) ∧
      Seen (allLeaves statements) dumped read := by
  match statements with
  | [] =>
    obtain rfl := written
    exact ⟨[], [], bound, convertAll_nil (), convertAll_nil bound, .nil⟩
  | statement :: rest =>
    obtain ⟨node, others, rfl, here, later⟩ := written
    obtain ⟨dumped, read, middle, ofForm, ofNode, seen⟩ := MainStatement.seen statement here bound
    obtain ⟨moreDumped, moreRead, after, ofForms, ofNodes, seenToo⟩ :=
      MainStatement.seenAll rest later middle
    exact ⟨dumped :: moreDumped, read :: moreRead, after, convertAll_cons_eq_ok ofForm ofForms,
      convertAll_cons_eq_ok ofNode ofNodes, seen.append seenToo⟩

end

/-! ### Groups -/

/-- A call with a block, such as a group, whose body has main statements and perhaps clauses. -/
structure Grouping where
  receiver : Option ConstantPath
  method : String
  arguments : List Term
  parameters : Value
  statements : List MainStatement
  clauses : List Clauses

namespace Grouping

/-- The form of a group. -/
def form (group : Grouping) : Dump.Form :=
  ⟨"block",
    [ (⟨"send", ConstantPath.receiverValue group.receiver :: textOf group.method ::
          Term.dumpAll group.arguments⟩ : Dump.Form).value,
      group.parameters,
      Clauses.around group.clauses
        (bodyOf ((MainStatement.forms group.statements).map Dump.Form.value)) ]⟩

/-- The concrete trees of a group. -/
structure IsWritten (group : Grouping) (node : Concrete) : Prop where
  type : node.type = "call"
  named : node.HasTextAt "method" group.method
  receiver : ConstantPath.IsReceiver group.receiver (node.childAt? "receiver")
  arguments : Term.AreWritten group.arguments node.argumentNodes
  body : ∃ block, node.childAt? "block" = some block ∧
    (block.type = "block" ∨ block.type = "do_block") ∧
    ∃ wrapper, block.bodyNodes = [wrapper] ∧
      (wrapper.type = "block_body" ∨ wrapper.type = "body_statement") ∧
      ∃ mains, MainStatement.AreWritten group.statements mains ∧
        wrapper.code = mains ++ Clauses.allNodes group.clauses

/-- The statements that the body of a group is made of, each with the answer to whether there are
clauses around it. -/
def leaves (group : Grouping) : List (Leaf × Bool) :=
  (MainStatement.begin group.statements group.clauses).leaves

/-- No statement with clauses around it declares anything. -/
def HidesNothing (group : Grouping) : Prop :=
  ∀ main ∈ group.leaves, main.2 = true → main.1.DeclaresNothing

end Grouping

/-- Blocks of similar calls are similar if the same is in their bodies and declared there. -/
theorem similar_block_of_bodies {first second : Call Node}
    (similar : SimilarCalls namedLets first second)
    {firstBody secondBody : Option Node} (firstPlace secondPlace : Option Location)
    (inside : SimilarForests namedLets firstBody.toList secondBody.toList)
    (made : ∀ before, Node.forestMade namedLets before firstBody.toList =
      Node.forestMade namedLets before secondBody.toList) :
    Similar namedLets (.block first firstBody firstPlace) (.block second secondBody secondPlace) := by
  have face : SameFace namedLets (.block first firstBody firstPlace)
      (.block second secondBody secondPlace) := ⟨similar.face.counts, fun _ => rfl⟩
  have madeInside : ∀ (invocation : Call Node) (body : Option Node) (place : Option Location)
      (before : Nat), (Node.block invocation body place).madeInside namedLets before =
        Node.forestMade namedLets (before + namedLets.own (.block invocation body place) +
          namedLets.weight (.call invocation)) body.toList := by
    intro invocation body place before
    cases body with
    | none => rfl
    | some body =>
      rw [Option.toList_some, forestMade_single]
      rfl
  -- As a declaration and as a name, a block is what it is without its body.
  have bodiless : Similar namedLets (.block first none firstPlace) (.block second none secondPlace) :=
    similar_block_namedLets similar .nil
  refine ⟨⟨face.inside ?_ similar.opensGroup fun before => ?_, fun before => ?_⟩, fun before => ?_⟩
  · exact (SimilarForests.single similar.similar.toSimilarInside).append inside
  · rw [madeInside, madeInside, made, similar.similar.weight, face.own]
  · have made := bodiless.made before
    rw [Node.made, Node.made, Node.ownEntry, Node.ownEntry, Node.named_block,
      Node.named_block] at made ⊢
    exact made
  · have named := bodiless.named before
    rw [Node.named_block, Node.named_block] at named ⊢
    exact named

/-- A value is converted to one node at most. -/
theorem toList_head? {value : Value} {nodes : List Node}
    (converts : convertAll Dump.planner (forms [value]) () = .ok (nodes, ())) :
    nodes.head?.toList = nodes := by
  have few : nodes.length ≤ 1 := by
    rw [length_of_convertAll converts]
    exact List.length_filterMap_le _ _
  match nodes with
  | [] => rfl
  | [_] => rfl
  | _ :: _ :: _ => simp at few

/-- **Both readers see a group.** In a concrete tree it declares what all main statements of its body
declare; in a dump, what those declare that have no clauses around them. -/
theorem Grouping.seen (group : Grouping) {node : Concrete} (written : group.IsWritten node)
    (bound : Names) :
    ∃ dumped read after, convert Dump.planner group.form () = .ok (dumped, ()) ∧
      convert Ruby.planner node bound = .ok (read, after) ∧
      (∃ nodes, List.Forall₂ (fun main node => Becomes main.1.node node) group.leaves nodes ∧
        read.DeclaresAs nodes) ∧
      (∃ nodes, List.Forall₂ IsDumped (group.leaves.filter fun main => !main.2) nodes ∧
        dumped.DeclaresAs nodes) ∧
      (group.HidesNothing → Similar namedLets dumped read) := by
  obtain ⟨block, atBlock, blockType, wrapper, holds, wrapperType, mains, ofStatements, code⟩ :=
    written.body
  have attached : Ruby.attachedBlock? node = some block := by
    rw [Ruby.attachedBlock?, atBlock]
    rcases blockType with blockType | blockType <;> simp [Ruby.blockTypes, blockType]
  have statements : Ruby.blockStatements node = mains ++ Clauses.allNodes group.clauses := by
    have areRead : ∀ child ∈ wrapper.code, child.IsRead := by
      rw [code]
      exact List.forall_mem_append.mpr
        ⟨MainStatement.areRead ofStatements, Clauses.areRead group.clauses⟩
    rw [Ruby.blockStatements, attached, ← code]
    exact Concrete.statements_eq_of_wrapper holds wrapperType areRead
  obtain ⟨dumpedCall, readReceiver, readArguments, second, third, ofCall, ofReceiver, ofArguments,
    calls⟩ := call_agrees written.receiver (Term.agreeAll group.arguments written.arguments)
      (some node.location) (Ruby.boundBy node ++ bound)
  obtain ⟨dumped, read, fourth, ofForms, ofMains, seen⟩ :=
    MainStatement.seenAll group.statements ofStatements third
  obtain ⟨whole, nodes, after, ofWhole, ofNodes, seen⟩ :=
    seen_body group.clauses ofForms ofMains seen
  rw [← statements] at ofNodes
  have seen := seen.blockBody block
  rw [← toList_head? ofWhole] at seen
  have ofNode := Ruby.convert_call written.type written.named ofReceiver ofArguments ofNodes
  rw [Ruby.callNode, attached] at ofNode
  refine ⟨_, _, after, Dump.convert_block group.parameters ofCall ofWhole, ofNode, ?_, ?_, ?_⟩
  · obtain ⟨leaves, become, declared⟩ := seen.inRuby
    exact ⟨leaves, become, Node.declaresAs_block declared⟩
  · obtain ⟨leaves, become, declared⟩ := seen.inDump
    exact ⟨leaves, become, Node.declaresAs_block declared⟩
  · exact fun hides => similar_block_of_bodies calls _ _ seen.inside (seen.same hides)

/-! ### What clauses hide -/

section Hidden

variable {leaves : List (Leaf × Bool)} {all shown : List Node}

theorem exists_dumped (leaves : List (Leaf × Bool)) :
    ∃ nodes, List.Forall₂ IsDumped leaves nodes := by
  induction leaves with
  | nil => exact ⟨[], .nil⟩
  | cons main rest ih =>
    obtain ⟨nodes, areDumped⟩ := ih
    obtain ⟨dumped, -, -, ofForm, -⟩ := main.1.both []
    exact ⟨dumped :: nodes, .cons ofForm areDumped⟩

theorem length_declared_le (ofAll : List.Forall₂ IsDumped leaves all)
    (ofShown : List.Forall₂ IsDumped (leaves.filter fun main => !main.2) shown) :
    (shown.flatMap Node.declared).length ≤ (all.flatMap Node.declared).length := by
  induction ofAll generalizing shown with
  | nil =>
    cases ofShown
    exact Nat.le_refl _
  | @cons main node rest others here _ ih =>
    rw [List.flatMap_cons, List.length_append]
    rcases behind : main.2 with _ | _
    · rw [List.filter_cons_of_pos (by simp [behind])] at ofShown
      obtain ⟨_, _, again, later, rfl⟩ := List.forall₂_cons_left_iff.mp ofShown
      cases again.symm.trans here
      rw [List.flatMap_cons, List.length_append]
      exact Nat.add_le_add_left (ih later) _
    · rw [List.filter_cons_of_neg (by simp [behind])] at ofShown
      exact (ih ofShown).trans (Nat.le_add_left _ _)

/-- Leaving out the statements with clauses around them leaves out no declaration, exactly if these
statements declare nothing. -/
theorem declared_shown_eq_iff (ofAll : List.Forall₂ IsDumped leaves all)
    (ofShown : List.Forall₂ IsDumped (leaves.filter fun main => !main.2) shown) :
    shown.flatMap Node.declared = all.flatMap Node.declared ↔
      ∀ main ∈ leaves, main.2 = true → main.1.DeclaresNothing := by
  induction ofAll generalizing shown with
  | nil =>
    cases ofShown
    exact iff_of_true rfl nofun
  | @cons main node rest others here more ih =>
    rw [List.flatMap_cons, List.forall_mem_cons]
    rcases behind : main.2 with _ | _
    · rw [List.filter_cons_of_pos (by simp [behind])] at ofShown
      obtain ⟨_, _, again, later, rfl⟩ := List.forall₂_cons_left_iff.mp ofShown
      cases again.symm.trans here
      rw [List.flatMap_cons, List.append_cancel_left_eq, ih later, and_iff_right nofun]
    · rw [List.filter_cons_of_neg (by simp [behind])] at ofShown
      have quiet : main.1.DeclaresNothing ↔ node.declared = [] := by
        refine ⟨fun nothing => nothing node here, fun nothing other converts => ?_⟩
        cases converts.symm.trans here
        exact nothing
      rw [← ih ofShown, quiet, forall_prop_of_true rfl]
      constructor
      · intro same
        have few := length_declared_le more ofShown
        rw [same, List.length_append] at few
        have none : node.declared = [] := List.length_eq_zero_iff.mp (by omega)
        exact ⟨none, by rw [same, none, List.nil_append]⟩
      · rintro ⟨none, same⟩
        rw [none, same, List.nil_append]

end Hidden

/-! ### Files with groups -/

/-- The statements of a file as values of its dump. -/
def Leaf.values (leaves : List Leaf) : List Value :=
  (leaves.map Leaf.form).map Dump.Form.value

theorem Leaf.bothGive (leaves : List Leaf) :
    BothGive (List.Forall₂ (Similar namedLets)) (Leaf.values leaves) (leaves.map Leaf.node) := by
  induction leaves with
  | nil => exact .nil
  | cons leaf rest ih => exact .cons leaf.both ih

/-- A group that hides nothing is one of the statements that both readers convert to similar nodes. -/
def Grouping.leaf (group : Grouping) {node : Concrete} (written : group.IsWritten node)
    (hides : group.HidesNothing) : Leaf where
  form := group.form
  node := node
  isRead := isRead_of_type (by simp [written.type])
  both bound := by
    obtain ⟨dumped, read, after, ofForm, ofNode, -, -, similar⟩ := group.seen written bound
    exact ⟨dumped, read, after, ofForm, ofNode, similar hides⟩

/-- The check says the same of both trees of a file of statements. -/
theorem account_eq_of_leaves (leaves : List Leaf) {source : Concrete} (type : source.type = "program")
    (code : source.code = leaves.map Leaf.node) (file : String) :
    ∃ dumped read, loadValue (bodyOf (Leaf.values leaves)) = .ok dumped ∧
      loadRuby file (some source) = .ok read ∧
      account namedLets dumped file = account namedLets read file := by
  obtain ⟨dumped, read, last, ofValues, ofNodes, similar⟩ :=
    Leaf.bothGive leaves (Ruby.boundBy source ++ [])
  have areRead : ∀ child ∈ source.code, child.IsRead := by
    rw [code]
    exact List.forall_mem_map.mpr fun leaf _ => leaf.isRead
  have ofSource : convert Ruby.planner source [] =
      .ok (.sequence read (some source.location), last) := by
    refine Ruby.convert_row ?_ areRead (code ▸ ofNodes)
    rw [type]
    decide
  have alike := similar_joined similar (some source.location)
  rw [Leaf.values, Dump.forms_map_value] at ofValues
  have loads : loadRuby file (some source) = .ok (.sequence read (some source.location)) := by
    show (Ruby.tree source).mapError _ = _
    rw [Ruby.tree, Conversion.build_eq_convert, ofSource]
    rfl
  refine ⟨_, _, loadValue_bodyOf ofValues, loads, ?_⟩
  rw [account_eq_settle, account_eq_settle, alike.sketch]

/-- **Clauses hide declarations from the readers of dumps, and from them only.** A group whose main
statements have clauses around them, at any depth of `begin`, declares in a concrete tree what all its
main statements declare, and in a dump what those declare that have no clauses around them. So in a
dump all main statements declare what they declare in the group, exactly if no clauses are around a
declaration; and then the check says the same of both trees of a file with the group in it. -/
theorem mainStatements_declared (group : Grouping) {node : Concrete} (written : group.IsWritten node) :
    (∀ bound : Names, ∃ dumped read after,
      convert Dump.planner group.form () = .ok (dumped, ()) ∧
        convert Ruby.planner node bound = .ok (read, after) ∧
        (∃ nodes, List.Forall₂ (fun main node => Becomes main.1.node node) group.leaves nodes ∧
          read.DeclaresAs nodes) ∧
        (∃ nodes, List.Forall₂ IsDumped (group.leaves.filter fun main => !main.2) nodes ∧
          dumped.DeclaresAs nodes) ∧
        ((∃ nodes, List.Forall₂ IsDumped group.leaves nodes ∧ dumped.DeclaresAs nodes) ↔ group.HidesNothing)) ∧
      (group.HidesNothing → ∀ (before after : List Leaf) (source : Concrete) (file : String),
        source.type = "program" →
        source.code = before.map Leaf.node ++ node :: after.map Leaf.node →
        ∃ dumped read,
          loadValue (bodyOf (Leaf.values before ++ group.form.value :: Leaf.values after)) =
            .ok dumped ∧
          loadRuby file (some source) = .ok read ∧
          account namedLets dumped file = account namedLets read file) := by
  constructor
  · intro bound
    obtain ⟨dumped, read, after, ofForm, ofNode, inRuby, inDump, -⟩ := group.seen written bound
    refine ⟨dumped, read, after, ofForm, ofNode, inRuby, inDump, ?_⟩
    obtain ⟨shown, ofShown, declares⟩ := inDump
    constructor
    · rintro ⟨all, ofAll, declaresAll⟩
      exact (declared_shown_eq_iff ofAll ofShown).mp ((declares 0).symm.trans (declaresAll 0))
    · intro hides
      obtain ⟨all, ofAll⟩ := exists_dumped group.leaves
      refine ⟨all, ofAll, fun pos => (declares pos).trans ?_⟩
      exact (declared_shown_eq_iff ofAll ofShown).mpr hides
  · intro hides before after source file type code
    have values : Leaf.values (before ++ group.leaf written hides :: after) =
        Leaf.values before ++ group.form.value :: Leaf.values after := by
      rw [Leaf.values, List.map_append, List.map_append]
      rfl
    rw [← values]
    exact account_eq_of_leaves _ type (by rw [code, List.map_append]; rfl) file

/-! ### A group with a rescued declaration -/

/-- A term with a concrete tree of it. -/
def Leaf.ofTerm (term : Term) {node : Concrete} (written : term.IsWritten node) : Leaf :=
  ⟨term.form, node, Term.isRead written, Term.agrees term written⟩

/-- The concrete tree of `let :x`. -/
def letSource : Concrete :=
  nodeUnder none "call" ""
    [ nodeUnder (some "method") "identifier" "let" [],
      nodeUnder (some "arguments") "argument_list" "" [nodeUnder none "simple_symbol" ":x" []] ]

theorem letSource_isWritten : (Term.call none "let" [.symbol "x"]).IsWritten letSource :=
  ⟨rfl, ⟨_, rfl, rfl⟩, rfl, ⟨_, _, rfl, ⟨rfl, rfl⟩, rfl⟩, rfl⟩

/-- A `rescue` with nothing in it. -/
def emptyRescue : Clauses where
  kind := "rescue"
  values := [(⟨"resbody", [.null, .null, .null]⟩ : Dump.Form).value, .null]
  nodes := [nodeUnder none "rescue" "" []]
  kinds := .inl rfl
  types := by decide
  both bound := by
    have isClause : (nodeUnder none "rescue" "" []).type ∈ clauseTypes := by decide
    have ofClause := Ruby.convert_of_plan (Ruby.plan_clause isClause _)
      (convertAll_nil (Ruby.boundBy _ ++ bound)) rfl
    have nothing {kind : String} {text : Option String} {place : Option Location} :
        SimilarForests namedLets [.other kind [] text place] [] := .leaf rfl rfl rfl
    exact ⟨[.other "resbody" [] none none], _, _,
      Dump.convertAll_single (Dump.convert_other rfl (convertAll_nil ())),
      convertAll_cons_eq_ok ofClause (convertAll_nil _), nothing.trans nothing.symm⟩

/-- A group whose only statement is a declaration, with a `rescue` behind it. -/
def rescuedGroup : Grouping where
  receiver := none
  method := "context"
  arguments := []
  parameters := .null
  statements := [.plain (.ofTerm _ letSource_isWritten)]
  clauses := [emptyRescue]

/-- The concrete tree of this group. -/
def rescuedSource : Concrete :=
  callWithBlock [nodeUnder (some "method") "identifier" "context" []]
    (nodeUnder none "body_statement" "" [letSource, nodeUnder none "rescue" "" []])

theorem rescuedSource_isWritten : rescuedGroup.IsWritten rescuedSource where
  type := rfl
  named := ⟨_, rfl, rfl⟩
  receiver := rfl
  arguments := rfl
  body := ⟨_, rfl, .inr rfl, _, rfl, .inr rfl, [letSource], ⟨_, _, rfl, rfl, rfl⟩, rfl⟩

/-- The rescued declaration is one of the group in its concrete tree only. -/
theorem mainStatements_declared_rescued :
    rescuedGroup.IsWritten rescuedSource ∧ ¬rescuedGroup.HidesNothing ∧
      ∃ dumped read after,
        convert Dump.planner rescuedGroup.form () = .ok (dumped, ()) ∧
          convert Ruby.planner rescuedSource [] = .ok (read, after) ∧
          (⟨0, dumped⟩ : Occurrence).directDeclarations.map Occurrence.node = [] ∧
          (⟨0, read⟩ : Occurrence).directDeclarations.length = 1 := by
  obtain ⟨dumped, read, after, ofForm, ofNode, -, ⟨shown, ofShown, declares⟩, -⟩ :=
    (mainStatements_declared rescuedGroup rescuedSource_isWritten).1 []
  cases ofShown
  have hides : ¬rescuedGroup.HidesNothing := by
    intro hides
    have ofLet : convert Dump.planner (Term.call none "let" [.symbol "x"]).form () = .ok (_, ()) :=
      Dump.convert_bareCall "let" (Dump.convertAll_single (Dump.convert_literal true "x"))
    exact List.cons_ne_nil _ _ (hides _ List.mem_cons_self rfl _ ofLet)
  have built : (Ruby.tree rescuedSource).map
      (fun read => (⟨0, read⟩ : Occurrence).directDeclarations.length) = .ok 1 := by
    decide +kernel
  rw [Ruby.tree, Conversion.build_eq_convert, ofNode] at built
  exact ⟨rescuedSource_isWritten, hides, dumped, read, after, ofForm, ofNode, declares 0,
    Except.ok.inj built⟩

/-- The dump of a file with the rescued declaration in a group that also has a declaration `x`. -/
def rescuedDump : Value :=
  bodyOf
    [ (⟨"block",
        [ (⟨"send", [.null, textOf "describe"]⟩ : Dump.Form).value,
          .null,
          bodyOf [(Term.call none "let" [.symbol "x"]).form.value, rescuedGroup.form.value] ]⟩ :
        Dump.Form).value ]

/-- The concrete tree of this file. -/
def rescuedFile : Concrete :=
  nodeUnder none "program" ""
    [ callWithBlock [nodeUnder (some "method") "identifier" "describe" []]
        (nodeUnder none "body_statement" "" [letSource, rescuedSource]) ]

/-- Only from the concrete tree does the check report that the rescued declaration overrides the one
around it. -/
theorem mainStatements_hidden :
    rescuedGroup.IsWritten rescuedSource ∧
      (loadValue rescuedDump).map (fun tree => account namedLets tree "a_spec.rb") =
        .ok (.ok (2, [])) ∧
      (Ruby.tree rescuedFile).map (fun tree => account namedLets tree "a_spec.rb") =
        .ok (.ok (2, [(1, "x")])) :=
  ⟨rescuedSource_isWritten, by decide +kernel, by decide +kernel⟩

end LetShadow
