/-
**Rows of statements make no difference.**

Whether statements of a body stand side by side or in a row of their own is a matter of how a source
was read: one reading gives a body of one statement bare, another always puts it into a row. A check
does not see the difference.

* `RowEdit` — **one edit of rows,** anywhere in a tree: statements of a body put into a row of their
  own, or none of them, which adds an empty row; a body wrapped in a row; the name of a declaration
  wrapped in one.
* `landmarks` — the nodes that are no rows, in pre-order. **No edit adds, removes or moves one,** so
  that nodes of the two trees correspond if as many landmarks stand before them.
* `account_eq_of_edits` — **any number of edits, in both directions, leave the groups and the offenses
  as they are,** or the failure, at corresponding nodes.
-/

import Mathlib.Logic.Relation
import LetShadow.Proofs.Sketch.Account

namespace LetShadow

/-! ### Landmarks -/

/-- A call without its operands. -/
def Call.label (invocation : Call Node) : Call Node :=
  { method := invocation.method, location := invocation.location }

/-- A node without its children. -/
def Node.label : Node → Node
  | .call invocation => .call invocation.label
  | .block invocation _ location => .block invocation.label none location
  | .sequence _ location => .sequence [] location
  | .symbol value location => .symbol value location
  | .string value location => .string value location
  | .localVariable name location => .localVariable name location
  | .other kind _ text location => .other kind [] text location

/-- Everything but a row counts, and a mark shows a node without its children. -/
def landmark : Marking (Nat × Node) where
  counts node := node.kind ≠ .sequence
  mark before node := (before, node.label)

/-- The nodes of a tree that are no rows, without their children. -/
def Node.landmarks (node : Node) : List Node :=
  (node.preorder.filter landmark.counts).map label

/-! ### Edits -/

/-- Statements of a row, or of a row among them, are put into a row of their own. -/
inductive Grouped : Node → Node → Prop
  | here (before inner after : List Node) (place location : Option Location) :
    Grouped (.sequence (before ++ inner ++ after) place)
      (.sequence (before ++ .sequence inner location :: after) place)
  | inside {row grouped : Node} (before after : List Node) (place : Option Location)
      (edit : Grouped row grouped) :
    Grouped (.sequence (before ++ row :: after) place)
      (.sequence (before ++ grouped :: after) place)

/-- One edit of rows somewhere in a tree. -/
inductive RowEdit : Node → Node → Prop
  /-- Statements of a body are grouped. -/
  | grouped {body edited : Node} (invocation : Call Node) (place : Option Location)
      (edit : Grouped body edited) :
    RowEdit (.block invocation (some body) place) (.block invocation (some edited) place)
  /-- A body is wrapped in a row. -/
  | body (invocation : Call Node) (body : Node) (place location : Option Location) :
    RowEdit (.block invocation (some body) place)
      (.block invocation (some (.sequence [body] location)) place)
  /-- The first argument of a call, which is the name if the call declares, is wrapped in a row. -/
  | name (method : String) (name : Node) (rest : List Node) (receiver : Option Node)
      (place location : Option Location) :
    RowEdit (.call ⟨method, name :: rest, receiver, place⟩)
      (.call ⟨method, .sequence [name] location :: rest, receiver, place⟩)
  | inReceiver {receiver edited : Node} (method : String) (arguments : List Node)
      (place : Option Location) (edit : RowEdit receiver edited) :
    RowEdit (.call ⟨method, arguments, some receiver, place⟩)
      (.call ⟨method, arguments, some edited, place⟩)
  | inArgument {argument edited : Node} (method : String) (before after : List Node)
      (receiver : Option Node) (place : Option Location) (edit : RowEdit argument edited) :
    RowEdit (.call ⟨method, before ++ argument :: after, receiver, place⟩)
      (.call ⟨method, before ++ edited :: after, receiver, place⟩)
  | inCall {invocation edited : Call Node} (body : Option Node) (place : Option Location)
      (edit : RowEdit (.call invocation) (.call edited)) :
    RowEdit (.block invocation body place) (.block edited body place)
  | inBody {body edited : Node} (invocation : Call Node) (place : Option Location)
      (edit : RowEdit body edited) :
    RowEdit (.block invocation (some body) place) (.block invocation (some edited) place)
  | inRow {statement edited : Node} (before after : List Node) (place : Option Location)
      (edit : RowEdit statement edited) :
    RowEdit (.sequence (before ++ statement :: after) place)
      (.sequence (before ++ edited :: after) place)
  | inOther {child edited : Node} (kind : String) (before after : List Node)
      (text : Option String) (place : Option Location) (edit : RowEdit child edited) :
    RowEdit (.other kind (before ++ child :: after) text place)
      (.other kind (before ++ edited :: after) text place)

/-! ### Edited trees are similar -/

theorem landmark_passes : landmark.PassesRows := fun _ _ => rfl

/-- **Grouped statements are as good as before.** -/
theorem Grouped.similarStatements {row grouped : Node} (edit : Grouped row grouped) :
    SimilarStatements landmark row grouped := by
  have passes := landmark_passes
  induction edit with
  | here before inner after place location =>
    refine ⟨⟨?_, fun around start => ?_⟩, fun start => ?_⟩
    · simp only [passes.weight_row, total_append, total_cons, Nat.add_assoc]
    · simp only [passes.sketch_row, Node.forestSketch_append, Node.forestSketch_cons,
        passes.weight_row, List.append_assoc, Nat.add_assoc]
    · simp only [passes.made_row, Node.forestMade_append, Node.forestMade, passes.weight_row,
        List.append_assoc, Nat.add_assoc]
  | inside before after place edit ih =>
    refine similarStatements_row ⟨rfl, fun _ => rfl⟩ ?_
    exact List.rel_append (Similar.statements (Similar.forall₂_refl before))
      (.cons ih (Similar.statements (Similar.forall₂_refl after)))

/-- What an edit does not change of a node. -/
structure Kept (first second : Node) : Prop where
  label : first.label = second.label
  groupReceiver : isGroupReceiver (some first) = isGroupReceiver (some second)
  similar : Similar landmark first second
  calls : ∀ invocation edited, first = .call invocation → second = .call edited →
    SimilarCalls landmark invocation edited

theorem forall₂_similar_among {node edited : Node} (before after : List Node)
    (similar : Similar landmark node edited) :
    List.Forall₂ (Similar landmark) (before ++ node :: after) (before ++ edited :: after) :=
  List.rel_append (Similar.forall₂_refl before) (.cons similar (Similar.forall₂_refl after))

theorem Kept.of_calls {invocation edited : Call Node}
    (label : (Node.call invocation).label = (Node.call edited).label)
    (calls : SimilarCalls landmark invocation edited) : Kept (.call invocation) (.call edited) where
  label := label
  groupReceiver := rfl
  similar := calls.similar
  calls _ _ | rfl, rfl => calls

theorem isTopLevel_label (node : Node) : node.label.isTopLevel = node.isTopLevel := by
  cases node <;> rfl

/-- Whether constants stand at the top level depends on the labels of the nodes they stand in. -/
theorem standsAtTop_among {child edited : Node} (before after : List Node)
    (label : child.label = edited.label) :
    standsAtTop (before ++ child :: after) = standsAtTop (before ++ edited :: after) := by
  match before, after with
  | [], [] =>
    show child.isTopLevel = edited.isTopLevel
    rw [← isTopLevel_label, label, isTopLevel_label]
  | [], _ :: _ => rfl
  | [_], _ => rfl
  | _ :: _ :: _, _ => rfl

/-- **An edit keeps everything that a check looks at.** -/
theorem RowEdit.kept {first second : Node} (edit : RowEdit first second) : Kept first second := by
  have all : ∀ nodes, List.Forall₂ (Similar landmark) nodes nodes := Similar.forall₂_refl
  have refl : ∀ invocation : Call Node, SimilarCalls landmark invocation invocation :=
    fun invocation => ⟨⟨rfl, fun _ => rfl⟩, rfl, all _, rfl, all _⟩
  induction edit with
  | grouped invocation place edit =>
    refine ⟨rfl, rfl, ?_, nofun⟩
    exact (refl invocation).similar_block ⟨rfl, fun _ => rfl⟩ (.cons edit.similarStatements .nil)
  | body invocation body place location =>
    refine ⟨rfl, rfl, ?_, nofun⟩
    exact (refl invocation).similar_block ⟨rfl, fun _ => rfl⟩
      (.cons (landmark_passes.similar_wrapped body location).toSimilarStatements .nil)
  | name method name rest receiver place location =>
    exact .of_calls rfl ⟨⟨rfl, fun _ => rfl⟩, rfl, all _, rfl,
      .cons (landmark_passes.similar_wrapped name location) (all rest)⟩
  | inReceiver method arguments place edit ih =>
    exact .of_calls rfl ⟨⟨rfl, fun _ => rfl⟩, rfl, .cons ih.similar .nil, ih.groupReceiver, all _⟩
  | inArgument method before after receiver place edit ih =>
    exact .of_calls rfl ⟨⟨rfl, fun _ => rfl⟩, rfl, all _, rfl,
      forall₂_similar_among before after ih.similar⟩
  | @inCall invocation edited body place edit ih =>
    have calls := ih.calls _ _ rfl rfl
    have label : (Node.block invocation body place).label = (Node.block edited body place).label := by
      rw [Node.label, Node.label, Node.call.inj ih.label]
    refine ⟨label, rfl, ?_, nofun⟩
    exact calls.similar_block ⟨rfl, fun before => congrArg (Prod.mk before) label⟩
      (Similar.statements (all _))
  | inBody invocation place edit ih =>
    refine ⟨rfl, rfl, ?_, nofun⟩
    exact (refl invocation).similar_block ⟨rfl, fun _ => rfl⟩
      (.cons ih.similar.toSimilarStatements .nil)
  | inRow before after place edit ih =>
    refine ⟨rfl, rfl, ?_, nofun⟩
    exact similar_row ⟨rfl, fun _ => rfl⟩ (forall₂_similar_among before after ih.similar)
  | inOther kind before after text place edit ih =>
    refine ⟨rfl, ?_, ?_, nofun⟩
    · rw [isGroupReceiver_other, isGroupReceiver_other, standsAtTop_among before after ih.label]
    · exact similar_other ⟨rfl, fun _ => rfl⟩
        (.of_similar (forall₂_similar_among before after ih.similar))

/-! ### Edits and landmarks -/

theorem kind_label (node : Node) : node.label.kind = node.kind := by
  cases node <;> rfl

/-- The landmarks of a tree are its root, if that is no row, and those of its children. -/
theorem landmarks_eq (node : Node) :
    node.landmarks =
      (if node.label.kind = .sequence then [] else [node.label]) ++
        node.children.flatMap Node.landmarks := by
  have counted : landmark.counts node = !decide (node.label.kind = .sequence) := by
    rw [kind_label]
    exact decide_not
  unfold Node.landmarks
  rw [Node.preorder_eq, List.filter_cons, counted, List.filter_flatMap]
  split <;> simp_all [List.map_flatMap]

theorem landmarks_row (statements : List Node) (place : Option Location) :
    (Node.sequence statements place).landmarks = statements.flatMap Node.landmarks :=
  landmarks_eq _

theorem landmarks_congr {first second : Node} (label : first.label = second.label)
    (children : first.children.flatMap Node.landmarks = second.children.flatMap Node.landmarks) :
    first.landmarks = second.landmarks := by
  rw [landmarks_eq, landmarks_eq, label, children]

theorem Grouped.landmarks {row grouped : Node} (edit : Grouped row grouped) :
    row.landmarks = grouped.landmarks := by
  induction edit with
  | here before inner after place location =>
    simp only [landmarks_row, List.flatMap_append, List.flatMap_cons, List.append_assoc]
  | inside before after place edit ih =>
    simp only [landmarks_row, List.flatMap_append, List.flatMap_cons, ih]

/-- **An edit neither adds nor removes nor moves a node that is no row.** -/
theorem RowEdit.landmarks {first second : Node} (edit : RowEdit first second) :
    first.landmarks = second.landmarks := by
  refine landmarks_congr edit.kept.label ?_
  induction edit with
  | grouped invocation place edit => simp [Node.children, edit.landmarks]
  | body invocation body place location => simp [Node.children, landmarks_row]
  | name method name rest receiver place location => simp [Node.children, landmarks_row]
  | inReceiver method arguments place edit ih =>
    simp [Node.children, landmarks_congr edit.kept.label ih]
  | inArgument method before after receiver place edit ih =>
    simp [Node.children, landmarks_congr edit.kept.label ih]
  | inCall body place edit ih => simp [Node.children, landmarks_congr edit.kept.label ih]
  | inBody invocation place edit ih => simp [Node.children, landmarks_congr edit.kept.label ih]
  | inRow before after place edit ih => simp [Node.children, landmarks_congr edit.kept.label ih]
  | inOther kind before after text place edit ih =>
    simp [Node.children, landmarks_congr edit.kept.label ih]

/-- **Edits of rows make no difference:** the landmarks stay the same, and so do the number of groups
and the offenses, or the failure, at corresponding landmarks. -/
theorem account_eq_of_edits {tree edited : Node} (edits : Relation.EqvGen RowEdit tree edited)
    (file : String) :
    tree.landmarks = edited.landmarks ∧
      account landmark tree file = account landmark edited file := by
  induction edits with
  | rel tree edited edit =>
    refine ⟨edit.landmarks, ?_⟩
    rw [account_eq_settle, account_eq_settle, edit.kept.similar.sketch]
  | refl tree => exact ⟨rfl, rfl⟩
  | symm tree edited _ ih => exact ⟨ih.1.symm, ih.2.symm⟩
  | trans tree middle edited _ _ first second =>
    exact ⟨first.1.trans second.1, first.2.trans second.2⟩

/-- A declaration whose name stands in a row. -/
def letOfRow (name : String) : Node :=
  .call { method := "let", arguments := [.sequence [.symbol name none] none] }

/-- A group inside another, whose body and name stand bare. -/
def bareRows : Node :=
  contextOf [letOf "a", .block { method := "context" } (some (letOf "a")) none]

/-- The same groups, the inner body and name in rows, and the inner group in a row with an empty
one. -/
def addedRows : Node :=
  contextOf [letOf "a", .sequence [.sequence [] none, contextOf [letOfRow "a"]] none]

/-- Four edits lead from the one to the other, and the inner declaration overrides in both. -/
theorem account_eq_of_edits_addedRows :
    Relation.EqvGen RowEdit bareRows addedRows ∧
      bareRows.landmarks = addedRows.landmarks ∧
      account landmark addedRows "a_spec.rb" = .ok (2, [((6, (letOf "a").label), "a")]) := by
  let context : Call Node := { method := "context" }
  have name : RowEdit bareRows
      (contextOf [letOf "a", .block context (some (letOfRow "a")) none]) :=
    .inBody context none (.inRow [letOf "a"] [] none (.inBody context none
      (.name "let" (.symbol "a" none) [] none none none)))
  have body : RowEdit (contextOf [letOf "a", .block context (some (letOfRow "a")) none])
      (contextOf [letOf "a", contextOf [letOfRow "a"]]) :=
    .inBody context none (.inRow [letOf "a"] [] none (.body context (letOfRow "a") none none))
  have empty : RowEdit (contextOf [letOf "a", contextOf [letOfRow "a"]])
      (contextOf [letOf "a", .sequence [] none, contextOf [letOfRow "a"]]) :=
    .grouped context none (.here [letOf "a"] [] [contextOf [letOfRow "a"]] none none)
  have both : RowEdit (contextOf [letOf "a", .sequence [] none, contextOf [letOfRow "a"]])
      addedRows :=
    .grouped context none
      (.here [letOf "a"] [.sequence [] none, contextOf [letOfRow "a"]] [] none none)
  have edits : Relation.EqvGen RowEdit bareRows addedRows :=
    ((.rel _ _ name : Relation.EqvGen RowEdit _ _).trans _ _ _ (.rel _ _ body)).trans _ _ _
      ((.rel _ _ empty : Relation.EqvGen RowEdit _ _).trans _ _ _ (.rel _ _ both))
  obtain ⟨landmarks, same⟩ := account_eq_of_edits edits "a_spec.rb"
  exact ⟨edits, landmarks, same.symm.trans rfl⟩

end LetShadow
