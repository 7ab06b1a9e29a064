/-
**How either reader converts the pieces of a program.**

One lemma for each piece tells what it becomes when the pieces in it have been converted:

* `Dump.convert_call`, `Dump.convert_block`, … — **the forms of a dump.**
* `Ruby.convert_call`, `Ruby.convert_row`, … — **the nodes of a concrete tree.** Their statements and
  parts are the children but comments (`statements_eq_code`, `filter_isSkipped_eq_code`).
-/

import Mathlib.Data.List.Basic
import LetShadow.Dump.Tree
import LetShadow.Proofs.Conversion.Recursion
import LetShadow.Proofs.Source.Program
import LetShadow.Proofs.Traversal
import LetShadow.Ruby.Tree
import LetShadow.Source.Dump

namespace LetShadow

open Json (Value RawText)
open Ruby (Concrete Names)
open Conversion (convert convertAll convert_eq_ok convertAll_nil convertAll_cons_eq_ok
  convertAll_append_eq_ok of_convertAll_cons length_of_convertAll)

/-! ### Forms of dumps -/

theorem charOf_toNat (char : Char) : Text.charOf char.toNat = char := by
  have valid : char.toNat.isValidChar := char.valid
  rw [Text.charOf, if_pos valid, Char.ofNat_toNat]

@[simp]
theorem toString_ofString (text : String) : (RawText.ofString text).toString = text := by
  rw [RawText.toString, RawText.ofString, List.map_map]
  have same : Text.charOf ∘ Char.toNat = id := funext charOf_toNat
  rw [same, List.map_id, String.ofList_toList]

namespace Dump

@[simp]
theorem form?_value (form : Form) : form? form.value = some form := by
  rw [Form.value, textOf, form?, toString_ofString]

@[simp]
theorem forms_value_cons (form : Form) (rest : List Value) :
    forms (form.value :: rest) = form :: forms rest := by
  rw [forms, List.filterMap_cons, form?_value, forms]

@[simp]
theorem forms_append (first second : List Value) :
    forms (first ++ second) = forms first ++ forms second :=
  List.filterMap_append

@[simp]
theorem forms_map_value (statements : List Form) : forms (statements.map Form.value) = statements := by
  induction statements with
  | nil => rfl
  | cons form rest ih => rw [List.map_cons, forms_value_cons, ih]

@[simp]
theorem shown_textOf (text : String) : (textOf text).shown = text :=
  toString_ofString text

/-- **A form with a plan is converted by converting the parts.** -/
theorem convert_of_plan {form : Form} {planned : FormPlan form} {parts : List Node} {node : Node}
    (plans : plan form = .ok planned)
    (converts : convertAll planner planned.parts () = .ok (parts, ()))
    (assembles : planned.assemble parts = .ok node) :
    convert planner form () = .ok (node, ()) := by
  refine convert_eq_ok ?_ converts assembles
  show (plan form >>= _) = _
  rw [plans]
  rfl

/-! ### The forms of a dump -/

theorem convertAll_single {form : Form} {node : Node}
    (converts : convert planner form () = .ok (node, ())) :
    convertAll planner [form] () = .ok ([node], ()) :=
  convertAll_cons_eq_ok converts (convertAll_nil ())

theorem convert_leaf {form : Form} {node : Node} (plans : plan form = .ok (leafPlan form node)) :
    convert planner form () = .ok (node, ()) :=
  convert_of_plan plans (convertAll_nil ()) rfl

theorem convert_literal (isSymbol : Bool) (text : String) :
    convert planner ⟨if isSymbol then "sym" else "str", [textOf text]⟩ () =
      .ok (if isSymbol then .symbol text none else .string text none, ()) := by
  cases isSymbol with
  | true =>
    have plans : plan ⟨"sym", [textOf text]⟩ =
        .ok (leafPlan _ (.symbol (textOf text).shown none)) := rfl
    rw [shown_textOf] at plans
    exact convert_leaf plans
  | false =>
    have plans : plan ⟨"str", [textOf text]⟩ =
        .ok (leafPlan _ (.string (textOf text).shown none)) := rfl
    rw [shown_textOf] at plans
    exact convert_leaf plans

variable {elements : List Value} {parts : List Node}

theorem convert_bareCall (method : String)
    (converts : convertAll planner (forms elements) () = .ok (parts, ())) :
    convert planner ⟨"send", .null :: textOf method :: elements⟩ () =
      .ok (.call { method, arguments := parts }, ()) := by
  have plans : plan ⟨"send", .null :: textOf method :: elements⟩ =
      .ok (partsPlan _ elements _ (bareCall (textOf method).shown)) := rfl
  refine convert_of_plan plans converts ?_
  rw [shown_textOf]
  rfl

theorem convert_receivedCall (method : String) {receiver : Form} {node : Node}
    (ofReceiver : convert planner receiver () = .ok (node, ()))
    (converts : convertAll planner (forms elements) () = .ok (parts, ())) :
    convert planner ⟨"send", receiver.value :: textOf method :: elements⟩ () =
      .ok (.call { method, arguments := parts, receiver := some node }, ()) := by
  have plans : plan ⟨"send", receiver.value :: textOf method :: elements⟩ =
      .ok (partsPlan _ (receiver.value :: elements) _ (receivedCall (textOf method).shown)) := rfl
  refine convert_of_plan plans (?_ : convertAll planner _ () = .ok (node :: parts, ())) ?_
  · show convertAll planner (forms (receiver.value :: elements)) () = _
    rw [forms_value_cons]
    exact convertAll_cons_eq_ok ofReceiver converts
  · rw [shown_textOf]
    rfl

theorem convert_block {call : Form} {invocation : Call Node} (parameters : Value) {body : Value}
    (ofCall : convert planner call () = .ok (.call invocation, ()))
    (ofBody : convertAll planner (forms [body]) () = .ok (parts, ())) :
    convert planner ⟨"block", [call.value, parameters, body]⟩ () =
      .ok (.block invocation parts.head? none, ()) := by
  have plans : plan ⟨"block", [call.value, parameters, body]⟩ =
      .ok (partsPlan _ [call.value, body] _ (blockOf "block")) := rfl
  refine convert_of_plan plans
    (?_ : convertAll planner _ () = .ok (.call invocation :: parts, ())) rfl
  show convertAll planner (forms (call.value :: [body])) () = _
  rw [forms_value_cons]
  exact convertAll_cons_eq_ok ofCall ofBody

theorem convert_row (keyword : Bool)
    (converts : convertAll planner (forms elements) () = .ok (parts, ())) :
    convert planner ⟨if keyword then "kwbegin" else "begin", elements⟩ () =
      .ok (.sequence parts none, ()) := by
  cases keyword with
  | true => exact convert_of_plan (rfl : plan ⟨"kwbegin", elements⟩ = _) converts rfl
  | false => exact convert_of_plan (rfl : plan ⟨"begin", elements⟩ = _) converts rfl

theorem convert_other {kind : String} (plans : plan ⟨kind, elements⟩ =
      .ok (partsPlan _ elements (Nat.le_refl _) fun parts => .other kind parts none none))
    (converts : convertAll planner (forms elements) () = .ok (parts, ())) :
    convert planner ⟨kind, elements⟩ () = .ok (.other kind parts none none, ()) :=
  convert_of_plan plans converts rfl

theorem convert_constant (name : String) {scope : Value}
    (converts : convertAll planner (forms [scope]) () = .ok (parts, ())) :
    convert planner ⟨"const", [scope, textOf name]⟩ () =
      .ok (.other "const" parts (some name) none, ()) := by
  have plans : plan ⟨"const", [scope, textOf name]⟩ = .ok (partsPlan _ [scope] _ fun parts =>
      .other "const" parts (some (textOf name).shown) none) := rfl
  refine convert_of_plan plans converts ?_
  rw [shown_textOf]
  rfl

/-- What statements are together: nothing, the only one of them, or a row. -/
def joined : List Node → Option Node
  | [] => none
  | [statement] => some statement
  | statements => some (.sequence statements none)

/-- **Statements as one value** are converted by converting the statements. -/
theorem convert_bodyOf {statements : List Form}
    (converts : convertAll planner statements () = .ok (parts, ())) :
    convertAll planner (forms [bodyOf (statements.map Form.value)]) () =
      .ok ((joined parts).toList, ()) := by
  have count := length_of_convertAll converts
  match statements, parts with
  | [], [] => exact convertAll_nil ()
  | [statement], [node] =>
    show convertAll planner (forms [statement.value]) () = _
    rw [forms_value_cons]
    exact converts
  | first :: second :: rest, here :: next :: others =>
    show convertAll planner (forms [(⟨"begin", _⟩ : Form).value]) () = _
    rw [forms_value_cons]
    refine convertAll_single (convert_row false ?_)
    exact (forms_map_value (first :: second :: rest)).symm ▸ converts

theorem bodyOf_cons (first : Form) (rest : List Form) :
    ∃ form : Form, bodyOf ((first :: rest).map Form.value) = form.value := by
  cases rest with
  | nil => exact ⟨first, rfl⟩
  | cons second others => exact ⟨⟨"begin", (first :: second :: others).map Form.value⟩, rfl⟩

end Dump

theorem loadValue_value {form : Dump.Form} {node : Node}
    (converts : convert Dump.planner form () = .ok (node, ())) :
    loadValue form.value = .ok node := by
  have found := Dump.form?_value form
  rw [Dump.Form.value, Dump.textOf] at found ⊢
  -- The equation of `loadValue` asks for more: that a form is not `null`.
  rw [loadValue, found]
  · show (Dump.tree form).mapError _ = _
    rw [Dump.tree, Conversion.build_eq_convert, converts]
    rfl
  · exact nofun

/-- **A dump of statements gives what they are together.** -/
theorem loadValue_bodyOf {statements : List Dump.Form} {parts : List Node}
    (converts : convertAll Dump.planner statements () = .ok (parts, ())) :
    loadValue (Dump.bodyOf (statements.map Dump.Form.value)) =
      .ok ((Dump.joined parts).getD (.sequence [] none)) := by
  have body := Dump.convert_bodyOf converts
  cases statements with
  | nil =>
    -- An empty file is dumped as `null`, which is no form.
    rw [convertAll_nil] at converts
    cases converts
    rfl
  | cons first rest =>
    obtain ⟨form, whole⟩ := Dump.bodyOf_cons first rest
    rw [whole, Dump.forms_value_cons] at body
    obtain ⟨node, _, _, ofForm, others, same⟩ := of_convertAll_cons body
    cases others.symm.trans (convertAll_nil ())
    rw [whole, loadValue_value ofForm, Option.toList_eq_singleton_iff.mp same]
    rfl

/-! ### Statements and children of concrete trees -/

namespace Ruby

namespace Concrete

mutual

theorem statementOnto_append (node : Concrete) (rest : List Concrete) :
    statementOnto node rest = statementOnto node [] ++ rest := by
  obtain ⟨type, field, source, location, children⟩ := node
  rw [statementOnto, statementOnto]
  split
  · rfl
  · split
    · exact forestStatementsOnto_append children rest
    · rfl

theorem forestStatementsOnto_append (nodes rest : List Concrete) :
    forestStatementsOnto nodes rest = forestStatementsOnto nodes [] ++ rest := by
  match nodes with
  | [] => rfl
  | node :: others =>
    rw [forestStatementsOnto, forestStatementsOnto, statementOnto_append node,
      forestStatementsOnto_append others rest, statementOnto_append node (forestStatementsOnto _ _),
      List.append_assoc]

end

/-- The statements of a body are those that its children count for. -/
theorem statements_eq (node : Concrete) :
    node.statements = node.children.flatMap fun child => statementOnto child [] := by
  rw [statements]
  induction node.children with
  | nil => rfl
  | cons child rest ih =>
    rw [forestStatementsOnto, statementOnto_append, ih, List.flatMap_cons]

/-- A node that is read for itself: it is not passed over and does not stand for what is in it. -/
structure IsRead (node : Concrete) : Prop where
  kept : node.isSkipped = false
  single : node.isWrapper = false

theorem isSkipped_of_comment {node : Concrete} (comment : node.type = "comment") :
    node.isSkipped = true := by
  simp [isSkipped, skippedTypes, comment]

/-- Statements that stand directly in a node are its statements. -/
theorem statements_eq_code {node : Concrete} (read : ∀ child ∈ node.code, child.IsRead) :
    node.statements = node.code := by
  have own : ∀ child ∈ node.code, statementOnto child [] = [child] := by
    intro child mem
    rw [statementOnto_eq, (read child mem).kept, (read child mem).single]
    rfl
  have dropped : ∀ child : Concrete, decide (child.type ≠ "comment") = false →
      statementOnto child [] = [] := by
    intro child comment
    rw [statementOnto_eq, isSkipped_of_comment (by simpa using comment)]
    rfl
  rw [statements_eq, ← flatMap_filter_of_nil dropped]
  exact (List.flatMap_congr own).trans (List.flatMap_singleton' _)

/-- The children that are not passed over are those that are no comments, if these are read. -/
theorem filter_isSkipped_eq_code {node : Concrete} (read : ∀ child ∈ node.code, child.IsRead) :
    node.children.filter (fun child => !child.isSkipped) = node.code := by
  refine List.filter_congr fun child mem => ?_
  by_cases comment : child.type = "comment"
  · simp [comment, isSkipped_of_comment comment]
  · have among : child ∈ node.code := List.mem_filter.mpr ⟨mem, by simpa using comment⟩
    simp [comment, (read child among).kept]

theorem statements_eq_of_bodyNodes {block : Concrete} :
    block.statements = block.bodyNodes.flatMap fun child => statementOnto child [] := by
  -- What `bodyNodes` leaves out counts for no statement.
  have dropped : ∀ child : Concrete,
      decide (child.type ≠ "comment" ∧ child.type ≠ "block_parameters") = false →
        statementOnto child [] = [] := by
    intro child passed
    have skipped : child.isSkipped = true := by
      have either := not_and_or.mp (of_decide_eq_false passed)
      simp only [not_not] at either
      rcases either with type | type <;> simp [isSkipped, skippedTypes, type]
    rw [statementOnto_eq, skipped]
    rfl
  rw [statements_eq, ← flatMap_filter_of_nil dropped, bodyNodes]

theorem statements_eq_of_wrapper {block wrapper : Concrete} (body : block.bodyNodes = [wrapper])
    (type : wrapper.type = "block_body" ∨ wrapper.type = "body_statement")
    (read : ∀ child ∈ wrapper.code, child.IsRead) : block.statements = wrapper.code := by
  have wraps : wrapper.isSkipped = false ∧ wrapper.isWrapper = true := by
    rcases type with type | type <;>
      simp [isSkipped, skippedTypes, isWrapper, wrapperTypes, type]
  rw [statements_eq_of_bodyNodes, body, List.flatMap_singleton, statementOnto_eq, wraps.1, wraps.2,
    ← statements_eq_code read]
  rfl

end Concrete

/-- **A node with a plan is converted by converting the parts,** in sight of the names that it binds.
-/
theorem convert_of_plan {source : Concrete} {bound last : Names} {planned : RubyPlan source}
    {parts : List Node} {node : Node}
    (plans : plan source (boundBy source ++ bound) = .ok planned)
    (converts : convertAll planner planned.parts (boundBy source ++ bound) = .ok (parts, last))
    (assembles : planned.assemble parts = .ok node) :
    convert planner source bound = .ok (node, last) := by
  refine convert_eq_ok ?_ converts assembles
  show (plan source _ >>= _) = _
  rw [plans]
  rfl

/-! ### The nodes of a concrete tree -/

section Nodes

variable {node : Concrete} {bound last : Names} {parts : List Node}

theorem convert_leaf {leaf : Node}
    (plans : plan node (boundBy node ++ bound) = .ok (leafPlan node leaf)) :
    convert planner node bound = .ok (leaf, boundBy node ++ bound) :=
  convert_of_plan plans (convertAll_nil _) rfl

/-- A bare word, which reads a local variable if the name has been bound. -/
theorem convert_word (type : node.type = "identifier") :
    convert planner node bound =
      .ok (nameNode node (boundBy node ++ bound), boundBy node ++ bound) :=
  convert_leaf (by simp [plan, type, callTypes, sequenceTypes])

theorem convert_symbol {name : String} (type : node.type = "simple_symbol")
    (text : node.text = ":" ++ name) :
    convert planner node bound = .ok (.symbol name (some node.location), boundBy node ++ bound) := by
  have value : String.ofList (dropColon node.text.toList) = name := by
    rw [text, String.toList_append]
    exact String.ofList_toList
  refine convert_leaf ?_
  simp [plan, type, callTypes, sequenceTypes, value]

theorem convert_constant (type : node.type = "constant") :
    convert planner node bound =
      .ok (constantNode node node.text [], boundBy node ++ bound) :=
  convert_leaf (by simp [plan, type, callTypes, sequenceTypes, quotedTypes])

theorem convert_row (type : node.type ∈ sequenceTypes) (read : ∀ child ∈ node.code, child.IsRead)
    (converts : convertAll planner node.code (boundBy node ++ bound) = .ok (parts, last)) :
    convert planner node bound = .ok (.sequence parts (some node.location), last) := by
  have plans : plan node (boundBy node ++ bound) = .ok (sequencePlan node) := by
    simp only [sequenceTypes, List.mem_cons, List.not_mem_nil, or_false] at type
    rcases type with type | type | type <;> simp [plan, type, callTypes, sequenceTypes]
  refine convert_of_plan plans ?_ rfl
  show convertAll planner node.statements _ = _
  rw [Concrete.statements_eq_code read]
  exact converts

/-- The types of the nodes of a program that are not interpreted. -/
def plainTypes : List String :=
  ["string_content", "escape_sequence", "interpolation", "block_argument"]

theorem convert_other (type : node.type ∈ plainTypes) (read : ∀ child ∈ node.code, child.IsRead)
    (converts : convertAll planner node.code (boundBy node ++ bound) = .ok (parts, last)) :
    convert planner node bound = .ok (otherNode node parts, last) := by
  have plans : plan node (boundBy node ++ bound) =
      .ok (childrenPlan node (fun child => !child.isSkipped) (otherNode node)) := by
    simp only [plainTypes, List.mem_cons, List.not_mem_nil, or_false] at type
    rcases type with type | type | type | type <;>
      simp [plan, type, callTypes, sequenceTypes, quotedTypes]
  refine convert_of_plan plans ?_ rfl
  show convertAll planner (node.children.filter fun child => !child.isSkipped) _ = _
  rw [Concrete.filter_isSkipped_eq_code read]
  exact converts

theorem convert_scoped {name : String} {scope : Concrete} {outer : Node}
    (type : node.type = "scope_resolution") (named : node.HasTextAt "name" name)
    (atScope : node.childAt? "scope" = some scope)
    (converts : convertAll planner [scope] (boundBy node ++ bound) = .ok ([outer], last)) :
    convert planner node bound = .ok (constantNode node name [outer], last) := by
  obtain ⟨nameNode, found, rfl⟩ := named
  have plans : plan node (boundBy node ++ bound) = .ok (scopedConstantPlan node) := by
    simp [plan, type, callTypes, sequenceTypes, quotedTypes]
  have planParts : (scopedConstantPlan node).parts = [scope] := by
    unfold scopedConstantPlan
    split <;> simp_all
  refine convert_of_plan plans (planParts ▸ converts) ?_
  unfold scopedConstantPlan
  split <;> simp_all

theorem convert_topConstant {name : String} (type : node.type = "scope_resolution")
    (named : node.HasTextAt "name" name) (noScope : node.childAt? "scope" = none) :
    convert planner node bound =
      .ok (constantNode node name [topLevel node], boundBy node ++ bound) := by
  obtain ⟨nameNode, found, rfl⟩ := named
  refine convert_leaf ?_
  have plans : plan node (boundBy node ++ bound) = .ok (scopedConstantPlan node) := by
    simp [plan, type, callTypes, sequenceTypes, quotedTypes]
  rw [plans]
  unfold scopedConstantPlan
  split <;> simp_all

theorem filter_isComment (node : Concrete) :
    node.children.filter (fun child => !isComment child) = node.code := by
  refine List.filter_congr fun child _ => ?_
  rw [isComment, decide_not]
  rfl

theorem callArguments_eq (node : Concrete) : callArguments node = node.argumentNodes := by
  unfold callArguments Concrete.argumentNodes
  cases node.childAt? "arguments" with
  | none => rfl
  | some arguments => exact filter_isComment arguments

/-- The body that the statements of a block make. -/
def blockBody (block : Concrete) : List Node → Option Node
  | [] => none
  | statements => some (.sequence statements (some block.location))

/-- The node that a call becomes with the statements of its block, if it has one. -/
def callNode (node : Concrete) (invocation : Call Node) (statements : List Node) : Node :=
  match attachedBlock? node with
  | none => .call invocation
  | some block => .block invocation (blockBody block statements) (some node.location)

/-- The pieces of a call are told apart by their number. -/
theorem assembleCall_eq (method : String) {receiver : Option Node} {arguments : List Node}
    (receiverCount : receiver.toList.length = (node.childAt? "receiver").toList.length)
    (argumentCount : arguments.length = node.argumentNodes.length) (statements : List Node) :
    assembleCall node method (receiver.toList ++ (arguments ++ statements)) =
      callNode node { method, arguments, receiver, location := some node.location } statements := by
  have found : receiver.toList.head? = receiver := by cases receiver <;> rfl
  unfold assembleCall callNode
  rw [callArguments_eq, ← receiverCount, ← argumentCount]
  simp only [List.take_left, List.drop_left, found]
  cases statements <;> rfl

theorem plan_of_call (type : node.type ∈ callTypes) (bound : Names) :
    plan node bound = .ok (callPlan node) := by
  rw [plan, if_pos (by rwa [List.contains_iff_mem])]

theorem callPlan_eq {method : Concrete} (found : node.childAt? "method" = some method) :
    callPlan node =
      { parts := (node.childAt? "receiver").toList ++ callArguments node ++ blockStatements node
        assemble := fun pieces => .ok (assembleCall node method.text pieces)
        smaller := pieces_size_lt node } := by
  unfold callPlan
  rw [found]

/-- **A call,** from its receiver, its arguments and the statements of its block. -/
theorem convert_call {method : String} {receiver : Option Node} {arguments statements : List Node}
    {second third : Names} (type : node.type = "call") (named : node.HasTextAt "method" method)
    (ofReceiver : convertAll planner (node.childAt? "receiver").toList (boundBy node ++ bound) =
      .ok (receiver.toList, second))
    (ofArguments : convertAll planner node.argumentNodes second = .ok (arguments, third))
    (ofStatements : convertAll planner (blockStatements node) third = .ok (statements, last)) :
    convert planner node bound =
      .ok (callNode node { method, arguments, receiver, location := some node.location } statements,
        last) := by
  obtain ⟨methodNode, found, rfl⟩ := named
  have plans := plan_of_call (type ▸ List.mem_cons_self : node.type ∈ callTypes)
    (boundBy node ++ bound)
  have converts : convertAll planner
      ((node.childAt? "receiver").toList ++ callArguments node ++ blockStatements node)
      (boundBy node ++ bound) = .ok (receiver.toList ++ (arguments ++ statements), last) := by
    rw [callArguments_eq, List.append_assoc]
    exact convertAll_append_eq_ok ofReceiver (convertAll_append_eq_ok ofArguments ofStatements)
  rw [callPlan_eq found] at plans
  refine convert_of_plan plans converts (congrArg Except.ok ?_)
  exact assembleCall_eq _ (length_of_convertAll ofReceiver) (length_of_convertAll ofArguments) _

end Nodes

/-! ### Literals between quotes -/

theorem dropBackslashes_of_plain {text : List Char} (plain : '\\' ∉ text) :
    dropBackslashes text = text := by
  induction text using dropBackslashes.induct with
  | case1 | case2 => rfl
  | case3 first second rest escaped ih => exact absurd (escaped.1 ▸ List.mem_cons_self) plain
  | case4 first second rest single ih =>
    rw [dropBackslashes, if_neg single, ih fun mem => plain (List.mem_cons_of_mem _ mem)]

theorem mapM_partValue {contents : List Concrete}
    (types : ∀ part ∈ contents, part.type = "string_content") :
    contents.mapM partValue = .ok (contents.map fun part => part.text.toList) := by
  refine mapM_eq_ok_iff.mpr (List.forall₂_map_right_iff.mpr (List.forall₂_same.mpr ?_))
  intro part mem
  simp [partValue, types part mem]

/-- **A literal without escapes has its text as its value,** whatever its quotes are. -/
theorem literalValue_of_plain {text : String} {contents : List Concrete}
    (types : ∀ part ∈ contents, part.type = "string_content")
    (value : contents.flatMap (fun part => part.text.toList) = text.toList)
    (plain : '\\' ∉ text.toList) (singleQuoted : Bool) :
    literalValue singleQuoted contents = .ok text := by
  have dropped : contents.flatMap (fun part => dropBackslashes part.text.toList) = text.toList := by
    rw [← value]
    refine List.flatMap_congr fun part mem => dropBackslashes_of_plain fun backslash => plain ?_
    rw [← value]
    exact List.mem_flatMap.mpr ⟨part, mem, backslash⟩
  cases singleQuoted with
  | true =>
    show Except.ok (String.ofList _) = _
    rw [dropped, String.ofList_toList]
  | false =>
    show (contents.mapM partValue).map _ = _
    rw [mapM_partValue types]
    show Except.ok (String.ofList (contents.map _).flatten) = _
    rw [← List.flatMap_def, value, String.ofList_toList]

variable {node : Concrete} {bound last : Names} {parts : List Node} {isSymbol : Bool}

theorem plan_quoted (type : node.type = quotedType isSymbol) (bound : Names) :
    plan node bound = quotedPlan node := by
  cases isSymbol <;> simp [plan, type, quotedType, callTypes, sequenceTypes, quotedTypes]

theorem convert_quoted {text : String} (type : node.type = quotedType isSymbol)
    (types : ∀ part ∈ node.code, part.type = "string_content")
    (value : node.code.flatMap (fun part => part.text.toList) = text.toList)
    (plain : '\\' ∉ text.toList) :
    convert planner node bound =
      .ok (if isSymbol then .symbol text (some node.location) else .string text (some node.location),
        boundBy node ++ bound) := by
  have known : (node.code.all fun part => partTypes.contains part.type) = true := by
    refine List.all_eq_true.mpr fun part mem => ?_
    rw [types part mem]
    rfl
  have literal : literalNode node text =
      if isSymbol then .symbol text (some node.location) else .string text (some node.location) := by
    cases isSymbol <;> simp [literalNode, type, quotedType]
  refine convert_leaf ?_
  rw [plan_quoted type, quotedPlan, ← literal]
  simp only [filter_isComment, known, if_true]
  rw [literalValue_of_plain types value plain]
  rfl

theorem convert_interpolated (type : node.type = quotedType isSymbol) {inside : Concrete}
    (mem : inside ∈ node.code) (interpolation : inside.type = "interpolation")
    (converts : convertAll planner node.code (boundBy node ++ bound) = .ok (parts, last)) :
    convert planner node bound =
      .ok (.other (if isSymbol then "dsym" else "dstr") parts none (some node.location), last) := by
  have unknown : (node.code.all fun part => partTypes.contains part.type) = false := by
    refine List.all_eq_false.mpr ⟨inside, mem, ?_⟩
    rw [interpolation]
    decide
  have literal : interpolatedNode node parts =
      .other (if isSymbol then "dsym" else "dstr") parts none (some node.location) := by
    cases isSymbol <;> simp [interpolatedNode, type, quotedType]
  have plans : plan node (boundBy node ++ bound) =
      .ok (childrenPlan node (fun child => !isComment child) (interpolatedNode node)) := by
    rw [plan_quoted type, quotedPlan]
    simp only [filter_isComment, unknown]
    rfl
  refine convert_of_plan plans ?_ (congrArg Except.ok literal)
  show convertAll planner (node.children.filter _) _ = _
  rw [filter_isComment]
  exact converts

end Ruby

end LetShadow
