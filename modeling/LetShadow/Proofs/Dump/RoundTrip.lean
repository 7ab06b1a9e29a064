/-
**Trees as dumps.**

A tree is dumped by giving each of its nodes a form. A dump has no places, and of a node of another
kind it can only say what is read back from it. Trees of which a dump can say everything are
expressible.

* `Node.dump` — **the dump of a tree.** A block's parameters are dumped as an empty list.
* `Node.isExpressible` — the trees that a dump can express.
* `givesBack` — the form of a node that can be dumped makes the node of its children.
* `isExpressible_of_convert` — **what a form becomes is expressible.**
* `loadValue_roundTrip` — **an expressible tree is loaded from its dump, and every loaded tree is
  one,** so that nothing is lost where a loaded tree is dumped and loaded again.
-/

import LetShadow.Proofs.Dump.Grammar
import LetShadow.Proofs.Source.Reading
import LetShadow.Source.Analysis

namespace LetShadow

open Json (Value)
open Conversion (convert convertAll convertAll_nil convertAll_cons_eq_ok of_convertAll_cons
  length_of_convertAll)

/-! ### Expressible trees -/

namespace Dump

/-- The kinds with a shape of their own, and those of a row. -/
def keywords : List String :=
  callKinds ++ blockKinds ++ sequenceKinds ++ valueKinds ++ ["const"]

/-- Can a dump express a node of another kind with these children and this text? A constant has a
name and at most a scope. A block that is not interpreted begins with something else than a call. -/
def expressesOther (kind : String) (children : List Node) (text : Option String) : Bool :=
  if kind = "const" then text.isSome ∧ children.length ≤ 1
  else if kind ∈ blockKinds then
    text.isNone ∧ children.length ≤ 2 ∧ (children.head?.any fun first => first.kind ≠ .call)
  else text.isNone ∧ kind ∉ keywords

/-- The form of a node of another kind, from its children as values. -/
def otherForm (kind : String) (children : List Value) (text : Option String) : Form :=
  if kind = "const" then ⟨kind, [children.head?.getD .null, textOf (text.getD "")]⟩
  else if kind ∈ blockKinds then
    ⟨kind, [children.head?.getD .null, (⟨"args", []⟩ : Form).value, children[1]?.getD .null]⟩
  else ⟨kind, children⟩

end Dump

open Dump (Form form? forms textOf planner blockKinds keywords)

namespace Node

/-- Can a dump express the node, whatever its children are like? -/
def hasForm : Node → Bool
  | .other kind children text location =>
    location = none ∧ Dump.expressesOther kind children text
  | node => node.location = none

/-- Can a dump express the whole tree? -/
def isExpressible (tree : Node) : Bool :=
  tree.preorder.all hasForm

/-- A tree is expressible if its root has a form and its children are expressible. -/
theorem isExpressible_iff {tree : Node} : tree.isExpressible = true ↔
    tree.hasForm = true ∧ ∀ child ∈ tree.children, child.isExpressible = true := by
  rw [isExpressible, preorder_eq, List.all_cons, Bool.and_eq_true, List.all_flatMap,
    List.all_eq_true]
  rfl

/-! ### The dump of a tree -/

mutual

/-- The form of a node. -/
def form : Node → Form
  | .call invocation => callForm invocation
  | .block invocation none _ =>
    ⟨"block", [(callForm invocation).value, (⟨"args", []⟩ : Form).value, .null]⟩
  | .block invocation (some body) _ =>
    ⟨"block", [(callForm invocation).value, (⟨"args", []⟩ : Form).value, body.form.value]⟩
  | .sequence statements _ => ⟨"begin", values statements⟩
  | .symbol value _ => ⟨"sym", [textOf value]⟩
  | .string value _ => ⟨"str", [textOf value]⟩
  | .localVariable name _ => ⟨"lvar", [textOf name]⟩
  | .other kind children text _ => Dump.otherForm kind (values children) text

/-- The form of a call. -/
def callForm : Call Node → Form
  | ⟨method, arguments, none, _⟩ => ⟨"send", .null :: textOf method :: values arguments⟩
  | ⟨method, arguments, some receiver, _⟩ =>
    ⟨"send", receiver.form.value :: textOf method :: values arguments⟩

/-- Nodes as values. -/
def values : List Node → List Value
  | [] => []
  | node :: rest => node.form.value :: values rest

end

/-- The dump of a tree. -/
def dump (tree : Node) : Value :=
  tree.form.value

theorem values_eq (nodes : List Node) : values nodes = (nodes.map form).map Form.value := by
  induction nodes with
  | nil => rfl
  | cons node rest ih => rw [values, ih, List.map_cons, List.map_cons]

@[simp]
theorem forms_values (nodes : List Node) : forms (values nodes) = nodes.map form := by
  rw [values_eq, Dump.forms_map_value]

end Node

/-! ### Loading what was dumped -/

namespace Dump

/-- The form of a node is made of the node's children. -/
def GivesBack (node : Node) : Prop :=
  ∃ build, node.form.Makes build ∧ node.form.pieces = node.children.map Node.form ∧
    build node.children = node

theorem ofKind_other {kind : String} (noKeyword : kind ∉ keywords) :
    kind ∉ sequenceKinds ∧ Shape.ofKind kind = .other := by
  simp only [keywords, List.mem_append, List.mem_singleton, not_or] at noKeyword
  obtain ⟨⟨⟨⟨noCall, noBlock⟩, noRow⟩, noValue⟩, noConstant⟩ := noKeyword
  refine ⟨noRow, ?_⟩
  rw [Shape.ofKind, if_neg noCall, if_neg noBlock, if_neg noValue, if_neg noConstant]

theorem givesBack_call (method : String) (arguments : List Node) (receiver : Option Node) :
    GivesBack (.call ⟨method, arguments, receiver, none⟩) := by
  have isCall : "send" ∈ callKinds := by decide
  cases receiver with
  | none =>
    refine ⟨_, .bareCall isCall rfl, ?_, ?_⟩
    · exact (pieces_call isCall _ _ _).trans (Node.forms_values arguments)
    · rw [shown_textOf]
      rfl
  | some receiver =>
    refine ⟨_, .receivedCall isCall (form?_value receiver.form), ?_, ?_⟩
    · refine (pieces_call isCall _ _ _).trans ?_
      rw [forms_value_cons, Node.forms_values]
      rfl
    · rw [shown_textOf]
      rfl

theorem givesBack_block (invocation : Call Node) (body : Option Node) :
    GivesBack (.block invocation body none) := by
  have isBlock : "block" ∈ blockKinds := by decide
  have found := form?_value (Node.callForm invocation)
  cases body with
  | none =>
    refine ⟨_, .block isBlock found, (pieces_block isBlock _ _ _).trans ?_, rfl⟩
    rw [forms_value_cons]
    rfl
  | some body =>
    refine ⟨_, .block isBlock found, (pieces_block isBlock _ _ _).trans ?_, rfl⟩
    rw [forms_value_cons, forms_value_cons]
    rfl

/-- A block that does not begin with a call is not interpreted. -/
theorem blockOf_of_noCall (kind : String) {first : Node} (noCall : first.kind ≠ .call)
    (rest : List Node) : blockOf kind (first :: rest) = .other kind (first :: rest) none none := by
  cases first with
  | call invocation => exact absurd rfl noCall
  | _ => rfl

theorem givesBack_other {kind : String} {children : List Node} {text : Option String}
    (expressed : expressesOther kind children text = true) :
    GivesBack (.other kind children text none) := by
  unfold expressesOther at expressed
  split_ifs at expressed with isConstant isBlock
  · subst isConstant
    obtain ⟨named, few⟩ := of_decide_eq_true expressed
    obtain ⟨name, rfl⟩ := Option.isSome_iff_exists.mp named
    match children, few with
    | [], _ =>
      refine ⟨_, .constant, rfl, ?_⟩
      rw [shown_textOf]
      rfl
    | [scope], _ =>
      refine ⟨_, .constant, forms_value_cons scope.form [], ?_⟩
      rw [shown_textOf]
      rfl
  · obtain ⟨noText, few, begins⟩ := of_decide_eq_true expressed
    obtain rfl := Option.isNone_iff_eq_none.mp noText
    have isForm (values : List Value) : otherForm kind values none =
        ⟨kind, [values.head?.getD .null, (⟨"args", []⟩ : Form).value, values[1]?.getD .null]⟩ := by
      rw [otherForm, if_neg isConstant, if_pos isBlock]
    rw [GivesBack, Node.form, isForm]
    -- The first child stands for the call, and the second, if there is one, for the body.
    match children, few, begins with
    | [first], _, begins =>
      have noCall : first.kind ≠ .call := by simpa using begins
      refine ⟨_, .block isBlock (form?_value first.form), (pieces_block isBlock _ _ _).trans ?_,
        blockOf_of_noCall kind noCall []⟩
      exact forms_value_cons first.form [.null]
    | [first, second], _, begins =>
      have noCall : first.kind ≠ .call := by simpa using begins
      refine ⟨_, .block isBlock (form?_value first.form), (pieces_block isBlock _ _ _).trans ?_,
        blockOf_of_noCall kind noCall [second]⟩
      exact Node.forms_values [first, second]
  · obtain ⟨noText, noKeyword⟩ := of_decide_eq_true expressed
    obtain rfl := Option.isNone_iff_eq_none.mp noText
    obtain ⟨noRow, isOther⟩ := ofKind_other noKeyword
    rw [GivesBack, Node.form, otherForm, if_neg isConstant, if_neg isBlock]
    have pieces := (pieces_other isOther _).trans (Node.forms_values children)
    exact ⟨_, .other noRow isOther, pieces, rfl⟩

theorem givesBack_value {kind : String} (isValue : kind ∈ valueKinds) (node : String → Node)
    (text : String) (isForm : (node text).form = ⟨kind, [textOf text]⟩)
    (makes : ∀ value : Value, Form.Makes ⟨kind, [value]⟩ fun _ => node value.shown)
    (childless : (node text).children = []) : GivesBack (node text) := by
  refine ⟨fun _ => node text, ?_, ?_, rfl⟩
  · rw [isForm]
    have made := makes (textOf text)
    rwa [shown_textOf] at made
  · rw [isForm, childless]
    exact pieces_value isValue _

/-- **The form of a node that a dump can express makes the node of its children.** -/
theorem givesBack {node : Node} (hasForm : node.hasForm = true) : GivesBack node := by
  cases node with
  | other kind children text location =>
    obtain ⟨rfl, expressed⟩ := of_decide_eq_true hasForm
    exact givesBack_other expressed
  | call invocation =>
    obtain ⟨method, arguments, receiver, location⟩ := invocation
    obtain rfl := of_decide_eq_true hasForm
    exact givesBack_call method arguments receiver
  | block invocation body location =>
    obtain rfl := of_decide_eq_true hasForm
    exact givesBack_block invocation body
  | sequence statements location =>
    obtain rfl := of_decide_eq_true hasForm
    have pieces := (pieces_other (by decide : Shape.ofKind "begin" = .other) _).trans
      (Node.forms_values statements)
    exact ⟨_, .row (by decide), pieces, rfl⟩
  | symbol value location =>
    obtain rfl := of_decide_eq_true hasForm
    exact givesBack_value (by decide) (.symbol · none) _ rfl (fun _ => .symbol) rfl
  | string value location =>
    obtain rfl := of_decide_eq_true hasForm
    exact givesBack_value (by decide) (.string · none) _ rfl (fun _ => .string) rfl
  | localVariable name location =>
    obtain rfl := of_decide_eq_true hasForm
    exact givesBack_value (by decide) (.localVariable · none) _ rfl (fun _ => .localVariable) rfl

theorem convertAll_map_form {nodes : List Node}
    (each : ∀ node ∈ nodes, convert planner node.form () = .ok (node, ())) :
    convertAll planner (nodes.map Node.form) () = .ok (nodes, ()) := by
  induction nodes with
  | nil => exact convertAll_nil ()
  | cons node rest ih =>
    obtain ⟨here, later⟩ := List.forall_mem_cons.mp each
    exact convertAll_cons_eq_ok here (ih later)

/-- **An expressible tree comes back from its form.** -/
theorem convert_form {tree : Node} (expressible : tree.isExpressible = true) :
    convert planner tree.form () = .ok (tree, ()) := by
  induction tree using Node.children_induction with
  | step tree ih =>
    obtain ⟨hasForm, below⟩ := Node.isExpressible_iff.mp expressible
    obtain ⟨build, makes, pieces, back⟩ := givesBack hasForm
    refine convert_eq_ok_iff.mpr ⟨build, tree.children, makes, ?_, back.symm⟩
    rw [pieces]
    exact convertAll_map_form fun child mem => ih child mem (below child mem)

/-! ### What loaded trees are like -/

/-- A block that is put together is a block with its body, or is not interpreted. -/
theorem isExpressible_blockOf {kind : String} (isBlock : kind ∈ blockKinds) {first : Node}
    {rest : List Node} (few : rest.length ≤ 1)
    (each : ∀ node ∈ first :: rest, node.isExpressible = true) :
    (blockOf kind (first :: rest)).isExpressible = true := by
  rw [Node.isExpressible_iff]
  by_cases isCall : first.kind = .call
  · cases first with
    | call invocation =>
      refine ⟨rfl, fun child mem => each child ?_⟩
      cases rest with
      | nil => exact mem
      | cons body others =>
        rcases List.mem_cons.mp mem with rfl | inBody
        · exact List.mem_cons_self
        · exact List.mem_cons_of_mem _ (List.mem_singleton.mp inBody ▸ List.mem_cons_self)
    | _ => cases isCall
  · have noConstant : kind ≠ "const" := by
      rintro rfl
      revert isBlock
      decide
    rw [blockOf_of_noCall kind isCall]
    refine ⟨decide_eq_true ⟨rfl, ?_⟩, each⟩
    rw [expressesOther, if_neg noConstant, if_pos isBlock]
    exact decide_eq_true ⟨rfl, Nat.succ_le_succ few, decide_eq_true isCall⟩

/-- **What a form makes of expressible nodes is expressible.** -/
theorem isExpressible_of_makes {form : Form} {build : List Node → Node} {nodes : List Node}
    (makes : form.Makes build) (count : nodes.length = form.pieces.length)
    (each : ∀ node ∈ nodes, node.isExpressible = true) : (build nodes).isExpressible = true := by
  cases makes with
  | bareCall | row => exact Node.isExpressible_iff.mpr ⟨rfl, each⟩
  | receivedCall =>
    refine Node.isExpressible_iff.mpr ⟨rfl, fun child mem => each child ?_⟩
    cases nodes with
    | nil => cases mem
    | cons receiver arguments => exact mem
  | @block kind call parameters body form isBlock found =>
    -- The call is among the pieces, the body may be.
    rw [pieces_block isBlock, forms, List.filterMap_cons, found] at count
    cases nodes with
    | nil => cases count
    | cons first rest =>
      have few : (List.filterMap form? [body]).length ≤ 1 := List.length_filterMap_le _ _
      exact isExpressible_blockOf isBlock (Nat.succ.inj count ▸ few) each
  | symbol | string | localVariable =>
    exact Node.isExpressible_iff.mpr ⟨rfl, fun _ mem => absurd mem List.not_mem_nil⟩
  | @constant scope name =>
    have few : nodes.length ≤ 1 := by
      rw [count]
      exact List.length_filterMap_le _ [scope]
    exact Node.isExpressible_iff.mpr ⟨decide_eq_true ⟨rfl, decide_eq_true ⟨rfl, few⟩⟩, each⟩
  | @other kind elements noRow isOther =>
    obtain ⟨noCall, noBlock, noValue, noConstant⟩ := isOf_of_shape isOther
    have noKeyword : kind ∉ keywords := by
      simp only [keywords, List.mem_append, List.mem_singleton, not_or]
      exact ⟨⟨⟨⟨noCall, noBlock⟩, noRow⟩, noValue⟩, noConstant⟩
    refine Node.isExpressible_iff.mpr ⟨decide_eq_true ⟨rfl, ?_⟩, each⟩
    rw [expressesOther, if_neg noConstant, if_neg noBlock]
    exact decide_eq_true ⟨rfl, noKeyword⟩

theorem isExpressible_of_convertAll {sources : List Form} {nodes : List Node}
    (each : ∀ source ∈ sources, ∀ node, convert planner source () = .ok (node, ()) →
      node.isExpressible = true)
    (converts : convertAll planner sources () = .ok (nodes, ())) :
    ∀ node ∈ nodes, node.isExpressible = true := by
  induction sources generalizing nodes with
  | nil =>
    rw [convertAll_nil] at converts
    cases converts
    exact nofun
  | cons source rest ih =>
    obtain ⟨node, _, others, here, below, rfl⟩ := of_convertAll_cons converts
    obtain ⟨ofSource, ofRest⟩ := List.forall_mem_cons.mp each
    exact List.forall_mem_cons.mpr ⟨ofSource node here, ih ofRest below⟩

/-- **What a form becomes is expressible.** -/
theorem isExpressible_of_convert {form : Form} {node : Node}
    (converts : convert planner form () = .ok (node, ())) : node.isExpressible = true := by
  obtain ⟨build, nodes, makes, below, rfl⟩ := convert_eq_ok_iff.mp converts
  have pieces : ∀ piece ∈ form.pieces, ∀ node, convert planner piece () = .ok (node, ()) →
      node.isExpressible = true := by
    intro piece mem node ofPiece
    have := Form.size_lt_of_mem_pieces mem
    exact isExpressible_of_convert ofPiece
  exact isExpressible_of_makes makes (length_of_convertAll below)
    (isExpressible_of_convertAll pieces below)
termination_by form.size

end Dump

/-! ### The round trip -/

theorem loadValue_dump {tree : Node} (expressible : tree.isExpressible = true) :
    loadValue tree.dump = .ok tree :=
  loadValue_value (Dump.convert_form expressible)

theorem isExpressible_of_loadValue {value : Value} {tree : Node}
    (loads : loadValue value = .ok tree) : tree.isExpressible = true := by
  by_cases isNull : value = .null
  · subst isNull
    cases loads
    decide
  cases found : form? value with
  | none =>
    rw [loadValue_of_none isNull found] at loads
    cases loads
  | some form =>
    rw [loadValue_of_form found, mapError_eq_ok_iff, Dump.tree_eq, map_eq_ok_iff] at loads
    obtain ⟨_, converts, rfl⟩ := loads
    exact Dump.isExpressible_of_convert converts

/-- **A tree is loaded from its dump exactly if it is expressible, and each loaded tree is.** So a
loaded tree that is dumped is loaded again, with the same result. -/
theorem loadValue_roundTrip :
    (∀ tree : Node, loadValue tree.dump = .ok tree ↔ tree.isExpressible = true) ∧
    ∀ value tree, loadValue value = .ok tree →
      tree.isExpressible = true ∧ loadValue tree.dump = loadValue value ∧
        ∀ file, resultOf file ((loadValue tree.dump).mapError .refused) =
          resultOf file ((loadValue value).mapError .refused) := by
  constructor
  · exact fun tree => ⟨isExpressible_of_loadValue, loadValue_dump⟩
  · intro value tree loads
    have expressible := isExpressible_of_loadValue loads
    have again : loadValue tree.dump = loadValue value := by rw [loadValue_dump expressible, loads]
    exact ⟨expressible, again, fun file => by rw [again]⟩

/-- A lambda with a numbered parameter. -/
def lambdaForm : Form :=
  ⟨"numblock", [(⟨"lambda", []⟩ : Form).value, .integer 1, .null]⟩

/-- A call on `RSpec`. -/
def contextForm : Form :=
  ⟨"send", [(⟨"const", [.null, textOf "RSpec"]⟩ : Form).value, textOf "context"]⟩

/-- The lambda and the call between `begin` and `end`. -/
def lambdaDump : Value :=
  (⟨"kwbegin", [lambdaForm.value, contextForm.value]⟩ : Form).value

/-- The tree of `lambdaDump`. -/
def lambdaTree : Node :=
  .sequence
    [ .other "numblock" [.other "lambda" [] none none] none none,
      .call { method := "context", receiver := some (.other "const" [] (some "RSpec") none) } ]
    none

theorem convert_lambdaForm : convert planner lambdaForm () =
    .ok (.other "numblock" [.other "lambda" [] none none] none none, ()) := by
  have isBlock : "numblock" ∈ blockKinds := by decide
  have lambda : convert planner ⟨"lambda", []⟩ () = .ok (.other "lambda" [] none none, ()) :=
    Dump.convert_of_makes (.other (by decide) (by decide)) (convertAll_nil ())
  have pieces : lambdaForm.pieces = [⟨"lambda", []⟩] :=
    (Dump.pieces_block isBlock _ _ _).trans (Dump.forms_value_cons _ _)
  show _ = Except.ok (Dump.blockOf "numblock" [.other "lambda" [] none none], ())
  exact Dump.convert_of_makes (.block isBlock (Dump.form?_value ⟨"lambda", []⟩))
    (pieces ▸ Dump.convertAll_single lambda)

theorem convert_contextForm : convert planner contextForm () =
    .ok (.call
      { method := "context", receiver := some (.other "const" [] (some "RSpec") none) }, ()) := by
  have constant : convert planner ⟨"const", [.null, textOf "RSpec"]⟩ () = _ :=
    Dump.convert_constant "RSpec" (convertAll_nil ())
  exact Dump.convert_receivedCall "context" constant (convertAll_nil ())

theorem loadValue_lambdaDump : loadValue lambdaDump = .ok lambdaTree := by
  refine loadValue_value (Dump.convert_row true ?_)
  rw [Dump.forms_value_cons, Dump.forms_value_cons]
  exact convertAll_cons_eq_ok convert_lambdaForm (Dump.convertAll_single convert_contextForm)

theorem loadValue_roundTrip_lambda :
    lambdaTree.isExpressible = true ∧ loadValue lambdaDump = .ok lambdaTree ∧
      loadValue lambdaTree.dump = .ok lambdaTree ∧
        ∀ file, resultOf file ((loadValue lambdaTree.dump).mapError .refused) =
          resultOf file ((loadValue lambdaDump).mapError .refused) := by
  have loads := loadValue_lambdaDump
  have again := (loadValue_roundTrip.1 lambdaTree).mpr (by decide)
  obtain ⟨expressible, -, results⟩ := loadValue_roundTrip.2 lambdaDump lambdaTree loads
  exact ⟨expressible, loads, again, results⟩

end LetShadow
