/-
**The shapes of forms.**

A form has a shape by its kind. The shape says how many elements there have to be, and gives each of
them a role: a part is converted if it is a node, an optional part stands for nothing if it is none,
a name is carried as a text, and what is left is not read.

* `Shape.role` — **the table of roles.**
* `Form.pieces` — the nodes that a conversion goes on to from a form, in the order of the elements.
* `Form.isWellShaped` and `Form.defect` — what a shape asks for, and what is reported of a form that
  is ill shaped.
* `Form.Makes` — what a well-shaped form of each kind makes of its converted pieces.
* `plan_of_makes`, `plan_of_ill_shaped` — **a form has a plan exactly if it is well shaped,** and
  the plan asks for the pieces.
-/

import LetShadow.Proofs.Conversion.Outcome
import LetShadow.Dump.Tree

namespace LetShadow.Dump

open Json (Value)
open Conversion (convert convertAll AsksFor)

/-! ### Roles -/

/-- What an element is to its form. -/
inductive Role where
  /-- A node is converted; anything else is passed over. -/
  | part
  /-- A node is converted; anything else stands for nothing. -/
  | optional
  /-- The form carries the element as a text. -/
  | name
  /-- The element is not looked at. -/
  | unread
deriving DecidableEq, Repr

/-- What forms of a kind look like. -/
inductive Shape where
  | call
  | block
  | value
  | constant
  | other
deriving DecidableEq, Repr

/-- The kinds of literals and of local variables. -/
def valueKinds : List String :=
  ["sym", "str", "lvar"]

/-- The shape of the forms of a kind. -/
def Shape.ofKind (kind : String) : Shape :=
  if kind ∈ callKinds then .call
  else if kind ∈ blockKinds then .block
  else if kind ∈ valueKinds then .value
  else if kind = "const" then .constant
  else .other

/-- The role of the element at a place: a call has a receiver, a method and arguments, a block has a
call, parameters and a body, a literal has a value, and a constant has a scope and a name. -/
def Shape.role : Shape → Nat → Role
  | .call, 0 => .optional
  | .call, 1 => .name
  | .call, _ => .part
  | .block, 0 => .part
  | .block, 2 => .optional
  | .block, _ => .unread
  | .value, 0 => .name
  | .value, _ => .unread
  | .constant, 0 => .optional
  | .constant, 1 => .name
  | .constant, _ => .unread
  | .other, _ => .part

/-- Elements from a place on, with their roles. -/
def Shape.slots (shape : Shape) (place : Nat) : List Value → List (Role × Value)
  | [] => []
  | element :: rest => (shape.role place, element) :: shape.slots (place + 1) rest

/-- The node that an element in a role is converted from, if any. -/
def Role.piece? : Role → Value → Option Form
  | .part, value => form? value
  | .optional, value => form? value
  | .name, _ => none
  | .unread, _ => none

namespace Form

/-- The shape of a form. -/
def shape (form : Form) : Shape :=
  .ofKind form.kind

/-- The elements of a form with their roles. -/
def slots (form : Form) : List (Role × Value) :=
  form.shape.slots 0 form.elements

/-- The nodes that a conversion goes on to from a form. -/
def pieces (form : Form) : List Form :=
  form.slots.filterMap fun slot => slot.1.piece? slot.2

/-- Is there what the shape of the form asks for? -/
def isWellShaped (form : Form) : Bool :=
  match form.shape with
  | .call => 2 ≤ form.elements.length
  | .block => form.elements.length = 3 ∧ (form.elements.head?.bind form?).isSome
  | .value => 1 ≤ form.elements.length
  | .constant => form.elements.length = 2
  | .other => true

/-- What is reported of a form that is ill shaped. -/
def defect (form : Form) : Defect :=
  let found := form.elements.length
  match form.shape with
  | .call => .tooFew 2 true found
  | .block => if found < 3 then .tooFew 3 false found
      else if 3 < found then .tooMany 3
      else .noCall form.kind
  | .value | .other => .noValue
  | .constant => if found < 2 then .tooFew 2 false found else .tooMany 2

/-- What a well-shaped form makes of its converted pieces. -/
inductive Makes : Form → (List Node → Node) → Prop
  | bareCall {kind : String} {receiver method : Value} {arguments : List Value}
      (isCall : kind ∈ callKinds) (bare : form? receiver = none) :
      Makes ⟨kind, receiver :: method :: arguments⟩ (bareCall method.shown)
  | receivedCall {kind : String} {receiver method : Value} {arguments : List Value} {form : Form}
      (isCall : kind ∈ callKinds) (received : form? receiver = some form) :
      Makes ⟨kind, receiver :: method :: arguments⟩ (receivedCall method.shown)
  | block {kind : String} {call parameters body : Value} {form : Form}
      (isBlock : kind ∈ blockKinds) (found : form? call = some form) :
      Makes ⟨kind, [call, parameters, body]⟩ (blockOf kind)
  | row {kind : String} {elements : List Value} (isRow : kind ∈ sequenceKinds) :
      Makes ⟨kind, elements⟩ fun parts => .sequence parts none
  | symbol {value : Value} {rest : List Value} :
      Makes ⟨"sym", value :: rest⟩ fun _ => .symbol value.shown none
  | string {value : Value} {rest : List Value} :
      Makes ⟨"str", value :: rest⟩ fun _ => .string value.shown none
  | localVariable {name : Value} {rest : List Value} :
      Makes ⟨"lvar", name :: rest⟩ fun _ => .localVariable name.shown none
  | constant {scope name : Value} :
      Makes ⟨"const", [scope, name]⟩ fun parts => .other "const" parts (some name.shown) none
  | other {kind : String} {elements : List Value} (isRow : kind ∉ sequenceKinds)
      (isOther : Shape.ofKind kind = .other) :
      Makes ⟨kind, elements⟩ fun parts => .other kind parts none none

end Form

/-! ### Shapes of kinds -/

theorem ofKind_call {kind : String} (isCall : kind ∈ callKinds) : Shape.ofKind kind = .call :=
  if_pos isCall

theorem ofKind_block {kind : String} (isBlock : kind ∈ blockKinds) :
    Shape.ofKind kind = .block := by
  revert kind
  decide

theorem ofKind_value {kind : String} (isValue : kind ∈ valueKinds) :
    Shape.ofKind kind = .value := by
  revert kind
  decide

theorem ofKind_row {kind : String} (isRow : kind ∈ sequenceKinds) : Shape.ofKind kind = .other := by
  revert kind
  decide

/-- The kinds of a shape. -/
def Shape.IsOf : Shape → String → Prop
  | .call, kind => kind ∈ callKinds
  | .block, kind => kind ∈ blockKinds
  | .value, kind => kind ∈ valueKinds
  | .constant, kind => kind = "const"
  | .other, kind => kind ∉ callKinds ∧ kind ∉ blockKinds ∧ kind ∉ valueKinds ∧ kind ≠ "const"

/-- A kind is one of its shape. -/
theorem isOf_ofKind (kind : String) : (Shape.ofKind kind).IsOf kind := by
  unfold Shape.ofKind
  split_ifs with isCall isBlock isValue isConstant
  · exact isCall
  · exact isBlock
  · exact isValue
  · exact isConstant
  · exact ⟨isCall, isBlock, isValue, isConstant⟩

theorem isOf_of_shape {kind : String} {shape : Shape} (isShape : Shape.ofKind kind = shape) :
    shape.IsOf kind :=
  isShape ▸ isOf_ofKind kind

/-! ### Plans of each shape -/

variable {form : Form}

theorem plan_call (isCall : form.kind ∈ callKinds) : plan form = callPlan form := by
  rw [plan, if_pos (List.contains_iff_mem.mpr isCall)]

theorem plan_block (isBlock : form.kind ∈ blockKinds) : plan form = blockPlan form := by
  have noCall : ∀ kind ∈ blockKinds, ¬ callKinds.contains kind = true := by decide
  rw [plan, if_neg (noCall _ isBlock), if_pos (List.contains_iff_mem.mpr isBlock)]

theorem plan_row (isRow : form.kind ∈ sequenceKinds) :
    plan form = .ok (partsPlan form form.elements (Nat.le_refl _) fun parts =>
      .sequence parts none) := by
  have others : ∀ kind ∈ sequenceKinds,
      ¬ callKinds.contains kind = true ∧ ¬ blockKinds.contains kind = true := by decide
  obtain ⟨noCall, noBlock⟩ := others _ isRow
  rw [plan, if_neg noCall, if_neg noBlock, if_pos (List.contains_iff_mem.mpr isRow)]

theorem plan_other (noRow : form.kind ∉ sequenceKinds) (isOther : form.shape = .other) :
    plan form = .ok (partsPlan form form.elements (Nat.le_refl _) fun parts =>
      .other form.kind parts none none) := by
  obtain ⟨noCall, noBlock, noValue, noConstant⟩ := isOf_of_shape isOther
  simp only [valueKinds, List.mem_cons, List.not_mem_nil, or_false, not_or] at noValue
  simp only [plan, List.contains_iff_mem, noCall, noBlock, noRow, noValue, noConstant, if_false]

theorem plan_constant (elements : List Value) :
    plan ⟨"const", elements⟩ = constantPlan ⟨"const", elements⟩ :=
  rfl

/-! ### Pieces -/

theorem pieces_of_parts {shape : Shape} {place : Nat}
    (parts : ∀ later, place ≤ later → shape.role later = .part) (elements : List Value) :
    ((shape.slots place elements).filterMap fun slot => slot.1.piece? slot.2) = forms elements := by
  induction elements generalizing place with
  | nil => rfl
  | cons element rest ih =>
    rw [Shape.slots, List.filterMap_cons, parts place (Nat.le_refl _), forms, List.filterMap_cons,
      ih fun later le => parts later (Nat.le_of_succ_le le)]
    rfl

theorem pieces_call {kind : String} (isCall : kind ∈ callKinds) (receiver method : Value)
    (arguments : List Value) :
    (⟨kind, receiver :: method :: arguments⟩ : Form).pieces = forms (receiver :: arguments) := by
  rw [Form.pieces, Form.slots, Form.shape, ofKind_call isCall]
  have parts : ∀ later, 2 ≤ later → Shape.call.role later = .part := by
    intro later le
    match later, le with
    | _ + 2, _ => rfl
  rw [forms, List.filterMap_cons, ← forms, ← pieces_of_parts parts arguments]
  rfl

theorem pieces_block {kind : String} (isBlock : kind ∈ blockKinds) (call parameters body : Value) :
    (⟨kind, [call, parameters, body]⟩ : Form).pieces = forms [call, body] := by
  rw [Form.pieces, Form.slots, Form.shape, ofKind_block isBlock]
  rfl

theorem pieces_other {kind : String} (isOther : Shape.ofKind kind = .other)
    (elements : List Value) : (⟨kind, elements⟩ : Form).pieces = forms elements := by
  rw [Form.pieces, Form.slots, Form.shape, isOther]
  exact pieces_of_parts (fun _ _ => rfl) elements

theorem pieces_value {kind : String} (isValue : kind ∈ valueKinds) (elements : List Value) :
    (⟨kind, elements⟩ : Form).pieces = [] := by
  have unread : ∀ place, (Shape.value.slots place elements).filterMap
      (fun slot => slot.1.piece? slot.2) = [] := by
    induction elements with
    | nil => exact fun _ => rfl
    | cons element rest ih =>
      intro place
      rw [Shape.slots, List.filterMap_cons, ih]
      cases place <;> rfl
  rw [Form.pieces, Form.slots, Form.shape, ofKind_value isValue]
  exact unread 0

/-! ### Forms with a plan -/

/-- **A form that makes something has a plan,** which asks for the pieces. -/
theorem plan_of_makes {build : List Node → Node} (makes : form.Makes build) :
    ∃ planned, plan form = .ok planned ∧ planned.parts = form.pieces ∧
      ∀ nodes, planned.assemble nodes = .ok (build nodes) := by
  cases makes with
  | @bareCall kind receiver method arguments isCall bare =>
    refine ⟨partsPlan _ arguments (by simp [Value.listSize]; omega) (bareCall method.shown), ?_, ?_,
      fun _ => rfl⟩
    · rw [plan_call isCall, callPlan]
      simp only [bare]
    · rw [pieces_call isCall, forms, List.filterMap_cons, bare]
      rfl
  | @receivedCall kind receiver method arguments _ isCall received =>
    refine ⟨partsPlan _ (receiver :: arguments) (by simp [Value.listSize])
      (receivedCall method.shown), ?_, (pieces_call isCall _ _ _).symm, fun _ => rfl⟩
    rw [plan_call isCall, callPlan]
    simp only [received]
  | @block kind call parameters body _ isBlock found =>
    refine ⟨partsPlan _ [call, body] (by simp [Value.listSize]) (blockOf kind), ?_,
      (pieces_block isBlock _ _ _).symm, fun _ => rfl⟩
    rw [plan_block isBlock, blockPlan]
    simp only [found]
  | row isRow =>
    exact ⟨_, plan_row isRow, (pieces_other (ofKind_row isRow) _).symm, fun _ => rfl⟩
  | symbol | string | localVariable =>
    exact ⟨_, rfl, (pieces_value (by decide) _).symm, fun _ => rfl⟩
  | constant => exact ⟨_, rfl, rfl, fun _ => rfl⟩
  | other noRow isOther =>
    exact ⟨_, plan_other noRow isOther, (pieces_other isOther _).symm, fun _ => rfl⟩

/-- **A well-shaped form makes something.** -/
theorem exists_makes (shaped : form.isWellShaped = true) : ∃ build, form.Makes build := by
  obtain ⟨kind, elements⟩ := form
  cases shape : Shape.ofKind kind with
  | call =>
    have isCall := isOf_of_shape shape
    rw [Form.isWellShaped, Form.shape, shape] at shaped
    match elements, of_decide_eq_true shaped with
    | receiver :: method :: arguments, _ =>
      cases received : form? receiver with
      | none => exact ⟨_, .bareCall isCall received⟩
      | some found => exact ⟨_, .receivedCall isCall received⟩
  | block =>
    have isBlock := isOf_of_shape shape
    rw [Form.isWellShaped, Form.shape, shape] at shaped
    match elements, of_decide_eq_true shaped with
    | [call, parameters, body], ⟨_, isNode⟩ =>
      obtain ⟨found, isForm⟩ := Option.isSome_iff_exists.mp isNode
      exact ⟨_, .block isBlock isForm⟩
  | value =>
    have isValue := isOf_of_shape shape
    rw [Form.isWellShaped, Form.shape, shape] at shaped
    match elements, of_decide_eq_true shaped with
    | element :: rest, _ =>
      simp only [Shape.IsOf, valueKinds, List.mem_cons, List.not_mem_nil, or_false] at isValue
      obtain rfl | rfl | rfl := isValue
      · exact ⟨_, .symbol⟩
      · exact ⟨_, .string⟩
      · exact ⟨_, .localVariable⟩
  | constant =>
    obtain rfl := isOf_of_shape shape
    rw [Form.isWellShaped, Form.shape, shape] at shaped
    match elements, of_decide_eq_true shaped with
    | [scope, name], _ => exact ⟨_, .constant⟩
  | other =>
    by_cases isRow : kind ∈ sequenceKinds
    · exact ⟨_, .row isRow⟩
    · exact ⟨_, .other isRow shape⟩

/-- **An ill-shaped form has no plan,** and its defect is reported. -/
theorem plan_of_ill_shaped (ill : form.isWellShaped = false) : plan form = .error form.defect := by
  obtain ⟨kind, elements⟩ := form
  cases shape : Shape.ofKind kind with
  | call =>
    rw [Form.isWellShaped, Form.shape, shape] at ill
    have isCall : (⟨kind, elements⟩ : Form).kind ∈ callKinds := isOf_of_shape shape
    rw [plan_call isCall, Form.defect, Form.shape, shape]
    match elements, of_decide_eq_false ill with
    | [], _ => rfl
    | [_], _ => rfl
    | _ :: _ :: _, few => simp at few
  | block =>
    rw [Form.isWellShaped, Form.shape, shape] at ill
    have isBlock : (⟨kind, elements⟩ : Form).kind ∈ blockKinds := isOf_of_shape shape
    rw [plan_block isBlock, Form.defect, Form.shape, shape]
    match elements, of_decide_eq_false ill with
    | [], _ => rfl
    | [_], _ => rfl
    | [_, _], _ => rfl
    | [call, _, _], noNode =>
      have noForm : form? call = none := by simpa using noNode
      rw [blockPlan]
      simp [noForm]
    | _ :: _ :: _ :: _ :: rest, _ =>
      have many : ¬ rest.length + 1 + 1 + 1 + 1 < 3 := by omega
      simp [blockPlan, many]
  | value =>
    have isValue := isOf_of_shape shape
    rw [Form.isWellShaped, Form.shape, shape] at ill
    rw [Form.defect, Form.shape, shape]
    match elements, of_decide_eq_false ill with
    | [], _ =>
      simp only [Shape.IsOf, valueKinds, List.mem_cons, List.not_mem_nil, or_false] at isValue
      obtain rfl | rfl | rfl := isValue <;> rfl
    | _ :: _, few => simp at few
  | constant =>
    obtain rfl := isOf_of_shape shape
    rw [Form.isWellShaped, Form.shape, shape] at ill
    match elements, of_decide_eq_false ill with
    | [], _ => rfl
    | [_], _ => rfl
    | [_, _], wrong => exact absurd rfl wrong
    | _ :: _ :: _ :: rest, _ =>
      have many : ¬ rest.length + 1 + 1 + 1 < 2 := by omega
      rw [plan_constant]
      simp [constantPlan, Form.defect, Form.shape, shape, many]
  | other =>
    rw [Form.isWellShaped, Form.shape, shape] at ill
    cases ill

/-! ### Conversions of forms -/

/-- **A form is converted exactly if it makes something of its converted pieces.** -/
theorem convert_eq_ok_iff {node : Node} :
    convert planner form () = .ok (node, ()) ↔
      ∃ build nodes, form.Makes build ∧ convertAll planner form.pieces () = .ok (nodes, ()) ∧
        node = build nodes := by
  constructor
  · intro converts
    obtain ⟨planned, state, nodes, plans, below, assembled⟩ := Conversion.of_convert converts
    obtain ⟨_, ofPlan, ⟨⟩⟩ := bind_eq_ok_iff.mp plans
    have shaped : form.isWellShaped = true := by
      by_contra ill
      cases ofPlan.symm.trans (plan_of_ill_shaped (Bool.eq_false_iff.mpr ill))
    obtain ⟨build, makes⟩ := exists_makes shaped
    obtain ⟨_, same, parts, assembles⟩ := plan_of_makes makes
    cases ofPlan.symm.trans same
    rw [parts] at below
    rw [assembles] at assembled
    exact ⟨build, nodes, makes, below, (Except.ok.inj assembled).symm⟩
  · rintro ⟨build, nodes, makes, below, rfl⟩
    obtain ⟨planned, plans, parts, assembles⟩ := plan_of_makes makes
    refine Conversion.convert_eq_ok ?_ (parts ▸ below) (assembles nodes)
    show (plan form >>= _) = _
    rw [plans]
    rfl

theorem convert_of_makes {build : List Node → Node} {nodes : List Node} (makes : form.Makes build)
    (below : convertAll planner form.pieces () = .ok (nodes, ())) :
    convert planner form () = .ok (build nodes, ()) :=
  convert_eq_ok_iff.mpr ⟨build, nodes, makes, below, rfl⟩

theorem tree_eq (form : Form) : tree form = (convert planner form ()).map Prod.fst := by
  rw [tree, Conversion.build_eq_convert]

end LetShadow.Dump
