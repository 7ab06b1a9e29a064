/-
**What stands in the slots of a dump.**

By its kind a form has slots for a node or `null`, and slots for a text. Reading a form does not
insist on that: what is no node stands for nothing, and what is no text for the text that it is
shown as.

* `Form.isWellTyped` — does every slot of a form hold what it is for?
* `mended` — a value with something that may stand there in every slot.
* `mended_eq_self_iff` — a value is mended already exactly if it is well typed.
* `tree_mended` — **a form becomes what the mended form becomes.**
* `loadValue_mended` — **a value with something wrong in a slot is read as another one,** in which
  nothing is wrong.
-/

import LetShadow.Proofs.Dump.Grammar
import LetShadow.Proofs.Source.Reading

namespace LetShadow

open Json (Value)

namespace Dump

open Conversion (convert PlansAlike convert_sameOutcome)

/-! ### Well-typed slots -/

/-- May the value stand in a slot of the role? -/
def Role.admits : Role → Value → Bool
  | .optional, .null => true
  | .optional, value => (form? value).isSome
  | .name, .text _ => true
  | .name, _ => false
  | .part, _ => true
  | .unread, _ => true

/-- Does every slot of the form hold what it is for? -/
def Form.isWellTyped (form : Form) : Bool :=
  form.slots.all fun slot => slot.1.admits slot.2

/-- Are all forms that are reached from the value well typed? -/
def IsWellTyped (value : Value) : Prop :=
  ∀ form, form? value = some form → ∀ reached ∈ form.reached, reached.isWellTyped = true

/-! ### Mending -/

/-- What is put into a slot of the role in place of an element; `below` is the element with its own
slots mended. -/
def Role.mend : Role → (element below : Value) → Value
  | .part, _, below => below
  | .optional, element, below => if (form? element).isSome then below else .null
  | .name, .text text, _ => .text text
  | .name, element, _ => textOf element.shown
  | .unread, element, _ => element

mutual

/-- A value with all slots mended that are reached from it. -/
def mended : Value → Value
  | .list (.text kind :: elements) =>
    .list (.text kind :: mendedFrom (.ofKind kind.toString) 0 elements)
  | value => value

/-- Elements from a place on, with all slots mended. -/
def mendedFrom (shape : Shape) (place : Nat) : List Value → List Value
  | [] => []
  | element :: rest =>
    (shape.role place).mend element (mended element) :: mendedFrom shape (place + 1) rest

end

/-- A form with all slots mended. -/
def Form.mended (form : Form) : Form :=
  ⟨form.kind, mendedFrom form.shape 0 form.elements⟩

/-- A node is a list that begins with its kind. -/
theorem exists_of_form? {value : Value} {form : Form} (isForm : form? value = some form) :
    ∃ kind elements, value = .list (.text kind :: elements) ∧ form = ⟨kind.toString, elements⟩ := by
  unfold form? at isForm
  split at isForm
  · cases isForm
    exact ⟨_, _, rfl, rfl⟩
  · cases isForm

theorem mended_of_none {value : Value} (noForm : form? value = none) : mended value = value := by
  unfold mended
  split
  · cases noForm
  · rfl

/-- The node that a mended value is. -/
@[simp]
theorem form?_mended (value : Value) : form? (mended value) = (form? value).map Form.mended := by
  cases found : form? value with
  | none =>
    rw [mended_of_none found, found]
    rfl
  | some form =>
    obtain ⟨kind, elements, rfl, rfl⟩ := exists_of_form? found
    rfl

theorem mended_of_form {value : Value} {form : Form} (isForm : form? value = some form)
    (same : form.mended = form) : mended value = value := by
  obtain ⟨kind, elements, rfl, rfl⟩ := exists_of_form? isForm
  rw [mended]
  exact congrArg (fun elements => Value.list (.text kind :: elements)) (congrArg Form.elements same)

/-! ### Slots of mended forms -/

@[simp]
theorem length_mendedFrom (shape : Shape) (place : Nat) (elements : List Value) :
    (mendedFrom shape place elements).length = elements.length := by
  induction elements generalizing place with
  | nil => rfl
  | cons element rest ih => rw [mendedFrom, List.length_cons, List.length_cons, ih]

/-- Mending elements mends what is in their slots. -/
theorem slots_mendedFrom (shape : Shape) (place : Nat) (elements : List Value) :
    shape.slots place (mendedFrom shape place elements) = (shape.slots place elements).map
      fun slot => (slot.1, slot.1.mend slot.2 (mended slot.2)) := by
  induction elements generalizing place with
  | nil => rfl
  | cons element rest ih => rw [mendedFrom, Shape.slots, Shape.slots, ih, List.map_cons]

theorem slots_mended (form : Form) : form.mended.slots =
    form.slots.map fun slot => (slot.1, slot.1.mend slot.2 (mended slot.2)) :=
  slots_mendedFrom form.shape 0 form.elements

theorem mendedFrom_eq_self {shape : Shape} {place : Nat} {elements : List Value}
    (each : ∀ slot ∈ shape.slots place elements, slot.1.mend slot.2 (mended slot.2) = slot.2) :
    mendedFrom shape place elements = elements := by
  induction elements generalizing place with
  | nil => rfl
  | cons element rest ih =>
    obtain ⟨here, later⟩ := List.forall_mem_cons.mp each
    rw [mendedFrom, ih later]
    exact congrArg (· :: rest) here

variable {role : Role} {element : Value}

theorem mend_optional_none (noForm : form? element = none) (below : Value) :
    Role.optional.mend element below = .null := by
  rw [Role.mend, noForm]
  rfl

theorem mend_optional_some {form : Form} (isForm : form? element = some form) (below : Value) :
    Role.optional.mend element below = below := by
  rw [Role.mend, isForm]
  rfl

/-- The piece in a mended slot is the mended piece. -/
theorem piece?_mend (role : Role) (element : Value) :
    role.piece? (role.mend element (mended element)) = (role.piece? element).map Form.mended := by
  cases role with
  | part => exact form?_mended element
  | optional =>
    cases found : form? element with
    | none =>
      rw [mend_optional_none found, Role.piece?, Role.piece?, found]
      rfl
    | some form =>
      rw [mend_optional_some found]
      exact form?_mended element
  | name | unread => rfl

theorem form?_mend (role : Role) {form : Form} (isPiece : role.piece? element = some form) :
    form? (role.mend element (mended element)) = some form.mended := by
  apply form?_of_piece?
  rw [piece?_mend, isPiece]
  rfl

theorem admits_of_form {form : Form} (isForm : form? element = some form) :
    Role.optional.admits element = true := by
  obtain ⟨kind, elements, rfl, rfl⟩ := exists_of_form? isForm
  rfl

/-- What is put into a slot may stand there. -/
theorem admits_mend (role : Role) (element : Value) :
    role.admits (role.mend element (mended element)) = true := by
  cases role with
  | part | unread => rfl
  | optional =>
    cases found : form? element with
    | none =>
      rw [mend_optional_none found]
      rfl
    | some form => exact admits_of_form (form?_mend .optional found)
  | name => cases element <;> rfl

/-- What may stand in a slot is left there, if nothing is changed below. -/
theorem mend_eq_self (admitted : role.admits element = true)
    (below : ∀ piece, role.piece? element = some piece → piece.mended = piece) :
    role.mend element (mended element) = element := by
  -- An element from which a piece is read is a node; any other is mended already.
  have mendedBelow (isPiece : role.piece? element = form? element) : mended element = element := by
    cases found : form? element with
    | none => exact mended_of_none found
    | some form => exact mended_of_form found (below form (isPiece.trans found))
  cases role with
  | part => exact mendedBelow rfl
  | optional =>
    cases found : form? element with
    | none =>
      rw [mend_optional_none found]
      cases element with
      | null => rfl
      | list elements =>
        rw [Role.admits, found] at admitted
        · cases admitted
        · exact nofun
      | _ => cases admitted
    | some form =>
      rw [mend_optional_some found]
      exact mendedBelow rfl
  | name =>
    cases element with
    | text text => rfl
    | _ => cases admitted
  | unread => rfl

/-- Mending does not change the text that a name is shown as. -/
theorem shown_mend_name (element below : Value) :
    (Role.name.mend element below).shown = element.shown := by
  cases element with
  | text text => rfl
  | _ => exact shown_textOf _

/-! ### Mended forms -/

theorem pieces_mended (form : Form) : form.mended.pieces = form.pieces.map Form.mended := by
  rw [Form.pieces, slots_mended, List.filterMap_map, Form.pieces, List.map_filterMap]
  exact congrArg (List.filterMap · form.slots) (funext fun slot => piece?_mend slot.1 slot.2)

theorem reached_mended (form : Form) : form.mended.reached = form.reached.map Form.mended := by
  rw [Form.reached_eq, pieces_mended, Form.reached_eq form, List.map_cons, List.flatMap_map,
    List.map_flatMap]
  refine congrArg (form.mended :: ·) (List.flatMap_congr fun piece mem => ?_)
  have := Form.size_lt_of_mem_pieces mem
  exact reached_mended piece
termination_by form.size

/-- **A mended form is well typed.** -/
theorem isWellTyped_mended (form : Form) : form.mended.isWellTyped = true := by
  rw [Form.isWellTyped, slots_mended, List.all_map, List.all_eq_true]
  exact fun slot _ => admits_mend slot.1 slot.2

/-- A form from which only well-typed forms are reached is mended already. -/
theorem Form.mended_eq_self {form : Form}
    (typed : ∀ reached ∈ form.reached, reached.isWellTyped = true) : form.mended = form := by
  have here := List.all_eq_true.mp (typed form form.self_mem_reached)
  have each : ∀ slot ∈ form.slots, slot.1.mend slot.2 (Dump.mended slot.2) = slot.2 := by
    intro slot mem
    refine mend_eq_self (here slot mem) fun piece isPiece => ?_
    have inPieces : piece ∈ form.pieces := List.mem_filterMap.mpr ⟨slot, mem, isPiece⟩
    have := Form.size_lt_of_mem_pieces inPieces
    refine Form.mended_eq_self fun reached below => typed reached ?_
    rw [Form.reached_eq]
    exact List.mem_cons_of_mem _ (List.mem_flatMap.mpr ⟨piece, inPieces, below⟩)
  exact congrArg (Form.mk form.kind) (mendedFrom_eq_self each)
termination_by form.size

/-- **A value is mended already exactly if it is well typed.** -/
theorem mended_eq_self_iff {value : Value} : mended value = value ↔ IsWellTyped value := by
  constructor
  · intro same form isForm reached mem
    have isMended : form.mended = form := by
      have found := form?_mended value
      rw [same, isForm] at found
      exact (Option.some.inj found).symm
    rw [← isMended, reached_mended] at mem
    obtain ⟨before, _, rfl⟩ := List.mem_map.mp mem
    exact isWellTyped_mended before
  · intro typed
    cases found : form? value with
    | none => exact mended_of_none found
    | some form => exact mended_of_form found (Form.mended_eq_self (typed form found))

theorem isWellTyped_of_mended (value : Value) : IsWellTyped (mended value) := by
  intro form isForm reached mem
  rw [form?_mended, Option.map_eq_some_iff] at isForm
  obtain ⟨before, _, rfl⟩ := isForm
  rw [reached_mended] at mem
  obtain ⟨inside, _, rfl⟩ := List.mem_map.mp mem
  exact isWellTyped_mended inside

/-! ### What mended forms become -/

namespace Form

@[simp]
theorem shape_mended (form : Form) : form.mended.shape = form.shape :=
  rfl

@[simp]
theorem length_elements_mended (form : Form) :
    form.mended.elements.length = form.elements.length :=
  length_mendedFrom form.shape 0 form.elements

/-- A block begins with a node before it is mended if it does so afterwards. -/
theorem isSome_call_mended {form : Form} (isBlock : form.shape = .block) :
    (form.mended.elements.head?.bind form?).isSome = (form.elements.head?.bind form?).isSome := by
  obtain ⟨kind, elements⟩ := form
  cases elements with
  | nil => rfl
  | cons call rest =>
    have first : (⟨kind, call :: rest⟩ : Form).mended.elements.head? =
        some (Dump.mended call) := by
      rw [Form.mended, isBlock]
      rfl
    rw [first, Option.bind_some, form?_mended, Option.isSome_map]
    rfl

theorem isWellShaped_mended (form : Form) : form.mended.isWellShaped = form.isWellShaped := by
  unfold isWellShaped
  rw [shape_mended]
  cases isBlock : form.shape with
  | block => rw [length_elements_mended, isSome_call_mended isBlock]
  | other => rfl
  | _ => rw [length_elements_mended]

theorem defect_mended (form : Form) : form.mended.defect = form.defect := by
  unfold defect
  rw [shape_mended, length_elements_mended]
  rfl

end Form

/-- **A mended form makes what the form makes.** -/
theorem makes_mended {form : Form} {build : List Node → Node} (makes : form.Makes build) :
    form.mended.Makes build := by
  cases makes with
  | @bareCall kind receiver method arguments isCall bare =>
    rw [Form.mended, Form.shape, ofKind_call isCall, ← shown_mend_name method (mended method)]
    refine .bareCall isCall ((piece?_mend .optional receiver).trans ?_)
    rw [Role.piece?, bare]
    rfl
  | @receivedCall kind receiver method arguments form isCall received =>
    rw [Form.mended, Form.shape, ofKind_call isCall, ← shown_mend_name method (mended method)]
    exact .receivedCall isCall (form?_mend .optional received)
  | @block kind call parameters body form isBlock found =>
    rw [Form.mended, Form.shape, ofKind_block isBlock]
    exact .block isBlock (form?_mend .part found)
  | row isRow => exact .row isRow
  | @symbol value rest =>
    rw [← shown_mend_name value (mended value)]
    exact .symbol
  | @string value rest =>
    rw [← shown_mend_name value (mended value)]
    exact .string
  | @localVariable name rest =>
    rw [← shown_mend_name name (mended name)]
    exact .localVariable
  | @constant scope name =>
    rw [← shown_mend_name name (mended name)]
    exact .constant
  | other isRow isOther => exact .other isRow isOther

/-- One form is the other with all slots mended. -/
def Mends (form mendedForm : Form) : Prop :=
  form.mended = mendedForm

/-- **The plans of a form and of the mended form are alike.** -/
theorem plansAlike_mended (form mendedForm : Form) (state state' : Unit)
    (isMended : Mends form mendedForm) :
    SameOutcome (fun plan plan' => PlansAlike Mends Eq plan.1 plan'.1)
      (planner form state) (planner mendedForm state') := by
  obtain rfl := isMended
  by_cases shaped : form.isWellShaped = true
  · obtain ⟨build, makes⟩ := exists_makes shaped
    obtain ⟨planned, plans, parts, assembles⟩ := plan_of_makes makes
    obtain ⟨planned', plans', parts', assembles'⟩ := plan_of_makes (makes_mended makes)
    show SameOutcome _ (plan form >>= _) (plan form.mended >>= _)
    rw [plans, plans']
    refine .ok ⟨?_, fun nodes nodes' same => ?_⟩
    · show List.Forall₂ _ planned.parts planned'.parts
      rw [parts, parts', pieces_mended, List.forall₂_map_right_iff]
      exact List.forall₂_same.mpr fun _ _ => rfl
    · rw [List.forall₂_eq_eq_eq] at same
      subst same
      rw [assembles, assembles']
      exact .ok rfl
  · have ill := Bool.eq_false_iff.mpr shaped
    show SameOutcome _ (plan form >>= _) (plan form.mended >>= _)
    rw [plan_of_ill_shaped ill, plan_of_ill_shaped (form.isWellShaped_mended.trans ill),
      Form.defect_mended]
    exact .error _

/-- **A form becomes what the mended form becomes.** -/
theorem tree_mended (form : Form) : tree form.mended = tree form := by
  rw [tree_eq, tree_eq]
  exact (convert_sameOutcome plansAlike_mended rfl () ()).map.eq.symm

end Dump

/-! ### What becomes of a value -/

open Dump (mended IsWellShaped IsWellTyped form? textOf)

/-- **A value with something wrong in a slot is read as another one,** in which nothing is wrong.
Nothing that stands in a slot keeps a value from being read: it is, exactly if it is `null` or all
forms reached from it are well shaped. -/
theorem loadValue_mended (value : Value) :
    loadValue (mended value) = loadValue value ∧ IsWellTyped (mended value) ∧
      (mended value = value ↔ IsWellTyped value) ∧
      ((∃ tree, loadValue value = .ok tree) ↔ value = .null ∨ IsWellShaped value) := by
  refine ⟨?_, Dump.isWellTyped_of_mended value, Dump.mended_eq_self_iff, loadValue_goes_iff value⟩
  cases found : form? value with
  | none => rw [Dump.mended_of_none found]
  | some form =>
    have isForm : form? (mended value) = some form.mended := by
      rw [Dump.form?_mended, found]
      rfl
    rw [loadValue_of_form isForm, loadValue_of_form found, Dump.tree_mended]

/-- A `let` whose receiver slot holds something. -/
def letOn (receiver : Value) : Dump.Form :=
  ⟨"send", [receiver, textOf "let", (⟨"sym", [textOf "a"]⟩ : Dump.Form).value]⟩

/-- A symbol with something as its value. -/
def symbolOf (payload : Value) : Dump.Form :=
  ⟨"sym", [payload]⟩

theorem not_isWellTyped {form : Dump.Form} (wrong : form.isWellTyped = false) :
    ¬ IsWellTyped form.value := by
  intro typed
  cases wrong.symm.trans (typed form (Dump.form?_value form) form form.self_mem_reached)

theorem loadValue_symbolOf (payload : Value) :
    loadValue (symbolOf payload).value = .ok (.symbol payload.shown none) :=
  loadValue_value (Dump.convert_of_makes .symbol (Conversion.convertAll_nil ()))

/-- A `let` on something that is no node is one without a receiver. -/
theorem loadValue_letOn {receiver : Value} (noForm : form? receiver = none) :
    loadValue (letOn receiver).value =
      .ok (.call { method := "let", arguments := [.symbol "a" none] }) := by
  have isCall : "send" ∈ Dump.callKinds := by decide
  have name := Dump.convert_literal true "a"
  have pieces : (letOn receiver).pieces = [⟨"sym", [textOf "a"]⟩] := by
    refine (Dump.pieces_call isCall _ _ _).trans ?_
    rw [Dump.forms, List.filterMap_cons, noForm]
    exact Dump.forms_value_cons _ []
  have converts : Conversion.convert Dump.planner (letOn receiver) () = _ :=
    Dump.convert_of_makes (.bareCall isCall noForm) (pieces ▸ Dump.convertAll_single name)
  rw [Dump.shown_textOf] at converts
  exact loadValue_value converts

/-- A `let` with a number as its receiver is read as one without a receiver, and a number as the
value of a symbol as the text of its digits. Neither is refused. -/
theorem loads_not_isWellTyped :
    (¬ IsWellTyped (letOn (.integer 5)).value ∧
      loadValue (letOn (.integer 5)).value =
        .ok (.call { method := "let", arguments := [.symbol "a" none] })) ∧
    ¬ IsWellTyped (symbolOf (.integer 1)).value ∧ Value.integer 1 ≠ textOf "1" ∧
      loadValue (symbolOf (.integer 1)).value = loadValue (symbolOf (textOf "1")).value := by
  refine ⟨⟨?_, ?_⟩, ?_, ?_, ?_⟩
  · exact not_isWellTyped (by decide)
  · exact loadValue_letOn rfl
  · exact not_isWellTyped (by decide)
  · intro same
    cases same
  · rw [loadValue_symbolOf, loadValue_symbolOf]
    rfl

end LetShadow
