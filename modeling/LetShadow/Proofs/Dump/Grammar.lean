/-
**The grammar of dumps.**

Which values are dumps is a matter of the forms that are reached from them. Parameters of blocks,
names and what a literal holds are never looked into, whatever they are.

* `Form.reached` — **the forms reached from a form,** in pre-order.
* `tree_goes_iff` — a form becomes a tree exactly if all forms reached from it are well shaped.
* `tree_eq_error_iff` — otherwise the defect of the first that is not is reported.
* `loadValue_outcome` — **what becomes of any value.** An empty file is written as `null`, and all
  else that is no form is refused by its type.
-/

import LetShadow.Proofs.Dump.Shape
import LetShadow.Source.Dump

namespace LetShadow

open Json (Value)

namespace Dump

/-! ### Forms that are reached -/

theorem mem_slots {shape : Shape} {place : Nat} {elements : List Value} {slot : Role × Value}
    (mem : slot ∈ shape.slots place elements) : slot.2 ∈ elements := by
  induction elements generalizing place with
  | nil => cases mem
  | cons element rest ih =>
    rcases List.mem_cons.mp mem with rfl | later
    · exact List.mem_cons_self
    · exact List.mem_cons_of_mem _ (ih later)

theorem form?_of_piece? {role : Role} {value : Value} {piece : Form}
    (isPiece : role.piece? value = some piece) : form? value = some piece := by
  cases role with
  | part | optional => exact isPiece
  | name | unread => cases isPiece

theorem size_le_listSize {value : Value} {values : List Value} (mem : value ∈ values) :
    value.size ≤ Value.listSize values := by
  induction values with
  | nil => cases mem
  | cons first rest ih =>
    rw [Value.listSize]
    rcases List.mem_cons.mp mem with rfl | later
    · exact Nat.le_add_right _ _
    · exact Nat.le_trans (ih later) (Nat.le_add_left _ _)

namespace Form

/-- A piece is smaller than its form. -/
theorem size_lt_of_mem_pieces {piece form : Form} (mem : piece ∈ form.pieces) :
    piece.size < form.size := by
  obtain ⟨slot, slotMem, isPiece⟩ := List.mem_filterMap.mp mem
  have inside := size_le_listSize (mem_slots slotMem)
  have smaller := size_lt_of_form? (form?_of_piece? isPiece)
  show piece.size < 1 + Value.listSize form.elements
  omega

/-- The forms reached from a form: itself, and those reached from its pieces. -/
def reached (form : Form) : List Form :=
  form :: form.pieces.attach.flatMap fun piece => piece.1.reached
termination_by form.size
decreasing_by exact size_lt_of_mem_pieces piece.2

theorem reached_eq (form : Form) : form.reached = form :: form.pieces.flatMap reached := by
  rw [reached, List.flatMap_subtype, List.unattach_attach]
  exact fun _ _ => rfl

theorem self_mem_reached (form : Form) : form ∈ form.reached := by
  rw [reached_eq]
  exact List.mem_cons_self

/-- The defect of a form, if it is ill shaped. -/
def defect? (form : Form) : Option Defect :=
  if form.isWellShaped then none else some form.defect

theorem defect?_eq_none_iff {form : Form} : form.defect? = none ↔ form.isWellShaped = true := by
  unfold defect?
  by_cases shaped : form.isWellShaped = true
  · rw [if_pos shaped]
    exact iff_of_true rfl shaped
  · rw [if_neg shaped]
    exact iff_of_false nofun shaped

theorem defect?_eq_some_iff {form : Form} {defect : Defect} :
    form.defect? = some defect ↔ form.isWellShaped = false ∧ defect = form.defect := by
  unfold defect?
  by_cases shaped : form.isWellShaped = true
  · rw [if_pos shaped, shaped]
    exact ⟨nofun, nofun⟩
  · rw [if_neg shaped, Option.some_inj, Bool.eq_false_iff.mpr shaped, and_iff_right rfl, eq_comm]

end Form

/-! ### What becomes of a form -/

theorem reportsDefects : Conversion.ReportsFaults planner Form.pieces Form.defect? where
  fails form state error fault := by
    obtain ⟨ill, rfl⟩ := Form.defect?_eq_some_iff.mp fault
    show (plan form >>= _) = _
    rw [plan_of_ill_shaped ill]
    rfl
  plans form state noFault := by
    obtain ⟨build, makes⟩ := exists_makes (Form.defect?_eq_none_iff.mp noFault)
    obtain ⟨planned, plans, parts, assembles⟩ := plan_of_makes makes
    refine ⟨planned, state, ?_, parts, fun nodes => ⟨build nodes, assembles nodes⟩⟩
    show (plan form >>= _) = _
    rw [plans]
    rfl

/-- **The first ill-shaped form that is reached is reported.** -/
theorem tree_eq_error_iff {form : Form} {defect : Defect} :
    tree form = .error defect ↔ ∃ before bad after, form.reached = before ++ bad :: after ∧
      (∀ earlier ∈ before, earlier.isWellShaped = true) ∧ bad.isWellShaped = false ∧
        defect = bad.defect := by
  rw [tree_eq, map_eq_error_iff,
    Conversion.convert_eq_error_iff Form.reached_eq reportsDefects form (),
    List.findSome?_eq_some_iff]
  simp only [Form.defect?_eq_none_iff, Form.defect?_eq_some_iff]
  constructor
  · rintro ⟨before, bad, after, order, ⟨ill, report⟩, shaped⟩
    exact ⟨before, bad, after, order, shaped, ill, report⟩
  · rintro ⟨before, bad, after, order, shaped, ill, report⟩
    exact ⟨before, bad, after, order, ⟨ill, report⟩, shaped⟩

/-- **A form becomes a tree exactly if all forms reached from it are well shaped.** -/
theorem tree_goes_iff {form : Form} :
    (∃ node, tree form = .ok node) ↔ ∀ reached ∈ form.reached, reached.isWellShaped = true := by
  constructor
  · rintro ⟨node, converts⟩ reached mem
    by_contra ill
    -- Of the ill-shaped forms there is a first one.
    have someDefect : form.reached.findSome? Form.defect? ≠ none := fun none =>
      ill (Form.defect?_eq_none_iff.mp (List.findSome?_eq_none_iff.mp none reached mem))
    obtain ⟨defect, found⟩ := Option.ne_none_iff_exists'.mp someDefect
    rw [← Conversion.convert_eq_error_iff Form.reached_eq reportsDefects form ()] at found
    rw [tree_eq, found] at converts
    cases converts
  · intro shaped
    cases outcome : tree form with
    | ok node => exact ⟨node, rfl⟩
    | error defect =>
      obtain ⟨before, bad, after, order, -, ill, -⟩ := tree_eq_error_iff.mp outcome
      have mem : bad ∈ form.reached := order ▸ List.mem_append_right _ List.mem_cons_self
      rw [shaped bad mem] at ill
      cases ill

/-- The value is a form from which only well-shaped forms are reached. -/
def IsWellShaped (value : Value) : Prop :=
  ∃ form, form? value = some form ∧ ∀ reached ∈ form.reached, reached.isWellShaped = true

end Dump

/-! ### What becomes of a value -/

open Dump (Form form? IsWellShaped)

theorem loadValue_of_form {value : Value} {form : Form} (isForm : form? value = some form) :
    loadValue value = (Dump.tree form).mapError .malformed := by
  cases value with
  | list elements =>
    rw [loadValue, isForm]
    exact nofun
  | _ => cases isForm

theorem loadValue_of_none {value : Value} (notNull : value ≠ .null) (noForm : form? value = none) :
    loadValue value = .error (.notAForm value.typeName) := by
  rw [loadValue, noForm]
  exact notNull

theorem loadValue_goes_iff (value : Value) :
    (∃ tree, loadValue value = .ok tree) ↔ value = .null ∨ IsWellShaped value := by
  by_cases isNull : value = .null
  · subst isNull
    exact iff_of_true ⟨_, rfl⟩ (.inl rfl)
  cases found : form? value with
  | none =>
    rw [loadValue_of_none isNull found]
    refine iff_of_false nofun ?_
    rintro (null | ⟨form, isForm, -⟩)
    · exact isNull null
    · cases found.symm.trans isForm
  | some form =>
    simp only [loadValue_of_form found, mapError_eq_ok_iff, isNull, false_or, IsWellShaped, found,
      Option.some_inj, exists_eq_left', Dump.tree_goes_iff]

theorem loadValue_eq_error_iff (value : Value) (error : LoadError) :
    loadValue value = .error error ↔
      (value ≠ .null ∧ form? value = none ∧ error = .notAForm value.typeName) ∨
      ∃ form before bad after, form? value = some form ∧ form.reached = before ++ bad :: after ∧
        (∀ earlier ∈ before, earlier.isWellShaped = true) ∧ bad.isWellShaped = false ∧
          error = .malformed bad.defect := by
  by_cases isNull : value = .null
  · subst isNull
    refine iff_of_false nofun ?_
    rintro (⟨notNull, -⟩ | ⟨_, _, _, _, ⟨⟩, _⟩)
    exact notNull rfl
  cases found : form? value with
  | none =>
    rw [loadValue_of_none isNull found]
    constructor
    · rintro ⟨⟩
      exact .inl ⟨isNull, rfl, rfl⟩
    · rintro (⟨-, -, rfl⟩ | ⟨_, _, _, _, ⟨⟩, _⟩)
      rfl
  | some form =>
    rw [loadValue_of_form found, mapError_eq_error_iff]
    constructor
    · rintro ⟨defect, fails, rfl⟩
      obtain ⟨before, bad, after, order, shaped, ill, rfl⟩ := Dump.tree_eq_error_iff.mp fails
      exact .inr ⟨form, before, bad, after, rfl, order, shaped, ill, rfl⟩
    · rintro (⟨-, ⟨⟩, -⟩ | ⟨_, before, bad, after, ⟨⟩, order, shaped, ill, rfl⟩)
      exact ⟨bad.defect, Dump.tree_eq_error_iff.mpr ⟨before, bad, after, order, shaped, ill, rfl⟩,
        rfl⟩

/-- **A value gives a tree exactly if it is `null`, or a form from which only well-shaped forms are
reached.** Of any other form the defect of the first ill-shaped form that is reached is reported,
and any other value is refused by its type. -/
theorem loadValue_outcome (value : Value) :
    ((∃ tree, loadValue value = .ok tree) ↔
      value = .null ∨ ∃ form, form? value = some form ∧
        ∀ reached ∈ form.reached, reached.isWellShaped = true) ∧
    ∀ error, loadValue value = .error error ↔
      (value ≠ .null ∧ form? value = none ∧ error = .notAForm value.typeName) ∨
      ∃ form before bad after, form? value = some form ∧ form.reached = before ++ bad :: after ∧
        (∀ earlier ∈ before, earlier.isWellShaped = true) ∧ bad.isWellShaped = false ∧
          error = .malformed bad.defect :=
  ⟨loadValue_goes_iff value, loadValue_eq_error_iff value⟩

end LetShadow
