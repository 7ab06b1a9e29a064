/-
**The forms of a dump.**

A dump writes each node as a JSON list whose first element is a text, the kind of the node. The
elements after it are nodes or plain values: method names, literal values, `null`.

* `Value.form?` — **the node that a value is,** if it is one.
* `Value.forms` — the nodes among some values; plain values are passed over.
* `Form.forms_size_le` — the nodes among the elements are together smaller than their parent.
-/

import LetShadow.Json.Value
import LetShadow.Total

namespace LetShadow.Dump

open LetShadow.Json

/-- A node of a dump: its kind and the elements after it. -/
structure Form where
  kind : String
  elements : List Value
deriving Repr

/-- The size of a form: one more than that of its elements. -/
def Form.size (form : Form) : Nat :=
  1 + Value.listSize form.elements

theorem Form.size_pos (form : Form) : 0 < form.size := by
  rw [Form.size]
  exact Nat.lt_of_lt_of_le Nat.zero_lt_one (Nat.le_add_right 1 _)

/-- The node that a value is, if it is one. -/
def form? : Value → Option Form
  | .list (.text kind :: elements) => some ⟨kind.toString, elements⟩
  | _ => none

/-- The nodes among some values. -/
def forms (values : List Value) : List Form :=
  values.filterMap form?

/-- A form is smaller than the value that it is read from. -/
theorem size_lt_of_form? {value : Value} {form : Form} (found : form? value = some form) :
    form.size < value.size := by
  unfold form? at found
  split at found
  · cases found
    simp [Form.size, Value.size, Value.listSize]
  · cases found

/-- The nodes among some values are together no larger than the values. -/
theorem forms_size_le (values : List Value) :
    total Form.size (forms values) ≤ Value.listSize values := by
  induction values with
  | nil => simp [forms]
  | cons value rest ih =>
    simp only [forms, Value.listSize] at ih ⊢
    cases found : form? value with
    | none => simp only [List.filterMap_cons, found]; omega
    | some form =>
      have := size_lt_of_form? found
      simp only [List.filterMap_cons, found, total_cons]; omega

end LetShadow.Dump
