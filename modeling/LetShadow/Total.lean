/-
**Totals.**

* `total` — what the items of a list come to together, under a measure of one item.
* `total_append` — lists side by side come to the sum of both.
-/

namespace LetShadow

/-- The total of a measure over a list. -/
def total {Item : Type} (measure : Item → Nat) : List Item → Nat
  | [] => 0
  | item :: rest => measure item + total measure rest

@[simp] theorem total_nil {Item : Type} (measure : Item → Nat) : total measure [] = 0 :=
  rfl

@[simp] theorem total_cons {Item : Type} (measure : Item → Nat) (item : Item) (rest : List Item) :
    total measure (item :: rest) = measure item + total measure rest :=
  rfl

theorem total_append {Item : Type} (measure : Item → Nat) (first second : List Item) :
    total measure (first ++ second) = total measure first + total measure second := by
  induction first with
  | nil => simp
  | cons item rest ih => rw [List.cons_append, total_cons, total_cons, ih, Nat.add_assoc]

/-- An item of a list comes to no more than the list. -/
theorem le_total_of_mem {Item : Type} (measure : Item → Nat) {item : Item} {list : List Item}
    (mem : item ∈ list) : measure item ≤ total measure list := by
  induction list with
  | nil => cases mem
  | cons first rest ih =>
    rw [total_cons]
    rcases List.mem_cons.mp mem with rfl | later
    · exact Nat.le_add_right _ _
    · exact Nat.le_trans (ih later) (Nat.le_add_left _ _)

end LetShadow
