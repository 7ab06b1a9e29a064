/-
**Work lists.**

Nested items can be gone through without recursion, however deep they are nested. A list holds what is
still to come; the first item is taken from it, and what is inside of that is put in front of the rest.

* `Nesting` — items with smaller items inside.
* `Nesting.drain` — **goes through a work list** with an action for each item.
* `drain_eq_forM` — **a work list does what a recursion does** that acts on an item and goes on to what is
  inside of it, from left to right. The actions may keep state and may fail, in any monad.
-/

import LetShadow.Total

namespace LetShadow

/-- Items with items inside, which are together smaller. -/
structure Nesting (Item : Type) where
  inside : Item → List Item
  size : Item → Nat
  smaller : ∀ item, total size (inside item) < size item

namespace Nesting

variable {Item : Type} (nesting : Nesting Item)

/-- Taking an item for what is inside of it makes a work list smaller. -/
theorem total_step_lt (item : Item) (rest : List Item) :
    total nesting.size (nesting.inside item ++ rest) < total nesting.size (item :: rest) := by
  rw [total_append, total_cons]
  exact Nat.add_lt_add_right (nesting.smaller item) _

/-- What passes from a work list to the one that it was made from holds of all work lists. -/
theorem pending_induction {motive : List Item → Prop} (done : motive [])
    (step : ∀ item rest, motive (nesting.inside item ++ rest) → motive (item :: rest))
    (pending : List Item) : motive pending :=
  match pending with
  | [] => done
  | item :: rest => step item rest (pending_induction done step (nesting.inside item ++ rest))
termination_by total nesting.size pending
decreasing_by exact nesting.total_step_lt item rest

variable {m : Type → Type} [Monad m]

/-- Goes through a work list. -/
def drain (act : Item → m Unit) (pending : List Item) : m Unit :=
  match pending with
  | [] => pure ()
  | item :: rest => do
    act item
    drain act (nesting.inside item ++ rest)
termination_by total nesting.size pending
decreasing_by exact nesting.total_step_lt item rest

theorem drain_nil (act : Item → m Unit) : nesting.drain act [] = pure () := by
  rw [drain]

theorem drain_cons (act : Item → m Unit) (item : Item) (rest : List Item) :
    nesting.drain act (item :: rest) = (do
      act item
      nesting.drain act (nesting.inside item ++ rest)) := by
  rw [drain]

/-- **A work list does what a recursion does,** item by item. -/
theorem drain_eq_forM [LawfulMonad m] {act visit : Item → m Unit}
    (recursion : ∀ item, visit item = (do act item; forM (nesting.inside item) visit))
    (pending : List Item) : nesting.drain act pending = forM pending visit := by
  induction pending using nesting.pending_induction with
  | done => exact nesting.drain_nil act
  | step item rest ih =>
    rw [drain_cons, ih, List.forM_append, List.forM_cons, recursion item, bind_assoc]

end Nesting

end LetShadow
