/-
**Converting trees from the leaves up.**

A source tree is converted by plans. The plan of a source node names the source nodes to convert
first, its parts, and tells how the converted parts are put together. Plans are made in pre-order,
so that the state which they may keep sees the source from its start; the parts are put together
when all of them are there.

* `Plan` — a plan; **its parts are together smaller than its source,** so that the conversion ends.
* `Conversion.run` — the machine: a stack of tasks and a stack of converted nodes. It needs no
  recursion however deep the source is.
* `Conversion.build` — **the conversion of one source node.**
-/

import LetShadow.Total

namespace LetShadow

/-- How to convert one source node, whose size bounds its parts. -/
structure Plan {Source : Type} (size : Source → Nat) (Target Error : Type) (source : Source) where
  parts : List Source
  assemble : List Target → Except Error Target
  smaller : total size parts < size source

namespace Conversion

variable {Source Target Error State : Type} {size : Source → Nat}

/-- A rule that plans every source node, in sight of the state that the plans before it have left.
-/
abbrev Planner (size : Source → Nat) (Target Error State : Type) :=
  (source : Source) → StateT State (Except Error) (Plan size Target Error source)

/-- What the machine still has to do: convert a source node, or put together as many of the newest
converted nodes as a plan had parts. -/
inductive Task (Source Target Error : Type) where
  | convert (source : Source)
  | assemble (arity : Nat) (build : List Target → Except Error Target)

/-- A bound on the steps that a task takes. -/
def Task.weight (size : Source → Nat) : Task Source Target Error → Nat
  | .convert source => 2 * size source
  | .assemble _ _ => 1

/-- A bound on the steps that tasks take. -/
def weight (size : Source → Nat) (tasks : List (Task Source Target Error)) : Nat :=
  total (Task.weight size) tasks

theorem weight_convert (parts : List Source) :
    weight size (parts.map (.convert : Source → Task Source Target Error)) =
      2 * total size parts := by
  induction parts with
  | nil => rfl
  | cons part rest ih =>
    simp only [weight, List.map_cons, total_cons, Task.weight] at ih ⊢
    rw [ih, Nat.mul_add]

/-- The tasks of a plan weigh less than the task that it stands for. -/
theorem weight_plan_lt {source : Source} (plan : Plan size Target Error source)
    (rest : List (Task Source Target Error)) :
    weight size (plan.parts.map .convert ++ .assemble plan.parts.length plan.assemble :: rest) <
      weight size (.convert source :: rest) := by
  have parts : weight size (plan.parts.map (.convert : Source → Task Source Target Error)) = _ :=
    weight_convert plan.parts
  have smaller := plan.smaller
  simp only [weight, total_append, total_cons, Task.weight] at parts ⊢
  omega

/-- Does the tasks. `converted` holds the converted nodes, the newest first. -/
def run (planner : Planner size Target Error State) (tasks : List (Task Source Target Error))
    (converted : List Target) (state : State) : Except Error (List Target × State) :=
  match tasks with
  | [] => .ok (converted, state)
  | .assemble arity build :: rest =>
    match build (converted.take arity).reverse with
    | .error error => .error error
    | .ok node => run planner rest (node :: converted.drop arity) state
  | .convert source :: rest =>
    match planner source state with
    | .error error => .error error
    | .ok (plan, state) =>
      run planner (plan.parts.map .convert ++ .assemble plan.parts.length plan.assemble :: rest)
        converted state
termination_by weight size tasks
decreasing_by
  · simp [weight, Task.weight]
  · exact weight_plan_lt plan rest

/-- Converts one source node. -/
def build [Inhabited Target] (planner : Planner size Target Error State) (source : Source) :
    StateT State (Except Error) Target := fun state => do
  let (converted, state) ← run planner [.convert source] [] state
  return (converted.headD default, state)

end Conversion

end LetShadow
