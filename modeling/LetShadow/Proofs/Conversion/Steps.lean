/-
**The steps of a conversion.**

The machine of a conversion goes from moment to moment: at each it holds its tasks, the converted
nodes and the state of the plans. What it does on its two stacks is what the recursion does.

* `Moment.Step`, `Moment.Fails` — **one step,** which plans a source node or puts nodes together, and
  the step that ends a conversion. They are all that the machine does (`Step.outcome`).
* `Moment.Fits` — the tasks find as many converted nodes as they take, and leave one in the end. **No
  step breaks this** (`Step.fits`), so nothing is ever taken from a stack that is too short.
* `planOrder` — the source nodes that the recursion plans, in pre-order.
* `runs_convert`, `fails_convert` — **the machine plans these, each once and in this order,** and comes
  to the node or to the error of the recursion.
* `build_follows_recursion` — the whole, for every planner, whatever state it keeps.
-/

import LetShadow.Proofs.Conversion.Recursion
import LetShadow.Ruby.Tree

namespace LetShadow.Conversion

variable {Source Target Error State : Type} {size : Source → Nat}

/-- The machine between two steps. `converted` holds the converted nodes, the newest first. -/
structure Moment (Source Target Error State : Type) where
  tasks : List (Task Source Target Error)
  converted : List Target
  state : State

namespace Moment

/-- The first moment of a conversion. -/
def first (source : Source) (state : State) : Moment Source Target Error State :=
  ⟨[.convert source], [], state⟩

/-- What the machine comes to from a moment on. -/
def outcome (planner : Planner size Target Error State) (moment : Moment Source Target Error State) :
    Except Error (List Target × State) :=
  run planner moment.tasks moment.converted moment.state

/-- One step, with the source node that it plans, if it plans one. -/
inductive Step (planner : Planner size Target Error State) :
    List Source → Moment Source Target Error State → Moment Source Target Error State → Prop
  | plans {source : Source} {plan : Plan size Target Error source} {state planned : State}
      (ofPlan : planner source state = .ok (plan, planned))
      (tasks : List (Task Source Target Error)) (converted : List Target) :
      Step planner [source] ⟨.convert source :: tasks, converted, state⟩
        ⟨plan.parts.map .convert ++ .assemble plan.parts.length plan.assemble :: tasks, converted,
          planned⟩
  | assembles {arity : Nat} {build : List Target → Except Error Target} {converted : List Target}
      {node : Target} (built : build (converted.take arity).reverse = .ok node)
      (tasks : List (Task Source Target Error)) (state : State) :
      Step planner [] ⟨.assemble arity build :: tasks, converted, state⟩
        ⟨tasks, node :: converted.drop arity, state⟩

/-- A step that fails, with the source node that has no plan, if it is one. -/
inductive Fails (planner : Planner size Target Error State) (error : Error) :
    List Source → Moment Source Target Error State → Prop
  | plans {source : Source} {state : State} (noPlan : planner source state = .error error)
      (tasks : List (Task Source Target Error)) (converted : List Target) :
      Fails planner error [source] ⟨.convert source :: tasks, converted, state⟩
  | assembles {arity : Nat} {build : List Target → Except Error Target} {converted : List Target}
      (built : build (converted.take arity).reverse = .error error)
      (tasks : List (Task Source Target Error)) (state : State) :
      Fails planner error [] ⟨.assemble arity build :: tasks, converted, state⟩

/-- So many steps, with the source nodes that they plan in order. -/
inductive Runs (planner : Planner size Target Error State) :
    Nat → List Source → Moment Source Target Error State → Moment Source Target Error State → Prop
  | stay (moment : Moment Source Target Error State) : Runs planner 0 [] moment moment
  | go {count : Nat} {now later : List Source} {moment next last : Moment Source Target Error State}
      (step : Step planner now moment next) (rest : Runs planner count later next last) :
      Runs planner (count + 1) (now ++ later) moment last

variable {planner : Planner size Target Error State}
  {moment next last : Moment Source Target Error State}

/-! ### Single steps -/

/-- **A step does not change what the machine comes to.** -/
theorem Step.outcome {now : List Source} (step : Step planner now moment next) :
    moment.outcome planner = next.outcome planner := by
  cases step with
  | plans ofPlan tasks converted =>
    rw [Moment.outcome, run, ofPlan]
    rfl
  | assembles built tasks state =>
    rw [Moment.outcome, run, built]
    rfl

theorem Fails.outcome {error : Error} {now : List Source} (fails : Fails planner error now moment) :
    moment.outcome planner = .error error := by
  cases fails with
  | plans noPlan tasks converted => rw [Moment.outcome, run, noPlan]
  | assembles built tasks state => rw [Moment.outcome, run, built]

/-- From a moment there is only one step. -/
theorem Step.unique {now other : List Source} (step : Step planner now moment next)
    (second : Step planner other moment last) : now = other ∧ next = last := by
  cases step with
  | plans ofPlan =>
    cases second with
    | plans instead =>
      cases ofPlan.symm.trans instead
      exact ⟨rfl, rfl⟩
  | assembles built =>
    cases second with
    | assembles instead =>
      cases built.symm.trans instead
      exact ⟨rfl, rfl⟩

/-- Where a step fails no step goes on. -/
theorem Fails.halts {error : Error} {now other : List Source} (fails : Fails planner error now moment) :
    ¬ Step planner other moment next := by
  intro step
  cases fails with
  | plans noPlan =>
    cases step with
    | plans ofPlan => cases noPlan.symm.trans ofPlan
  | assembles fails =>
    cases step with
    | assembles built => cases fails.symm.trans built

/-- **Each step takes some weight off the tasks.** -/
theorem Step.weight_lt {now : List Source} (step : Step planner now moment next) :
    weight size next.tasks < weight size moment.tasks := by
  cases step with
  | plans => exact weight_plan_lt _ _
  | assembles => simp [weight, Task.weight]

/-! ### The height of the stack -/

/-- Beginning with so many converted nodes, the tasks find as many as they take, and leave one. -/
def Fits : List (Task Source Target Error) → Nat → Prop
  | [], height => height = 1
  | .convert _ :: tasks, height => Fits tasks (height + 1)
  | .assemble arity _ :: tasks, height => arity ≤ height ∧ Fits tasks (height - arity + 1)

theorem fits_convert_append (parts : List Source) (tasks : List (Task Source Target Error))
    (height : Nat) :
    Fits (parts.map .convert ++ tasks) height ↔ Fits tasks (height + parts.length) := by
  induction parts generalizing height with
  | nil => exact Iff.rfl
  | cons part rest ih =>
    rw [List.map_cons, List.cons_append, Fits, ih, List.length_cons, Nat.add_assoc,
      Nat.add_comm 1]

/-- **A step keeps the stack high enough:** a plan puts back what it will take. -/
theorem Step.fits {now : List Source} (step : Step planner now moment next)
    (fits : Fits moment.tasks moment.converted.length) : Fits next.tasks next.converted.length := by
  cases step with
  | @plans source plan state planned ofPlan tasks converted =>
    rw [fits_convert_append, Fits, Nat.add_sub_cancel]
    exact ⟨Nat.le_add_left _ _, fits⟩
  | assembles built tasks state =>
    rw [List.length_cons, List.length_drop]
    exact fits.2

/-! ### Runs -/

theorem Runs.single {now : List Source} (step : Step planner now moment next) :
    Runs planner 1 now moment next := by
  have run := Runs.go step (.stay next)
  rwa [List.append_nil] at run

theorem Runs.trans {count more : Nat} {earlier later : List Source}
    (run : Runs planner count earlier moment next) (rest : Runs planner more later next last) :
    Runs planner (count + more) (earlier ++ later) moment last := by
  induction run with
  | stay =>
    rw [Nat.zero_add]
    exact rest
  | go step _ ih =>
    rw [List.append_assoc, Nat.add_right_comm]
    exact .go step (ih rest)

/-- **What one step keeps, a run keeps:** the outcome and the height of the stack. Its steps are no
more than the weight of the tasks. -/
theorem Runs.outcome {count : Nat} {order : List Source} (run : Runs planner count order moment last) :
    moment.outcome planner = last.outcome planner := by
  induction run with
  | stay => rfl
  | go step _ ih => exact step.outcome.trans ih

theorem Runs.fits {count : Nat} {order : List Source} (run : Runs planner count order moment last)
    (fits : Fits moment.tasks moment.converted.length) : Fits last.tasks last.converted.length := by
  induction run with
  | stay => exact fits
  | go step _ ih => exact ih (step.fits fits)

theorem Runs.count_le {count : Nat} {order : List Source}
    (run : Runs planner count order moment last) : count ≤ weight size moment.tasks := by
  induction run with
  | stay => exact Nat.zero_le _
  | go step _ ih => exact Nat.succ_le_of_lt (Nat.lt_of_le_of_lt ih step.weight_lt)

/-- A run is the beginning of any run from the same moment that can go no further. -/
theorem Runs.exists_rest {count whole : Nat} {order entire : List Source}
    (run : Runs planner count order moment next) (toEnd : Runs planner whole entire moment last)
    (halts : ∀ now after, ¬ Step planner now last after) :
    ∃ more rest, Runs planner more rest next last ∧ entire = order ++ rest := by
  induction run generalizing whole entire with
  | stay => exact ⟨whole, entire, toEnd, rfl⟩
  | go step _ ih =>
    cases toEnd with
    | stay => exact absurd step (halts _ _)
    | go other toEnd =>
      obtain ⟨rfl, rfl⟩ := step.unique other
      obtain ⟨more, rest, goOn, rfl⟩ := ih toEnd
      exact ⟨more, rest, goOn, (List.append_assoc _ _ _).symm⟩

end Moment

/-! ### The order of the plans -/

mutual

/-- The source nodes that the recursion plans, in the order in which it plans them: a node before its
parts, the parts from left to right, and none behind a failure. -/
def planOrder (planner : Planner size Target Error State) (source : Source) (state : State) :
    List Source :=
  source ::
    match planner source state with
    | .ok (plan, planned) => planOrderAll planner plan.parts planned
    | .error _ => []
termination_by (size source, 0)
decreasing_by exact Prod.Lex.left _ _ plan.smaller

/-- The same for source nodes from left to right. -/
def planOrderAll (planner : Planner size Target Error State) (sources : List Source) (state : State) :
    List Source :=
  match sources with
  | [] => []
  | source :: rest =>
    planOrder planner source state ++
      match convert planner source state with
      | .ok (_, middle) => planOrderAll planner rest middle
      | .error _ => []
termination_by (total size sources, sources.length + 1)
decreasing_by
  · exact Prod.Lex.right' _ (Nat.le_add_right _ _) (Nat.succ_pos _)
  · exact Prod.Lex.right' _ (Nat.le_add_left _ _) (Nat.lt_succ_self _)

end

variable {planner : Planner size Target Error State}

theorem planOrder_of_plan {source : Source} {state planned : State}
    {plan : Plan size Target Error source} (ofPlan : planner source state = .ok (plan, planned)) :
    planOrder planner source state = source :: planOrderAll planner plan.parts planned := by
  rw [planOrder, ofPlan]

theorem planOrder_of_noPlan {source : Source} {state : State} {error : Error}
    (noPlan : planner source state = .error error) : planOrder planner source state = [source] := by
  rw [planOrder, noPlan]

theorem planOrderAll_of_convert {source : Source} {rest : List Source} {state middle : State}
    {node : Target} (here : convert planner source state = .ok (node, middle)) :
    planOrderAll planner (source :: rest) state =
      planOrder planner source state ++ planOrderAll planner rest middle := by
  rw [planOrderAll, here]

theorem planOrderAll_of_failure {source : Source} {rest : List Source} {state : State} {error : Error}
    (here : convert planner source state = .error error) :
    planOrderAll planner (source :: rest) state = planOrder planner source state := by
  rw [planOrderAll, here, List.append_nil]

theorem planOrderAll_single (source : Source) (state : State) :
    planOrderAll planner [source] state = planOrder planner source state := by
  cases outcome : convert planner source state with
  | error => exact planOrderAll_of_failure outcome
  | ok converted =>
    rw [planOrderAll_of_convert (outcome : convert planner source state = .ok (_, converted.2)),
      planOrderAll, List.append_nil]

/-! ### The machine does what the recursion does -/

open Moment

/-- The machine converts the source node on top of its tasks to a node. -/
def Converts (planner : Planner size Target Error State) (source : Source) (state : State)
    (node : Target) (last : State) : Prop :=
  ∀ tasks converted, ∃ count, Runs planner count (planOrder planner source state)
    ⟨.convert source :: tasks, converted, state⟩ ⟨tasks, node :: converted, last⟩

/-- The machine comes from a moment to a failure; `order` holds all source nodes that were planned on
the way, and the one that has no plan. -/
def FailsAfter (planner : Planner size Target Error State) (order : List Source)
    (moment : Moment Source Target Error State) (error : Error) : Prop :=
  ∃ count before now stuck, Runs planner count before moment stuck ∧
    Fails planner error now stuck ∧ order = before ++ now

theorem FailsAfter.of_runs {count : Nat} {earlier order : List Source}
    {moment next : Moment Source Target Error State} {error : Error}
    (run : Runs planner count earlier moment next) (fails : FailsAfter planner order next error) :
    FailsAfter planner (earlier ++ order) moment error := by
  obtain ⟨more, before, now, stuck, goOn, atEnd, rfl⟩ := fails
  exact ⟨_, _, now, stuck, run.trans goOn, atEnd, (List.append_assoc _ _ _).symm⟩

theorem runs_convertAll_of_each {sources : List Source} {state last : State} {nodes : List Target}
    (each : ∀ source ∈ sources, ∀ state node last,
      convert planner source state = .ok (node, last) → Converts planner source state node last)
    (converts : convertAll planner sources state = .ok (nodes, last))
    (tasks : List (Task Source Target Error)) (converted : List Target) :
    ∃ count, Runs planner count (planOrderAll planner sources state)
      ⟨sources.map .convert ++ tasks, converted, state⟩ ⟨tasks, nodes.reverse ++ converted, last⟩ := by
  induction sources generalizing state nodes converted with
  | nil =>
    rw [convertAll_nil] at converts
    cases converts
    rw [planOrderAll]
    exact ⟨0, .stay _⟩
  | cons source rest ih =>
    obtain ⟨node, middle, others, here, later, rfl⟩ := of_convertAll_cons converts
    obtain ⟨count, runs⟩ :=
      each source List.mem_cons_self _ _ _ here (rest.map .convert ++ tasks) converted
    obtain ⟨more, goOn⟩ :=
      ih (fun other mem => each other (List.mem_cons_of_mem _ mem)) later (node :: converted)
    rw [planOrderAll_of_convert here, List.reverse_cons, List.append_assoc]
    exact ⟨_, runs.trans goOn⟩

/-- **The machine comes to the node of the recursion,** and plans what the recursion plans. -/
theorem runs_convert {source : Source} {state last : State} {node : Target}
    (converts : convert planner source state = .ok (node, last)) :
    Converts planner source state node last := by
  obtain ⟨plan, planned, nodes, ofPlan, below, assembles⟩ := of_convert converts
  have each : ∀ part ∈ plan.parts, ∀ state node last,
      convert planner part state = .ok (node, last) → Converts planner part state node last := by
    intro part mem state node last
    have := Nat.lt_of_le_of_lt (le_total_of_mem size mem) plan.smaller
    exact runs_convert
  intro tasks converted
  let assembly : Task Source Target Error := .assemble plan.parts.length plan.assemble
  obtain ⟨count, runs⟩ := runs_convertAll_of_each each below (assembly :: tasks) converted
  have arity : plan.parts.length = nodes.reverse.length := by
    rw [List.length_reverse, length_of_convertAll below]
  have built : plan.assemble ((nodes.reverse ++ converted).take plan.parts.length).reverse =
      .ok node := by
    rw [List.take_left' arity.symm, List.reverse_reverse, assembles]
  have assembled : Runs planner 1 [] _ _ := Runs.single (Step.assembles built tasks last)
  rw [List.drop_left' arity.symm] at assembled
  have whole := (Runs.single (Step.plans ofPlan tasks converted)).trans (runs.trans assembled)
  rw [List.append_nil] at whole
  rw [planOrder_of_plan ofPlan]
  exact ⟨_, whole⟩
termination_by size source

theorem fails_convertAll_of_each {sources : List Source} {state : State} {error : Error}
    (each : ∀ source ∈ sources, ∀ state error tasks converted,
      convert planner source state = .error error →
        FailsAfter planner (planOrder planner source state)
          ⟨.convert source :: tasks, converted, state⟩ error)
    (fails : convertAll planner sources state = .error error)
    (tasks : List (Task Source Target Error)) (converted : List Target) :
    FailsAfter planner (planOrderAll planner sources state)
      ⟨sources.map .convert ++ tasks, converted, state⟩ error := by
  induction sources generalizing state converted with
  | nil =>
    rw [convertAll_nil] at fails
    cases fails
  | cons source rest ih =>
    rw [convertAll] at fails
    rcases bind_eq_error_iff.mp fails with here | ⟨⟨node, middle⟩, here, fails⟩
    · rw [planOrderAll_of_failure here]
      exact each source List.mem_cons_self _ _ _ _ here
    · rcases bind_eq_error_iff.mp fails with later | ⟨_, _, ⟨⟩⟩
      obtain ⟨count, runs⟩ := runs_convert here (rest.map .convert ++ tasks) converted
      rw [planOrderAll_of_convert here]
      exact .of_runs runs
        (ih (fun other mem => each other (List.mem_cons_of_mem _ mem)) later (node :: converted))

/-- **The machine comes to the failure of the recursion,** the first in its order. -/
theorem fails_convert {source : Source} {state : State} {error : Error}
    (fails : convert planner source state = .error error)
    (tasks : List (Task Source Target Error)) (converted : List Target) :
    FailsAfter planner (planOrder planner source state)
      ⟨.convert source :: tasks, converted, state⟩ error := by
  rw [convert] at fails
  rcases bind_eq_error_iff.mp fails with noPlan | ⟨⟨plan, planned⟩, ofPlan, fails⟩
  · rw [planOrder_of_noPlan noPlan]
    exact ⟨0, [], [source], _, .stay _, .plans noPlan tasks converted, rfl⟩
  have each : ∀ part ∈ plan.parts, ∀ state error tasks converted,
      convert planner part state = .error error →
        FailsAfter planner (planOrder planner part state)
          ⟨.convert part :: tasks, converted, state⟩ error := by
    intro part mem state error tasks converted fails
    have := Nat.lt_of_le_of_lt (le_total_of_mem size mem) plan.smaller
    exact fails_convert fails tasks converted
  let assembly : Task Source Target Error := .assemble plan.parts.length plan.assemble
  have planned := Runs.single (Step.plans ofPlan tasks converted)
  rw [planOrder_of_plan ofPlan]
  refine .of_runs planned ?_
  rcases bind_eq_error_iff.mp fails with below | ⟨⟨nodes, last⟩, below, fails⟩
  · exact fails_convertAll_of_each each below (assembly :: tasks) converted
  · -- All parts are converted, and it is putting them together that fails.
    rcases bind_eq_error_iff.mp fails with fails | ⟨_, _, ⟨⟩⟩
    obtain ⟨count, runs⟩ := runs_convertAll_of_each (fun _ _ _ _ _ => runs_convert) below
      (assembly :: tasks) converted
    have arity : plan.parts.length = nodes.reverse.length := by
      rw [List.length_reverse, length_of_convertAll below]
    have built : plan.assemble ((nodes.reverse ++ converted).take plan.parts.length).reverse =
        .error error := by
      rw [List.take_left' arity.symm, List.reverse_reverse, fails]
    exact ⟨count, _, [], _, runs, .assembles built tasks last, (List.append_nil _).symm⟩
termination_by size source

/-! ### The whole conversion -/

/-- What holds of a moment to which the conversion of a source node comes, after so many steps and
the plans of the source nodes in `order`. -/
structure Moment.IsSound (planner : Planner size Target Error State) (source : Source) (state : State)
    (count : Nat) (order : List Source) (moment : Moment Source Target Error State) : Prop where
  /-- There is a bound on the steps. -/
  bounded : count ≤ 2 * size source
  /-- What was planned is the beginning of what the recursion plans. -/
  ordered : order <+: planOrder planner source state
  /-- Nodes are put together only if there are as many as it takes. -/
  high : ∀ arity build rest, moment.tasks = .assemble arity build :: rest →
    arity ≤ moment.converted.length
  /-- In the end there is one node. -/
  single : moment.tasks = [] → ∃ node, moment.converted = [node]
  outcome : moment.outcome planner = (Moment.first source state).outcome planner

/-- Each run from the first moment is the beginning of one that plans the source nodes in the order
of the recursion. -/
theorem prefix_planOrder {source : Source} {state : State} {count : Nat} {order : List Source}
    {moment : Moment Source Target Error State}
    (run : Runs planner count order (.first source state) moment) :
    order <+: planOrder planner source state := by
  cases outcome : convert planner source state with
  | ok converted =>
    obtain ⟨node, last⟩ := converted
    obtain ⟨_, toEnd⟩ := runs_convert outcome [] []
    obtain ⟨_, rest, -, whole⟩ := run.exists_rest toEnd nofun
    exact ⟨rest, whole.symm⟩
  | error error =>
    obtain ⟨_, before, now, stuck, toEnd, fails, whole⟩ := fails_convert outcome [] []
    obtain ⟨_, rest, -, earlier⟩ := run.exists_rest toEnd fun _ _ => fails.halts
    exact ⟨rest ++ now, by rw [whole, earlier, List.append_assoc]⟩

theorem isSound_of_runs {source : Source} {state : State} {count : Nat} {order : List Source}
    {moment : Moment Source Target Error State}
    (run : Runs planner count order (.first source state) moment) :
    moment.IsSound planner source state count order := by
  have fits : Fits moment.tasks moment.converted.length := run.fits rfl
  refine ⟨run.count_le, prefix_planOrder run, ?_, ?_, run.outcome.symm⟩
  · intro arity build rest next
    rw [next] at fits
    exact fits.1
  · intro none
    rw [none] at fits
    exact List.length_eq_one_iff.mp fits

/-- **A conversion on stacks is the recursion.** It comes to the same node, state or error. On the way
it plans what the recursion plans, each source node once and in pre-order, up to a failure if there is
one; and at each moment the stack is high enough, the steps are bounded, and no task left means that
one node is left. -/
theorem build_follows_recursion [Inhabited Target] (planner : Planner size Target Error State)
    (source : Source) (state : State) :
    build planner source state = convert planner source state ∧
    (∀ node last, convert planner source state = .ok (node, last) →
      ∃ count, Runs planner count (planOrder planner source state) (.first source state)
        ⟨[], [node], last⟩) ∧
    (∀ error, convert planner source state = .error error →
      FailsAfter planner (planOrder planner source state) (.first source state) error) ∧
    ∀ count order moment, Runs planner count order (.first source state) moment →
      moment.IsSound planner source state count order := by
  refine ⟨congrFun (build_eq_convert source) state, fun node last converts => ?_,
    fun error fails => fails_convert fails [] [], fun count order moment => isSound_of_runs⟩
  exact runs_convert converts [] []

section Example

open Ruby (Concrete)

/-- A leaf of the first line. -/
def leafAt (field : Option String) (type text : String) (column : Int) : Concrete :=
  ⟨type, field, Thunk.pure text, ⟨1, column⟩, []⟩

/-- The concrete tree of `a = 1`. -/
def assigning : Concrete :=
  ⟨"assignment", none, Thunk.pure "a = 1", ⟨1, 0⟩,
    [leafAt (some "left") "identifier" "a" 0, leafAt (some "right") "integer" "1" 4]⟩

/-- The concrete tree of `a = 1; a`. -/
def assignedThenRead : Concrete :=
  ⟨"program", none, Thunk.pure "a = 1; a", ⟨1, 0⟩, [assigning, leafAt none "identifier" "a" 7]⟩

/-- What it becomes. -/
def assignedNode : Node :=
  .sequence
    [ .other "assignment"
        [.localVariable "a" (some ⟨1, 0⟩), .other "integer" [] none (some ⟨1, 4⟩)] none
        (some ⟨1, 0⟩),
      .localVariable "a" (some ⟨1, 7⟩) ]
    (some ⟨1, 0⟩)

/-- In `a = 1; a` the plan of the assignment binds the name that is read behind it. All five source
nodes are planned, in pre-order. -/
theorem build_follows_recursion_assigned :
    build Ruby.planner assignedThenRead [] = .ok (assignedNode, ["a"]) ∧
      ∃ count, Runs Ruby.planner count
        [ assignedThenRead, assigning, leafAt (some "left") "identifier" "a" 0,
          leafAt (some "right") "integer" "1" 4, leafAt none "identifier" "a" 7 ]
        (.first assignedThenRead []) ⟨[], [assignedNode], ["a"]⟩ := by
  -- A leaf that is planned behind the assignment.
  have leaf (source : Concrete) {plan : Ruby.RubyPlan source} {node : Node}
      (ofPlan : Ruby.planner source ["a"] = .ok (plan, ["a"])) (none : plan.parts = [])
      (becomes : plan.assemble [] = .ok node) :
      convert Ruby.planner source ["a"] = .ok (node, ["a"]) ∧
        planOrder Ruby.planner source ["a"] = [source] := by
    rw [planOrder_of_plan ofPlan, none, planOrderAll]
    exact ⟨convert_eq_ok ofPlan (none ▸ convertAll_nil _) becomes, rfl⟩
  obtain ⟨left, leftOrder⟩ := leaf (leafAt (some "left") "identifier" "a" 0) rfl rfl rfl
  obtain ⟨right, rightOrder⟩ := leaf (leafAt (some "right") "integer" "1" 4) rfl rfl rfl
  obtain ⟨read, readOrder⟩ := leaf (leafAt none "identifier" "a" 7) rfl rfl rfl
  have assigned : convert Ruby.planner assigning [] = .ok (_, ["a"]) :=
    convert_eq_ok rfl
      (convertAll_cons_eq_ok left (convertAll_cons_eq_ok right (convertAll_nil _))) rfl
  have whole : convert Ruby.planner assignedThenRead [] = .ok (assignedNode, ["a"]) :=
    convert_eq_ok rfl
      (convertAll_cons_eq_ok assigned (convertAll_cons_eq_ok read (convertAll_nil _))) rfl
  have inner : planOrder Ruby.planner assigning [] =
      [ assigning, leafAt (some "left") "identifier" "a" 0,
        leafAt (some "right") "integer" "1" 4 ] := by
    refine (planOrder_of_plan rfl).trans (congrArg (assigning :: ·) ?_)
    refine (planOrderAll_of_convert left).trans (congrArg₂ (· ++ ·) leftOrder ?_)
    exact (planOrderAll_single _ _).trans rightOrder
  have order : planOrder Ruby.planner assignedThenRead [] =
      [ assignedThenRead, assigning, leafAt (some "left") "identifier" "a" 0,
        leafAt (some "right") "integer" "1" 4, leafAt none "identifier" "a" 7 ] := by
    refine (planOrder_of_plan rfl).trans (congrArg (assignedThenRead :: ·) ?_)
    refine (planOrderAll_of_convert assigned).trans (congrArg₂ (· ++ ·) inner ?_)
    exact (planOrderAll_single _ _).trans readOrder
  obtain ⟨same, arrives, -, -⟩ := build_follows_recursion Ruby.planner assignedThenRead []
  rw [order] at arrives
  exact ⟨same.trans whole, arrives _ _ whole⟩

end Example

end LetShadow.Conversion
