/-
**The conversion as a recursion.**

The machine of a conversion keeps what it has to do and what it has converted on two stacks. In the
end it does what a recursion over the source tree would do, with the state going along in pre-order:

* `convert`, `convertAll` — the conversion of a source node, and of source nodes from left to right.
* `run_convert` — **the machine converts the source node on top of its tasks as the recursion does,**
  and then goes on with the other tasks.
* `build_eq_convert` — so a conversion is this recursion.
* `convert_goes_iff` — **a conversion fails exactly at a source node that it comes to** and that has no
  plan.
-/

import Mathlib.Logic.Relation
import LetShadow.Conversion.Machine
import LetShadow.Proofs.Traversal

namespace LetShadow.Conversion

open Relation (ReflTransGen)

variable {Source Target Error State : Type} {size : Source → Nat}

mutual

/-- Converts a source node: first the parts of its plan, which it then puts together. -/
def convert (planner : Planner size Target Error State) (source : Source) (state : State) :
    Except Error (Target × State) := do
  let (plan, state) ← planner source state
  let (parts, state) ← convertAll planner plan.parts state
  return (← plan.assemble parts, state)
termination_by (size source, 0)
decreasing_by exact Prod.Lex.left _ _ plan.smaller

/-- Converts source nodes from left to right. -/
def convertAll (planner : Planner size Target Error State) (sources : List Source) (state : State) :
    Except Error (List Target × State) :=
  match sources with
  | [] => .ok ([], state)
  | source :: rest => do
    let (node, state) ← convert planner source state
    let (nodes, state) ← convertAll planner rest state
    return (node :: nodes, state)
termination_by (total size sources, sources.length + 1)
decreasing_by
  · exact Prod.Lex.right' _ (Nat.le_add_right _ _) (Nat.succ_pos _)
  · exact Prod.Lex.right' _ (Nat.le_add_left _ _) (Nat.lt_succ_self _)

end

variable {planner : Planner size Target Error State}

/-! ### Conversions that go through -/

@[simp]
theorem convertAll_nil (state : State) : convertAll planner [] state = .ok ([], state) := by
  rw [convertAll]

/-- **A source node with a plan is converted by converting the parts.** -/
theorem convert_eq_ok {source : Source} {state planned last : State}
    {plan : Plan size Target Error source} {parts : List Target} {node : Target}
    (plans : planner source state = .ok (plan, planned))
    (converts : convertAll planner plan.parts planned = .ok (parts, last))
    (assembles : plan.assemble parts = .ok node) :
    convert planner source state = .ok (node, last) := by
  rw [convert, plans]
  show (convertAll planner plan.parts planned >>= _) = _
  rw [converts]
  show (plan.assemble parts >>= _) = _
  rw [assembles]
  rfl

theorem convertAll_cons_eq_ok {source : Source} {rest : List Source} {state middle last : State}
    {node : Target} {nodes : List Target} (first : convert planner source state = .ok (node, middle))
    (others : convertAll planner rest middle = .ok (nodes, last)) :
    convertAll planner (source :: rest) state = .ok (node :: nodes, last) := by
  rw [convertAll, first]
  show (convertAll planner rest middle >>= _) = _
  rw [others]
  rfl

/-- A conversion that goes through has a plan, and converts its parts. -/
theorem of_convert {source : Source} {state last : State} {node : Target}
    (converts : convert planner source state = .ok (node, last)) :
    ∃ plan planned parts, planner source state = .ok (plan, planned) ∧
      convertAll planner plan.parts planned = .ok (parts, last) ∧
        plan.assemble parts = .ok node := by
  rw [convert] at converts
  obtain ⟨⟨plan, planned⟩, plans, goOn⟩ := bind_eq_ok_iff.mp converts
  obtain ⟨⟨parts, last⟩, below, assembled⟩ := bind_eq_ok_iff.mp goOn
  obtain ⟨node, assembles, same⟩ := bind_eq_ok_iff.mp assembled
  cases same
  exact ⟨plan, planned, parts, plans, below, assembles⟩

/-- A conversion of source nodes that goes through converts the first and then the others. -/
theorem of_convertAll_cons {source : Source} {rest : List Source} {state last : State}
    {nodes : List Target} (converts : convertAll planner (source :: rest) state = .ok (nodes, last)) :
    ∃ node middle others, convert planner source state = .ok (node, middle) ∧
      convertAll planner rest middle = .ok (others, last) ∧ nodes = node :: others := by
  rw [convertAll] at converts
  obtain ⟨⟨node, middle⟩, first, goOn⟩ := bind_eq_ok_iff.mp converts
  obtain ⟨⟨others, last⟩, later, same⟩ := bind_eq_ok_iff.mp goOn
  cases same
  exact ⟨node, middle, others, first, later, rfl⟩

theorem convertAll_append_eq_ok {first second : List Source} {state middle last : State}
    {nodes others : List Target} (start : convertAll planner first state = .ok (nodes, middle))
    (rest : convertAll planner second middle = .ok (others, last)) :
    convertAll planner (first ++ second) state = .ok (nodes ++ others, last) := by
  induction first generalizing state nodes with
  | nil =>
    rw [convertAll_nil] at start
    cases start
    exact rest
  | cons source sources ih =>
    obtain ⟨node, between, later, here, below, rfl⟩ := of_convertAll_cons start
    exact convertAll_cons_eq_ok here (ih below)

/-- As many nodes come out of a conversion as go into it. -/
theorem length_of_convertAll {sources : List Source} {state last : State} {nodes : List Target}
    (converts : convertAll planner sources state = .ok (nodes, last)) :
    nodes.length = sources.length := by
  induction sources generalizing state nodes with
  | nil =>
    rw [convertAll_nil] at converts
    cases converts
    rfl
  | cons source rest ih =>
    obtain ⟨node, between, others, _, below, rfl⟩ := of_convertAll_cons converts
    rw [List.length_cons, List.length_cons, ih below]

/-! ### Conversions that may fail -/

/-- Source nodes are converted exactly if each of them is, where the state makes no difference. -/
theorem convertAll_goes_iff {goes : Source → Prop} {sources : List Source}
    (each : ∀ source ∈ sources, ∀ state,
      (∃ converted, convert planner source state = .ok converted) ↔ goes source)
    (state : State) :
    (∃ converted, convertAll planner sources state = .ok converted) ↔
      ∀ source ∈ sources, goes source := by
  induction sources generalizing state with
  | nil => exact ⟨nofun, fun _ => ⟨_, convertAll_nil state⟩⟩
  | cons source rest ih =>
    have later := ih fun other mem => each other (List.mem_cons_of_mem _ mem)
    rw [List.forall_mem_cons, ← each source List.mem_cons_self state]
    constructor
    · rintro ⟨⟨nodes, last⟩, converts⟩
      obtain ⟨node, middle, others, here, below, -⟩ := of_convertAll_cons converts
      exact ⟨⟨_, here⟩, (later middle).mp ⟨_, below⟩⟩
    · rintro ⟨⟨⟨node, middle⟩, here⟩, goOn⟩
      obtain ⟨⟨others, last⟩, below⟩ := (later middle).mpr goOn
      exact ⟨_, convertAll_cons_eq_ok here below⟩

/-- A plan asks for source nodes, and puts together whatever they become. -/
structure AsksFor {source : Source} (plan : Plan size Target Error source) (pieces : List Source) :
    Prop where
  parts : plan.parts = pieces
  assembles : ∀ nodes, ∃ node, plan.assemble nodes = .ok node

/-- **A source node is converted exactly if no bad one is among those that the conversion comes to,**
where the bad ones have no plan, and the plan of any other asks for the same pieces in each state. -/
theorem convert_goes_iff {pieces : Source → List Source} {bad : Source → Prop}
    (fails : ∀ source state, bad source → ∃ error, planner source state = .error error)
    (plans : ∀ source state, ¬ bad source → ∃ plan planned,
      planner source state = .ok (plan, planned) ∧ AsksFor plan (pieces source))
    (source : Source) (state : State) :
    (∃ converted, convert planner source state = .ok converted) ↔
      ∀ node, ReflTransGen (fun outer inner => inner ∈ pieces outer) source node → ¬ bad node := by
  by_cases isBad : bad source
  · obtain ⟨error, noPlan⟩ := fails source state isBad
    refine ⟨?_, fun good => absurd isBad (good source .refl)⟩
    rintro ⟨⟨_, last⟩, converts⟩
    obtain ⟨plan, planned, nodes, ofPlan, -⟩ := of_convert converts
    cases noPlan.symm.trans ofPlan
  · obtain ⟨plan, planned, ofPlan, parts, assembles⟩ := plans source state isBad
    -- Each part is smaller, so that the statement may be used for it.
    have each : ∀ piece ∈ plan.parts, ∀ state,
        (∃ converted, convert planner piece state = .ok converted) ↔
          ∀ node, ReflTransGen (fun outer inner => inner ∈ pieces outer) piece node →
            ¬ bad node := by
      intro piece mem
      have := Nat.lt_of_le_of_lt (le_total_of_mem size mem) plan.smaller
      exact convert_goes_iff fails plans piece
    have goOn := convertAll_goes_iff each planned
    rw [parts] at goOn
    constructor
    · rintro ⟨⟨_, last⟩, converts⟩ node reaches
      obtain rfl | ⟨piece, mem, below⟩ := ReflTransGen.cases_head_iff.mp reaches
      · exact isBad
      · obtain ⟨other, state, nodes, ofOther, goThrough, -⟩ := of_convert converts
        cases ofPlan.symm.trans ofOther
        rw [parts] at goThrough
        exact goOn.mp ⟨_, goThrough⟩ piece mem node below
    · intro good
      obtain ⟨⟨nodes, last⟩, converts⟩ := goOn.mpr fun piece mem node below =>
        good node (.head mem below)
      obtain ⟨node, assembled⟩ := assembles nodes
      exact ⟨_, convert_eq_ok ofPlan (parts ▸ converts) assembled⟩
termination_by size source

/-! ### The machine -/

theorem run_convertAll_of_each {sources : List Source}
    (each : ∀ source ∈ sources, ∀ tasks converted state,
      run planner (.convert source :: tasks) converted state = (do
        let (node, state) ← convert planner source state
        run planner tasks (node :: converted) state))
    (tasks : List (Task Source Target Error)) (converted : List Target) (state : State) :
    run planner (sources.map .convert ++ tasks) converted state = (do
      let (nodes, state) ← convertAll planner sources state
      run planner tasks (nodes.reverse ++ converted) state) := by
  induction sources generalizing converted state with
  | nil => rw [convertAll_nil]; rfl
  | cons source rest ih =>
    have later := ih fun other mem => each other (List.mem_cons_of_mem _ mem)
    rw [List.map_cons, List.cons_append, each source List.mem_cons_self, convertAll, bind_assoc]
    refine bind_congr fun ⟨node, middle⟩ => ?_
    show run planner (rest.map .convert ++ tasks) (node :: converted) middle = _
    rw [later, bind_assoc]
    refine bind_congr fun ⟨nodes, last⟩ => ?_
    show _ = run planner tasks ((node :: nodes).reverse ++ converted) last
    rw [List.reverse_cons, List.append_assoc]
    rfl

/-- Putting together the newest converted nodes takes them in the order of their sources. -/
theorem run_assemble {nodes : List Target} {arity : Nat} (count : nodes.length = arity)
    (build : List Target → Except Error Target) (tasks : List (Task Source Target Error))
    (converted : List Target) (state : State) :
    run planner (.assemble arity build :: tasks) (nodes.reverse ++ converted) state = (do
      let node ← build nodes
      run planner tasks (node :: converted) state) := by
  have newest : ((nodes.reverse ++ converted).take arity).reverse = nodes := by
    rw [List.take_left' (by rw [List.length_reverse, count]), List.reverse_reverse]
  have older : (nodes.reverse ++ converted).drop arity = converted :=
    List.drop_left' (by rw [List.length_reverse, count])
  rw [run, newest, older]
  cases build nodes <;> rfl

/-- **The machine converts what is on top of its tasks as the recursion does.** -/
theorem run_convert (source : Source) (tasks : List (Task Source Target Error))
    (converted : List Target) (state : State) :
    run planner (.convert source :: tasks) converted state = (do
      let (node, state) ← convert planner source state
      run planner tasks (node :: converted) state) := by
  rw [run, convert, bind_assoc]
  cases planner source state with
  | error error => rfl
  | ok planned =>
    obtain ⟨plan, planned⟩ := planned
    have each : ∀ part ∈ plan.parts, ∀ tasks converted state,
        run planner (.convert part :: tasks) converted state = (do
          let (node, state) ← convert planner part state
          run planner tasks (node :: converted) state) := by
      intro part mem
      have := Nat.lt_of_le_of_lt (le_total_of_mem size mem) plan.smaller
      exact run_convert part
    show run planner (plan.parts.map .convert ++ _ :: tasks) converted planned =
      ((convertAll planner plan.parts planned >>= _) >>= _)
    rw [run_convertAll_of_each each, bind_assoc]
    cases outcome : convertAll planner plan.parts planned with
    | error error => rfl
    | ok found =>
      obtain ⟨nodes, last⟩ := found
      have count := length_of_convertAll outcome
      show run planner (.assemble plan.parts.length plan.assemble :: tasks)
        (nodes.reverse ++ converted) last = ((plan.assemble nodes >>= _) >>= _)
      rw [run_assemble count, bind_assoc]
      rfl
termination_by size source

/-- **A conversion is the recursion.** -/
theorem build_eq_convert [Inhabited Target] (source : Source) :
    build planner source = convert planner source := by
  funext state
  show (run planner [.convert source] [] state >>= _) = _
  rw [run_convert, bind_assoc]
  refine Eq.trans ?_ (bind_pure (convert planner source state))
  refine bind_congr fun ⟨node, last⟩ => ?_
  show (run planner [] [node] last >>= _) = _
  rw [run]
  rfl

end LetShadow.Conversion
