/-
**What a conversion comes to.**

A conversion goes through its source in pre-order and ends at the first source node without a plan.

* `convert_eq_error_iff` — **a conversion fails with the report on the first source node, of those
  that it comes to, that is at fault.**
* `SameOutcome` — two steps that fail alike, or both go through with related values.
* `convert_sameOutcome` — **simulation:** where related source nodes have plans that ask for related
  parts and put related nodes together to related ones, related source nodes are converted with the
  same outcome. The two conversions may keep different states.
-/

import LetShadow.Proofs.Conversion.Recursion

namespace LetShadow

/-! ### Steps side by side -/

/-- Two steps fail with the same error, or go through with related values. -/
inductive SameOutcome {Error Value Image : Type} (related : Value → Image → Prop) :
    Except Error Value → Except Error Image → Prop
  | ok {value : Value} {image : Image} (here : related value image) :
    SameOutcome related (.ok value) (.ok image)
  | error (error : Error) : SameOutcome related (.error error) (.error error)

namespace SameOutcome

variable {Error Value Image Next Other : Type} {related : Value → Image → Prop}
  {goal : Next → Other → Prop}

theorem bind {first : Except Error Value} {second : Except Error Image}
    {goOn : Value → Except Error Next} {goOnToo : Image → Except Error Other}
    (same : SameOutcome related first second)
    (later : ∀ value image, related value image → SameOutcome goal (goOn value) (goOnToo image)) :
    SameOutcome goal (first >>= goOn) (second >>= goOnToo) := by
  cases same with
  | ok here => exact later _ _ here
  | error error => exact .error error

theorem map {first : Except Error Value} {second : Except Error Image} {shown : Value → Next}
    {shownToo : Image → Other}
    (same : SameOutcome (fun value image => goal (shown value) (shownToo image)) first second) :
    SameOutcome goal (first.map shown) (second.map shownToo) := by
  cases same with
  | ok here => exact .ok here
  | error error => exact .error error

theorem imp {first : Except Error Value} {second : Except Error Image}
    {wider : Value → Image → Prop} (same : SameOutcome related first second)
    (later : ∀ value image, related value image → wider value image) :
    SameOutcome wider first second := by
  cases same with
  | ok here => exact .ok (later _ _ here)
  | error error => exact .error error

theorem eq {first second : Except Error Value} (same : SameOutcome Eq first second) :
    first = second := by
  cases same with
  | ok here => rw [here]
  | error error => rfl

end SameOutcome

namespace Conversion

/-! ### The first fault -/

section Faults

variable {Source Target Error State : Type} {size : Source → Nat}
  {planner : Planner size Target Error State} {pieces reached : Source → List Source}
  {fault? : Source → Option Error}

/-- A source node at fault is reported, and the plan of any other asks for its pieces. -/
structure ReportsFaults (planner : Planner size Target Error State)
    (pieces : Source → List Source) (fault? : Source → Option Error) : Prop where
  fails : ∀ source state error, fault? source = some error → planner source state = .error error
  plans : ∀ source state, fault? source = none → ∃ plan planned,
    planner source state = .ok (plan, planned) ∧ AsksFor plan (pieces source)

theorem convertAll_eq_error_iff {sources : List Source} {error : Error}
    (each : ∀ source ∈ sources, ∀ state error,
      convert planner source state = .error error ↔ (reached source).findSome? fault? = some error)
    (state : State) :
    convertAll planner sources state = .error error ↔
      (sources.flatMap reached).findSome? fault? = some error := by
  induction sources generalizing state with
  | nil =>
    rw [convertAll_nil]
    exact ⟨nofun, nofun⟩
  | cons source rest ih =>
    have here := each source List.mem_cons_self state
    have later := ih fun other mem => each other (List.mem_cons_of_mem _ mem)
    rw [convertAll, List.flatMap_cons, List.findSome?_append, bind_eq_error_iff]
    cases outcome : convert planner source state with
    | error other =>
      rw [(here other).mp outcome, Option.some_or, Option.some_inj]
      constructor
      · rintro (⟨⟨⟩⟩ | ⟨_, ⟨⟩, _⟩)
        rfl
      · rintro rfl
        exact .inl rfl
    | ok converted =>
      obtain ⟨node, middle⟩ := converted
      have clean : (reached source).findSome? fault? = none := by
        rw [Option.eq_none_iff_forall_ne_some]
        intro other found
        cases outcome.symm.trans ((here other).mpr found)
      rw [clean, Option.none_or, ← later middle]
      constructor
      · rintro (⟨⟨⟩⟩ | ⟨_, ⟨⟩, fails⟩)
        rcases bind_eq_error_iff.mp fails with fails | ⟨_, _, ⟨⟩⟩
        exact fails
      · intro fails
        exact .inr ⟨_, rfl, bind_eq_error_iff.mpr (.inl fails)⟩

/-- **A conversion fails with the report on the first source node at fault** among those that it
comes to, which are a source node itself and what is reached from its pieces. -/
theorem convert_eq_error_iff
    (unfolds : ∀ source, reached source = source :: (pieces source).flatMap reached)
    (reports : ReportsFaults planner pieces fault?) (source : Source) (state : State)
    (error : Error) :
    convert planner source state = .error error ↔
      (reached source).findSome? fault? = some error := by
  rw [unfolds, List.findSome?_cons]
  cases fault : fault? source with
  | some other =>
    rw [convert, reports.fails source state other fault]
    exact Iff.trans ⟨fun same => Except.error.inj same, fun same => congrArg Except.error same⟩
      Option.some_inj.symm
  | none =>
    obtain ⟨plan, planned, plans, parts, assembles⟩ := reports.plans source state fault
    have each : ∀ piece ∈ plan.parts, ∀ state error, convert planner piece state = .error error ↔
        (reached piece).findSome? fault? = some error := by
      intro piece mem
      have := Nat.lt_of_le_of_lt (le_total_of_mem size mem) plan.smaller
      exact convert_eq_error_iff unfolds reports piece
    have below : convertAll planner plan.parts planned = .error error ↔ _ :=
      convertAll_eq_error_iff each planned
    rw [parts] at below
    rw [convert, plans]
    show (convertAll planner plan.parts planned >>= _) = _ ↔ _
    rw [parts, bind_eq_error_iff, ← below]
    constructor
    · rintro (fails | ⟨⟨nodes, last⟩, _, fails⟩)
      · exact fails
      -- Nothing fails where converted nodes are put together.
      · obtain ⟨node, assembled⟩ := assembles nodes
        rcases bind_eq_error_iff.mp fails with fails | ⟨_, _, ⟨⟩⟩
        cases assembled.symm.trans fails
    · exact .inl
termination_by size source

end Faults

/-! ### Conversions side by side -/

section Simulation

variable {Source Source' Target Target' Error State State' : Type}
  {size : Source → Nat} {size' : Source' → Nat}
  {planner : Planner size Target Error State} {planner' : Planner size' Target' Error State'}
  {alike : Source → Source' → Prop} {related : Target → Target' → Prop}

/-- Two plans ask for source nodes that are alike one by one, and put related nodes together to
related ones. -/
structure PlansAlike (alike : Source → Source' → Prop) (related : Target → Target' → Prop)
    {source : Source} {source' : Source'} (plan : Plan size Target Error source)
    (plan' : Plan size' Target' Error source') : Prop where
  parts : List.Forall₂ alike plan.parts plan'.parts
  assembles : ∀ nodes nodes', List.Forall₂ related nodes nodes' →
    SameOutcome related (plan.assemble nodes) (plan'.assemble nodes')

theorem convertAll_sameOutcome {sources : List Source} {sources' : List Source'}
    (both : List.Forall₂ (fun source source' => ∀ state state',
      SameOutcome (fun node node' => related node.1 node'.1) (convert planner source state)
        (convert planner' source' state')) sources sources') (state : State) (state' : State') :
    SameOutcome (fun nodes nodes' => List.Forall₂ related nodes.1 nodes'.1)
      (convertAll planner sources state) (convertAll planner' sources' state') := by
  induction both generalizing state state' with
  | nil =>
    rw [convertAll_nil, convertAll_nil]
    exact .ok .nil
  | cons here _ ih =>
    rw [convertAll, convertAll]
    refine (here state state').bind fun node node' isNode => ?_
    refine (ih node.2 node'.2).bind fun nodes nodes' areNodes => ?_
    exact .ok (.cons isNode areNodes)

/-- **Source nodes that are alike are converted with the same outcome,** if their plans are alike.
-/
theorem convert_sameOutcome
    (plans : ∀ source source' state state', alike source source' →
      SameOutcome (fun plan plan' => PlansAlike alike related plan.1 plan'.1)
        (planner source state) (planner' source' state'))
    {source : Source} {source' : Source'} (here : alike source source') (state : State)
    (state' : State') :
    SameOutcome (fun node node' => related node.1 node'.1) (convert planner source state)
      (convert planner' source' state') := by
  rw [convert, convert]
  refine (plans source source' state state' here).bind ?_
  rintro ⟨plan, planned⟩ ⟨plan', planned'⟩ both
  have each : List.Forall₂ (fun part part' => ∀ state state',
      SameOutcome (fun node node' => related node.1 node'.1) (convert planner part state)
        (convert planner' part' state')) plan.parts plan'.parts := by
    refine List.forall₂_iff_get.mpr ⟨both.parts.length_eq, fun i h h' => ?_⟩
    have := Nat.lt_of_le_of_lt (le_total_of_mem size (List.get_mem plan.parts ⟨i, h⟩)) plan.smaller
    exact convert_sameOutcome plans (both.parts.get h h')
  refine (convertAll_sameOutcome each planned planned').bind fun nodes nodes' areNodes => ?_
  refine (both.assembles _ _ areNodes).bind fun node node' isNode => ?_
  exact .ok isNode
termination_by size source

end Simulation

end Conversion

end LetShadow
