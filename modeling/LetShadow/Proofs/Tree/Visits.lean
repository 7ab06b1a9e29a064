/-
**What a visit does.**

A visit hands the nodes of a tree to handlers that keep state and may fail. Where a failure ends it, what
the handlers did before stays.

* `walk_infix` — **the walk of a part is a piece of the whole walk.**
* `InTurn` — some actions one after the other, up to the first that fails; `inTurn_iff`.
* `Occurrence.nesting` — a tree as a work list, and `drain_eq_walk`: **draining it is walking it.**
* `visit_exact` — **a visit handles every node of a tree once and in order,** or, what is the same, it
  handles the root and then visits the children.
-/

import LetShadow.Proofs.Tree.Places
import LetShadow.Proofs.Worklist
import LetShadow.Syntax.Visit

namespace LetShadow

/-! ### Walks of parts -/

namespace Occurrence

theorem walk_infix_of_child {here child : Occurrence} (mem : child ∈ here.children) :
    child.walk <:+: here.walk := by
  obtain ⟨before, after, split⟩ := List.append_of_mem mem
  refine ⟨here :: before.flatMap walk, after.flatMap walk, ?_⟩
  rw [walk_eq here, split, List.flatMap_append, List.flatMap_cons, List.cons_append, List.cons_append,
    List.append_assoc]

/-- **The walk of a part of a tree is a piece of the walk of the tree.** -/
theorem walk_infix {tree here : Occurrence} (mem : here ∈ tree.walk) : here.walk <:+: tree.walk := by
  induction tree using places_induction with
  | step tree ih =>
    rcases mem_walk.mp mem with rfl | ⟨child, childMem, inside⟩
    · exact List.infix_rfl
    · exact (ih child childMem inside).trans (walk_infix_of_child childMem)

/-! ### Trees as work lists -/

theorem total_placed (pos : Nat) (nodes : List Node) :
    total (fun here : Occurrence => here.node.size) (placed pos nodes) = Node.forestSize nodes := by
  induction nodes generalizing pos with
  | nil => rfl
  | cons node rest ih => rw [placed, total_cons, ih, Node.forestSize]

/-- A tree as a nesting of its places. -/
def nesting : Nesting Occurrence where
  inside := children
  size := fun here => here.node.size
  smaller := fun here => by
    rw [children, total_placed, Node.size_eq here.node]
    exact Nat.lt_add_of_pos_left Nat.zero_lt_one

variable {m : Type → Type} [Monad m] [LawfulMonad m]

/-- A walk acts on a place and then walks its children. -/
theorem forM_walk (act : Occurrence → m Unit) (here : Occurrence) :
    forM here.walk act = (do act here; forM here.children fun child => forM child.walk act) := by
  have forest (places : List Occurrence) :
      forM (places.flatMap walk) act = forM places fun child => forM child.walk act := by
    induction places with
    | nil => rfl
    | cons place rest ih => rw [List.flatMap_cons, List.forM_append, ih, List.forM_cons]
  rw [walk_eq, List.forM_cons, forest]

/-- **A work list comes to the places of a tree in the order of the walk,** whatever is done on the way. -/
theorem drain_eq_walk (act : Occurrence → m Unit) (here : Occurrence) :
    nesting.drain act [here] = forM here.walk act := by
  rw [nesting.drain_eq_forM (forM_walk act), List.forM_cons, List.forM_nil]
  exact bind_pure _

end Occurrence

/-! ### Actions one after the other -/

/-- What handlers do: they keep a state and may fail. -/
abbrev Handling (State Error : Type) :=
  ExceptT Error (StateM State)

/-- How an action ends, and the state that it leaves. -/
def Handling.result {State Error : Type} (action : Handling State Error Unit) (start : State) :
    Except Error Unit × State :=
  action.run.run start

section

variable {State Error : Type}

/-- Some actions lead from one state to another: all of them go through, one after the other, or one fails
and those behind it are left out. What has been done to the state stays either way. -/
inductive InTurn : List (Handling State Error Unit) → State → Except Error Unit → State → Prop
  | done (state : State) : InTurn [] state (.ok ()) state
  | goes {action : Handling State Error Unit} {rest : List (Handling State Error Unit)}
      {start between last : State} {outcome : Except Error Unit} (goesOn : action.result start = (.ok (), between))
      (later : InTurn rest between outcome last) : InTurn (action :: rest) start outcome last
  | fails {action : Handling State Error Unit} {rest : List (Handling State Error Unit)} {start last : State}
      {error : Error} (ends : action.result start = (.error error, last)) :
      InTurn (action :: rest) start (.error error) last

/-- What comes behind an action is done from the state that it leaves, unless it fails. -/
theorem result_then (action rest : Handling State Error Unit) (start : State) :
    Handling.result (do action; rest) start =
      match action.result start with
      | (.ok (), between) => rest.result between
      | (.error error, last) => (.error error, last) := by
  unfold Handling.result
  rw [ExceptT.run_bind, StateT.run_bind]
  show (match action.run.run start with | (outcome, between) => _) = _
  rcases action.run.run start with ⟨_ | ⟨⟩, between⟩ <;> rfl

/-- One action and then others that are known to be done in turn. -/
theorem inTurn_cons_iff {action later : Handling State Error Unit} {rest : List (Handling State Error Unit)}
    {start last : State} {outcome : Except Error Unit}
    (known : ∀ between, InTurn rest between outcome last ↔ later.result between = (outcome, last)) :
    InTurn (action :: rest) start outcome last ↔
      Handling.result (do action; later) start = (outcome, last) := by
  rw [result_then]
  constructor
  · rintro (_ | ⟨goesOn, others⟩ | ends)
    · rw [goesOn]
      exact (known _).mp others
    · rw [ends]
  · rcases ran : action.result start with ⟨error | ⟨⟩, between⟩
    · rintro ⟨⟩
      exact .fails ran
    · exact fun goes => .goes ran ((known between).mpr goes)

/-- **A loop does its actions in turn.** -/
theorem inTurn_iff {Item : Type} {items : List Item} {act : Item → Handling State Error Unit}
    {start last : State} {outcome : Except Error Unit} :
    InTurn (items.map act) start outcome last ↔
      Handling.result (forM items act) start = (outcome, last) := by
  induction items generalizing start with
  | nil =>
    constructor
    · rintro ⟨⟩
      rfl
    · rintro ⟨⟩
      exact .done _
  | cons item rest ih => exact inTurn_cons_iff fun _ => ih

end

/-! ### Visits -/

/-- **A visit handles every node of a tree once and in order.** The walk of a part of a tree is a piece of
the walk of the tree: it numbers on from the root of the part, and comes to this root and to what stands
in it. A work list comes to the same places, whatever is done on the way. Handlers that keep state and may
fail are called in this order, up to the first that fails; and so a visit handles the root alone and then
visits the children from left to right. -/
theorem visit_exact {tree here : Occurrence} (mem : here ∈ tree.walk) :
    (here.walk <:+: tree.walk ∧
      here.walk.map Occurrence.pos = List.range' here.pos here.node.size ∧
      ∀ place, place ∈ here.walk ↔ place = here ∨ here.Encloses place) ∧
    (∀ {m : Type → Type} [Monad m] [LawfulMonad m] (act : Occurrence → m Unit),
      Occurrence.nesting.drain act [here] = forM here.walk act) ∧
    ∀ {State Error : Type} (visitor : Visitor (Handling State Error)) (start last : State)
      (outcome : Except Error Unit),
      (Handling.result (visitor.visit here) start = (outcome, last) ↔
        InTurn (here.walk.map visitor.handle) start outcome last) ∧
      (Handling.result (visitor.visit here) start = (outcome, last) ↔
        InTurn (visitor.handle here :: here.children.map visitor.visit) start outcome last) := by
  refine ⟨⟨Occurrence.walk_infix mem, here.walk_positions, fun _ => Occurrence.mem_walk_iff_encloses⟩,
    fun act => Occurrence.drain_eq_walk act here, fun visitor start last outcome => ⟨inTurn_iff.symm, ?_⟩⟩
  rw [visitor.visit_eq]
  exact (inTurn_cons_iff fun _ => inTurn_iff).symm

/-- A group with a symbol in its call, and a string and a symbol in its body. -/
def mixedLiterals : Node :=
  .block { method := "describe", arguments := [.symbol "a" none] }
    (some (.sequence [.string "b" none, .symbol "c" none] none)) none

/-- A visitor that writes down the calls and symbols, and fails at strings. -/
def stringRefuser : Visitor (Handling (List Nat) String) where
  handler?
    | .call | .symbol => some fun here => modify (· ++ [here.pos])
    | .string => some fun _ => throw "a string"
    | _ => none

/-- The body is visited up to its string; what has been written down before stays. -/
theorem visit_exact_mixedLiterals :
    ∃ body ∈ (⟨0, mixedLiterals⟩ : Occurrence).walk,
      body.walk.map Occurrence.pos = [3, 4, 5] ∧
      InTurn (body.walk.map stringRefuser.handle) [7] (.error "a string") [7] ∧
      InTurn (stringRefuser.handle ⟨0, mixedLiterals⟩ ::
        (⟨0, mixedLiterals⟩ : Occurrence).children.map stringRefuser.visit) [7] (.error "a string")
          [7, 1, 2] := by
  let body : Occurrence := ⟨3, .sequence [.string "b" none, .symbol "c" none] none⟩
  have inside : body ∈ (⟨0, mixedLiterals⟩ : Occurrence).walk :=
    Occurrence.child_mem_walk (List.mem_cons_of_mem _ List.mem_cons_self)
  obtain ⟨⟨-, numbers, -⟩, -, visits⟩ := visit_exact inside
  obtain ⟨-, -, whole⟩ := visit_exact (Occurrence.self_mem_walk ⟨0, mixedLiterals⟩)
  exact ⟨body, inside, numbers, (visits stringRefuser _ _ _).1.mp rfl,
    (whole stringRefuser _ _ _).2.mp rfl⟩

end LetShadow
