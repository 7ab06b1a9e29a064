/-
**Resolving a name is following a chain, and nothing beside the chain matters.**

* `Occurrence.next?` — where a resolution goes on: from a `let` call to its first argument, from a
  block to its call, from statements in a row to the first of them.
* `Occurrence.EndsAt` — the chain from a place ends at a place from which nothing goes on. **Every
  chain ends, and at one place only** (`exists_endsAt`, `EndsAt.unique`): each step goes to a child.
* `Node.Spells`, `Node.IsDynamic`, `Node.IsRejected` — **the three sorts of ends:** a literal, a
  value that only running the code would tell, and a shape that is not understood.
* `Retouch` — a change of something that stands beside the chain, or of a spelling that means the
  same. **No retouch changes an outcome** (`Retouch.resolvesLike`), so no number of them does.
-/

import Mathlib.Logic.Relation
import LetShadow.Name.Resolution
import LetShadow.Proofs.Tree.Places

namespace LetShadow

/-! ### The chain -/

namespace Occurrence

/-- Where a resolution goes on from a place. The first argument of a call is the child behind its
receiver. -/
def next? (here : Occurrence) : Option Occurrence :=
  match here.node with
  | .call invocation =>
    if invocation.method ∈ letMethods then here.children[invocation.receiver.toList.length]?
    else none
  | .block .. => here.children.head?
  | .sequence .. => here.children.head?
  | _ => none

/-- The chain from a place ends at a place from which nothing goes on. -/
inductive EndsAt : Occurrence → Occurrence → Prop
  | here {last : Occurrence} (stuck : last.next? = none) : EndsAt last last
  | onward {here next last : Occurrence} (step : here.next? = some next)
      (rest : EndsAt next last) : EndsAt here last

theorem mem_children_of_next? {here next : Occurrence} (step : here.next? = some next) :
    next ∈ here.children := by
  unfold next? at step
  split at step
  · split at step
    · exact List.mem_of_getElem? step
    · cases step
  · exact List.mem_of_head? step
  · exact List.mem_of_head? step
  · cases step

/-- **Every chain ends:** each of its steps goes to a smaller tree. -/
theorem exists_endsAt (here : Occurrence) : ∃ last, here.EndsAt last := by
  induction here using places_induction with
  | step here ih =>
    cases step : here.next? with
    | none => exact ⟨here, .here step⟩
    | some next =>
      obtain ⟨last, rest⟩ := ih next (mem_children_of_next? step)
      exact ⟨last, .onward step rest⟩

/-- **A chain ends at one place only.** -/
theorem EndsAt.unique {here first second : Occurrence} (left : here.EndsAt first)
    (right : here.EndsAt second) : first = second := by
  induction left with
  | here stuck =>
    cases right with
    | here => rfl
    | onward step => cases stuck.symm.trans step
  | onward step _ ih =>
    cases right with
    | here stuck => cases stuck.symm.trans step
    | onward other rest =>
      obtain rfl := Option.some.inj (step.symm.trans other)
      exact ih rest

/-! ### Resolving follows the chain -/

end Occurrence

namespace Node

/-- A literal of a value. -/
def Spells (node : Node) (value : String) : Prop :=
  ∃ place, node = .symbol value place ∨ node = .string value place

/-- A value that only running the code would tell: a local variable, what a method other than `let`
returns, or a `let` call without arguments. -/
inductive IsDynamic : Node → Prop
  | localVariable (name : String) (place : Option Location) : IsDynamic (.localVariable name place)
  | otherCall {invocation : Call Node} (other : invocation.method ∉ letMethods) :
      IsDynamic (.call invocation)
  | noArgument {invocation : Call Node} (declares : invocation.method ∈ letMethods)
      (none : invocation.arguments = []) : IsDynamic (.call invocation)

/-- A shape that is not understood: a node that is not interpreted, or no statement at all. -/
inductive IsRejected : Node → Prop
  | other (kind : String) (children : List Node) (text : Option String)
      (place : Option Location) : IsRejected (.other kind children text place)
  | noStatement (place : Option Location) : IsRejected (.sequence [] place)

theorem resolveAt_call (pos : Nat) (invocation : Call Node) :
    (Node.call invocation).resolveAt pos =
      match invocation.arguments with
      | [] => .ok .indeterminate
      | first :: _ =>
        if invocation.method ∈ letMethods then
          first.resolveAt (pos + 1 + receiverSize invocation.receiver)
        else .ok .indeterminate := by
  obtain ⟨method, _ | ⟨first, rest⟩, receiver, place⟩ := invocation
  · rfl
  · rw [resolveAt]
    simp only [List.contains_iff_mem]

/-- A block gives the name that its call gives. -/
theorem resolveAt_block (pos : Nat) (invocation : Call Node) (body : Option Node)
    (place : Option Location) :
    (Node.block invocation body place).resolveAt pos =
      (Node.call invocation).resolveAt (pos + 1) := by
  obtain ⟨method, _ | ⟨first, rest⟩, receiver, location⟩ := invocation
  · rfl
  · rw [resolveAt, resolveAt]

end Node

namespace Occurrence

/-- From a `let` call the chain goes to the first argument, behind the nodes of the receiver. -/
theorem next?_call (pos : Nat) (invocation : Call Node) :
    (⟨pos, .call invocation⟩ : Occurrence).next? =
      if invocation.method ∈ letMethods then
        invocation.arguments.head?.map fun first =>
          ⟨pos + 1 + Node.receiverSize invocation.receiver, first⟩
      else none := by
  obtain ⟨method, arguments, receiver, place⟩ := invocation
  cases receiver <;> cases arguments <;> rfl

/-- **A step of the chain keeps the outcome.** -/
theorem resolve_of_next? {here next : Occurrence} (step : here.next? = some next) :
    here.resolve = next.resolve := by
  obtain ⟨pos, node⟩ := here
  cases node with
  | call invocation =>
    show (Node.call invocation).resolveAt pos = _
    rw [Node.resolveAt_call]
    rw [next?_call] at step
    split at step
    · rename_i declares
      obtain ⟨first, head, rfl⟩ := Option.map_eq_some_iff.mp step
      obtain ⟨rest, arguments⟩ := List.head?_eq_some_iff.mp head
      rw [arguments]
      exact if_pos declares
    · cases step
  | block invocation body place =>
    obtain rfl : ⟨pos + 1, .call invocation⟩ = next := Option.some.inj step
    exact Node.resolveAt_block pos invocation body place
  | sequence statements place =>
    cases statements with
    | nil => cases step
    | cons first rest =>
      obtain rfl : ⟨pos + 1, first⟩ = next := Option.some.inj step
      show (Node.sequence (first :: rest) place).resolveAt pos = _
      rw [Node.resolveAt]
      rfl
  | _ => cases step

/-- **A chain keeps the outcome to its end.** -/
theorem EndsAt.resolve_eq {here last : Occurrence} (chain : here.EndsAt last) :
    here.resolve = last.resolve := by
  induction chain with
  | here => rfl
  | onward step _ ih => exact (resolve_of_next? step).trans ih

theorem resolve_of_spells {last : Occurrence} {value : String} (literal : last.node.Spells value) :
    last.resolve = .ok (.known value) := by
  obtain ⟨pos, node⟩ := last
  obtain ⟨place, rfl | rfl⟩ := literal <;> rfl

theorem resolve_of_isDynamic {last : Occurrence} (dynamic : last.node.IsDynamic) :
    last.resolve = .ok .indeterminate := by
  obtain ⟨pos, node⟩ := last
  cases dynamic with
  | localVariable => rfl
  | otherCall other =>
    show (Node.call _).resolveAt pos = _
    rw [Node.resolveAt_call]
    split
    · rfl
    · exact if_neg other
  | noArgument declares none =>
    show (Node.call _).resolveAt pos = _
    rw [Node.resolveAt_call, none]

theorem resolve_of_isRejected {last : Occurrence} (rejected : last.node.IsRejected) :
    last.resolve = .error ⟨last⟩ := by
  obtain ⟨pos, node⟩ := last
  cases rejected <;> rfl

/-- **Where nothing goes on there is an end of one of the three sorts.** -/
theorem sort_of_stuck {last : Occurrence} (stuck : last.next? = none) :
    (∃ value, last.node.Spells value) ∨ last.node.IsDynamic ∨ last.node.IsRejected := by
  obtain ⟨pos, node⟩ := last
  cases node with
  | call invocation =>
    right; left
    by_cases declares : invocation.method ∈ letMethods
    · rw [next?_call, if_pos declares, Option.map_eq_none_iff, List.head?_eq_none_iff] at stuck
      exact .noArgument declares stuck
    · exact .otherCall declares
  | block => cases stuck
  | sequence statements place =>
    cases statements with
    | nil => exact .inr (.inr (.noStatement place))
    | cons => cases stuck
  | symbol value place => exact .inl ⟨value, place, .inl rfl⟩
  | string value place => exact .inl ⟨value, place, .inr rfl⟩
  | localVariable name place => exact .inr (.inl (.localVariable name place))
  | other kind children text place => exact .inr (.inr (.other kind children text place))

/-- **Each sort of end has its own outcome.** -/
theorem resolve_iff_of_stuck {last : Occurrence} (stuck : last.next? = none) :
    (∀ value, last.resolve = .ok (.known value) ↔ last.node.Spells value) ∧
      (last.resolve = .ok .indeterminate ↔ last.node.IsDynamic) ∧
      ∀ error, last.resolve = .error error ↔ last.node.IsRejected ∧ error.rejected = last := by
  refine ⟨fun value => ⟨fun found => ?_, resolve_of_spells⟩,
    ⟨fun found => ?_, resolve_of_isDynamic⟩, fun error => ⟨fun found => ?_, ?_⟩⟩
  · rcases sort_of_stuck stuck with ⟨other, literal⟩ | dynamic | rejected
    · cases found.symm.trans (resolve_of_spells literal)
      exact literal
    · cases found.symm.trans (resolve_of_isDynamic dynamic)
    · cases found.symm.trans (resolve_of_isRejected rejected)
  · rcases sort_of_stuck stuck with ⟨other, literal⟩ | dynamic | rejected
    · cases found.symm.trans (resolve_of_spells literal)
    · exact dynamic
    · cases found.symm.trans (resolve_of_isRejected rejected)
  · rcases sort_of_stuck stuck with ⟨other, literal⟩ | dynamic | rejected
    · cases found.symm.trans (resolve_of_spells literal)
    · cases found.symm.trans (resolve_of_isDynamic dynamic)
    · cases found.symm.trans (resolve_of_isRejected rejected)
      exact ⟨rejected, rfl⟩
  · rintro ⟨rejected, same⟩
    obtain ⟨node⟩ := error
    obtain rfl : node = last := same
    exact resolve_of_isRejected rejected

theorem EndsAt.stuck {here last : Occurrence} (chain : here.EndsAt last) : last.next? = none := by
  induction chain with
  | here stuck => exact stuck
  | onward _ _ ih => exact ih

end Occurrence

/-! ### Retouches -/

/-- A node with another place in its source. -/
def Node.relocate (place : Option Location) : Node → Node
  | .call invocation => .call { invocation with location := place }
  | .block invocation body _ => .block invocation body place
  | .sequence statements _ => .sequence statements place
  | .symbol value _ => .symbol value place
  | .string value _ => .string value place
  | .localVariable name _ => .localVariable name place
  | .other kind children text _ => .other kind children text place

/-- One change that a resolution should not notice, at a node or somewhere below it. What may be
exchanged as a whole — a receiver, a body, all but the first of several — may be changed inside by
that; below the other nodes a change goes on. -/
inductive Retouch : Node → Node → Prop
  | place (node : Node) (place : Option Location) : Retouch node (node.relocate place)
  | body (invocation : Call Node) (before after : Option Node) (place : Option Location) :
    Retouch (.block invocation before place) (.block invocation after place)
  | receiver (invocation : Call Node) (receiver : Option Node) :
    Retouch (.call invocation) (.call { invocation with receiver })
  | laterArguments (method : String) (first : Node) (before after : List Node)
      (receiver : Option Node) (place : Option Location) :
    Retouch (.call ⟨method, first :: before, receiver, place⟩)
      (.call ⟨method, first :: after, receiver, place⟩)
  | laterStatements (first : Node) (before after : List Node) (place : Option Location) :
    Retouch (.sequence (first :: before) place) (.sequence (first :: after) place)
  | letMethod {invocation : Call Node} {method : String} (before : invocation.method ∈ letMethods)
      (after : method ∈ letMethods) :
    Retouch (.call invocation) (.call { invocation with method })
  | asString (value : String) (place : Option Location) :
    Retouch (.symbol value place) (.string value place)
  | inCall {before after : Call Node} (body : Option Node) (place : Option Location)
      (change : Retouch (.call before) (.call after)) :
    Retouch (.block before body place) (.block after body place)
  | inArgument {before after : Node} (method : String) (rest : List Node)
      (receiver : Option Node) (place : Option Location) (change : Retouch before after) :
    Retouch (.call ⟨method, before :: rest, receiver, place⟩)
      (.call ⟨method, after :: rest, receiver, place⟩)
  | inStatement {before after : Node} (rest : List Node) (place : Option Location)
      (change : Retouch before after) :
    Retouch (.sequence (before :: rest) place) (.sequence (after :: rest) place)
  | inOther {before after : Node} (kind : String) (earlier later : List Node)
      (text : Option String) (place : Option Location) (change : Retouch before after) :
    Retouch (.other kind (earlier ++ before :: later) text place)
      (.other kind (earlier ++ after :: later) text place)

/-- Two outcomes concur: they are the same name, or both reject a node, and the two nodes are called
the same in a report and differ by retouches only. -/
inductive Concur : Except Unresolvable Name → Except Unresolvable Name → Prop
  | named (name : Name) : Concur (.ok name) (.ok name)
  | rejected {first second : Unresolvable}
      (called : first.rejected.node.description = second.rejected.node.description)
      (retouched : Relation.EqvGen Retouch first.rejected.node second.rejected.node) :
    Concur (.error first) (.error second)

namespace Concur

variable {first second third : Except Unresolvable Name}

theorem symm (concur : Concur first second) : Concur second first := by
  cases concur with
  | named name => exact .named name
  | rejected called retouched => exact .rejected called.symm (retouched.symm _ _)

theorem trans (left : Concur first second) (right : Concur second third) : Concur first third := by
  cases left with
  | named name => exact right
  | rejected called retouched =>
    cases right with
    | rejected calledToo retouchedToo =>
      exact .rejected (called.trans calledToo) (retouched.trans _ _ _ retouchedToo)

end Concur

/-- Two nodes resolve alike, wherever each of them stands. -/
def Node.ResolvesLike (first second : Node) : Prop :=
  ∀ pos behind, Concur (first.resolveAt pos) (second.resolveAt behind)

namespace Node.ResolvesLike

/-- Calls resolve alike if both declare or both do not, and their first arguments do. -/
theorem calls {first second : Call Node}
    (declare : first.method ∈ letMethods ↔ second.method ∈ letMethods)
    (heads : Option.Rel ResolvesLike first.arguments.head? second.arguments.head?) :
    (Node.call first).ResolvesLike (.call second) := by
  intro pos behind
  rw [resolveAt_call, resolveAt_call]
  obtain ⟨method, arguments, receiver, place⟩ := first
  obtain ⟨other, instead, receiverToo, elsewhere⟩ := second
  cases arguments with
  | nil =>
    cases instead with
    | nil => exact .named _
    | cons => cases heads
  | cons one rest =>
    cases instead with
    | nil => cases heads
    | cons two others =>
      cases heads with
      | some alike =>
        simp only [declare]
        split
        · exact alike _ _
        · exact .named _

/-- Blocks resolve alike if their calls do, whatever their bodies. -/
theorem blocks {first second : Call Node} (calls : (Node.call first).ResolvesLike (.call second))
    (body instead : Option Node) (place elsewhere : Option Location) :
    (Node.block first body place).ResolvesLike (.block second instead elsewhere) := by
  intro pos behind
  rw [resolveAt_block, resolveAt_block]
  exact calls _ _

/-- Rows resolve alike if their first statements do. -/
theorem rows {first second : Node} (heads : first.ResolvesLike second) (rest others : List Node)
    (place elsewhere : Option Location) :
    (Node.sequence (first :: rest) place).ResolvesLike (.sequence (second :: others) elsewhere) := by
  intro pos behind
  rw [resolveAt, resolveAt]
  exact heads _ _

/-- Nodes that are both rejected resolve alike. -/
theorem of_isRejected {first second : Node} (left : first.IsRejected) (right : second.IsRejected)
    (called : first.description = second.description)
    (retouched : Relation.EqvGen Retouch first second) : first.ResolvesLike second := by
  intro pos behind
  have rejects : (⟨pos, first⟩ : Occurrence).resolve = .error ⟨⟨pos, first⟩⟩ :=
    Occurrence.resolve_of_isRejected left
  have rejectsToo : (⟨behind, second⟩ : Occurrence).resolve = .error ⟨⟨behind, second⟩⟩ :=
    Occurrence.resolve_of_isRejected right
  show Concur (⟨pos, first⟩ : Occurrence).resolve (⟨behind, second⟩ : Occurrence).resolve
  rw [rejects, rejectsToo]
  exact .rejected called retouched

/-- **Where a node stands does not matter for its name.** -/
theorem refl (node : Node) : node.ResolvesLike node := by
  induction node using children_induction with
  | step node ih =>
    cases node with
    | call invocation =>
      refine calls Iff.rfl ?_
      cases head : invocation.arguments.head? with
      | none => exact .none
      | some first =>
        exact .some (ih first (List.mem_append_right _ (List.mem_of_head? head)))
    | block invocation body place => exact blocks (ih _ List.mem_cons_self) body body place place
    | sequence statements place =>
      cases statements with
      | nil => exact of_isRejected (.noStatement place) (.noStatement place) rfl (.refl _)
      | cons first rest => exact rows (ih first List.mem_cons_self) rest rest place place
    | other kind children text place =>
      exact of_isRejected (.other ..) (.other ..) rfl (.refl _)
    | _ => exact fun _ _ => .named _

theorem refl_heads (nodes : List Node) : Option.Rel ResolvesLike nodes.head? nodes.head? := by
  cases nodes with
  | nil => exact .none
  | cons first _ => exact .some (refl first)

end Node.ResolvesLike

/-- **One retouch changes no outcome.** -/
theorem Retouch.resolvesLike {first second : Node} (change : Retouch first second) :
    first.ResolvesLike second := by
  induction change with
  | place node place =>
    cases node with
    | call invocation => exact .calls Iff.rfl (Node.ResolvesLike.refl_heads _)
    | block invocation body here => exact .blocks (.refl _) body body here place
    | sequence statements here =>
      cases statements with
      | nil => exact .of_isRejected (.noStatement here) (.noStatement place) rfl (.rel _ _ (.place _ _))
      | cons first rest => exact .rows (.refl first) rest rest here place
    | other => exact .of_isRejected (.other ..) (.other ..) rfl (.rel _ _ (.place _ _))
    | _ => exact fun _ _ => .named _
  | body invocation before after place => exact .blocks (.refl _) before after place place
  | receiver invocation receiver => exact .calls Iff.rfl (Node.ResolvesLike.refl_heads _)
  | laterArguments method first => exact .calls Iff.rfl (.some (.refl first))
  | laterStatements first before after place => exact .rows (.refl first) before after place place
  | letMethod before after => exact .calls (iff_of_true before after) (Node.ResolvesLike.refl_heads _)
  | asString value place => exact fun _ _ => .named _
  | inCall body place _ ih => exact .blocks ih body body place place
  | inArgument method rest receiver place _ ih => exact .calls Iff.rfl (.some ih)
  | inStatement rest place _ ih => exact .rows ih rest rest place place
  | inOther kind earlier later text place change =>
    exact .of_isRejected (.other ..) (.other ..) rfl
      (.rel _ _ (.inOther kind earlier later text place change))

/-- **No number of retouches changes an outcome.** -/
theorem resolvesLike_of_retouches {first second : Node}
    (changes : Relation.EqvGen Retouch first second) : first.ResolvesLike second := by
  induction changes with
  | rel _ _ change => exact change.resolvesLike
  | refl node => exact .refl node
  | symm _ _ _ ih => exact fun pos behind => (ih behind pos).symm
  | trans _ _ _ _ _ left right => exact fun pos behind => (left pos 0).trans (right 0 behind)

/-! ### The outcome -/

/-- **The outcome of a resolution is told by the end of its chain.** The chain ends, at one place
only. A literal there gives its value; for a value that only running the code would tell the name is
indeterminate; any other end is rejected, itself and no other node. Nothing beside the chain
matters, nor which `let` and which kind of literal it is: retouched nodes have the same outcome,
wherever they stand. -/
theorem resolve_chain_outcome (here : Occurrence) :
    (∃ last, here.EndsAt last ∧ (∀ other, here.EndsAt other → other = last) ∧
      (∀ value, here.resolve = .ok (.known value) ↔ last.node.Spells value) ∧
      (here.resolve = .ok .indeterminate ↔ last.node.IsDynamic) ∧
      ∀ error, here.resolve = .error error ↔ last.node.IsRejected ∧ error.rejected = last) ∧
    ∀ retouched : Occurrence, Relation.EqvGen Retouch here.node retouched.node →
      Concur here.resolve retouched.resolve := by
  refine ⟨?_, fun retouched changes => resolvesLike_of_retouches changes here.pos retouched.pos⟩
  obtain ⟨last, chain⟩ := here.exists_endsAt
  refine ⟨last, chain, fun other chainToo => chainToo.unique chain, ?_⟩
  rw [chain.resolve_eq]
  exact Occurrence.resolve_iff_of_stuck chain.stuck

/-- A declaration whose name, a symbol, stands in parentheses. -/
def inParentheses : Node :=
  .block { method := "let", arguments := [.sequence [.symbol "a" (some ⟨1, 5⟩)] none] } none none

/-- The same with `let!`, a string and a body, called on a constant. -/
def withBody : Node :=
  .block { method := "let!", arguments := [.sequence [.string "a" (some ⟨1, 5⟩)] none],
           receiver := some (.other "const" [] (some "RSpec") none) }
    (some (.localVariable "b" none)) none

/-- Four retouches lead from the one to the other, and both give the name at the end of the chain. -/
theorem resolve_chain_outcome_inParentheses :
    Relation.EqvGen Retouch inParentheses withBody ∧
      (⟨0, inParentheses⟩ : Occurrence).EndsAt ⟨3, .symbol "a" (some ⟨1, 5⟩)⟩ ∧
      (⟨0, inParentheses⟩ : Occurrence).resolve = .ok (.known "a") ∧
      Concur (⟨0, inParentheses⟩ : Occurrence).resolve (⟨7, withBody⟩ : Occurrence).resolve := by
  let row (name : Node) : Node := .sequence [name] none
  let plain : Call Node := { method := "let", arguments := [row (.symbol "a" (some ⟨1, 5⟩))] }
  let banged : Call Node := { plain with method := "let!" }
  let spelled : Call Node := { banged with arguments := [row (.string "a" (some ⟨1, 5⟩))] }
  let called : Call Node := { spelled with receiver := some (.other "const" [] (some "RSpec") none) }
  have method : Retouch (.call plain) (.call banged) := .letMethod (by decide) (by decide)
  have spelling : Retouch (.call banged) (.call spelled) :=
    .inArgument "let!" [] none none (.inStatement [] none (.asString "a" _))
  have receiver : Retouch (.call spelled) (.call called) := .receiver spelled _
  have body : Retouch (.block called none none) withBody := .body called _ _ none
  have changes : Relation.EqvGen Retouch inParentheses withBody :=
    ((.rel _ _ (.inCall none none method) : Relation.EqvGen Retouch _ _).trans _ _ _
      (.rel _ _ (.inCall none none spelling))).trans _ _ _
      ((.rel _ _ (.inCall none none receiver) : Relation.EqvGen Retouch _ _).trans _ _ _
        (.rel _ _ body))
  have chain : (⟨0, inParentheses⟩ : Occurrence).EndsAt ⟨3, .symbol "a" (some ⟨1, 5⟩)⟩ :=
    .onward rfl (.onward rfl (.onward rfl (.here rfl)))
  obtain ⟨⟨last, -, only, spells, -⟩, alike⟩ := resolve_chain_outcome ⟨0, inParentheses⟩
  obtain rfl := only _ chain
  exact ⟨changes, chain, (spells "a").mpr ⟨_, .inl rfl⟩, alike _ changes⟩

end LetShadow
