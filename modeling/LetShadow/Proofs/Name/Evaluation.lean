/-
**A known name is what the name expression always gives.**

What an expression gives when it is run is not known before, but some expressions give one value
only. A literal gives itself, and a row of statements what one of them gives: the first for the
resolution of names, the last when the code is run. A `let` call on no receiver passes its first
argument on. Any other call, a local variable or a node that is not interpreted may give anything.

* `Node.MayGive` — what an expression may give, for either reading of rows.
* `Node.AlwaysGives` — it gives a text, and nothing else.
* `resolve_eq_known_iff` — **the resolution gives a name exactly to the expressions that always give
  it,** as long as the rows on its way are read by their first statements and no `let` call on a
  receiver stands there.
* `declaration_known_iff_alwaysGives` — so the name of a declaration is no guess: where each row on
  the way is a single statement, it is what running the code gives.
* `names_guessed` — in a row of several statements it need not be, nor behind a call on a receiver.
-/

import LetShadow.Group.Basic
import LetShadow.Proofs.Name.Chain

namespace LetShadow

/-! ### What an expression may give -/

/-- What running an expression has given: a symbol or a string, which are both told by their text, or
any other object. -/
inductive Given where
  | text (value : String)
  | object
deriving DecidableEq, Repr

/-- What an expression may give when it is run. The value of a row of statements is that of the one
that `speaks` for it, and an empty row gives `nil`. -/
inductive Node.MayGive (speaks : List Node → Option Node) : Node → Given → Prop
  | symbol (value : String) (place : Option Location) :
      MayGive speaks (.symbol value place) (.text value)
  | string (value : String) (place : Option Location) :
      MayGive speaks (.string value place) (.text value)
  | row {statements : List Node} {statement : Node} {given : Given} (place : Option Location)
      (spoken : speaks statements = some statement) (gives : MayGive speaks statement given) :
      MayGive speaks (.sequence statements place) given
  | emptyRow {statements : List Node} (place : Option Location) (silent : speaks statements = none) :
      MayGive speaks (.sequence statements place) .object
  | letCall {invocation : Call Node} {argument : Node} {given : Given}
      (declares : invocation.declaresLet = true) (first : invocation.arguments.head? = some argument)
      (gives : MayGive speaks argument given) : MayGive speaks (.call invocation) given
  | otherCall {invocation : Call Node} (given : Given)
      (other : invocation.declaresLet = false ∨ invocation.arguments = []) :
      MayGive speaks (.call invocation) given
  | block {invocation : Call Node} {given : Given} (body : Option Node) (place : Option Location)
      (gives : MayGive speaks (.call invocation) given) :
      MayGive speaks (.block invocation body place) given
  | localVariable (name : String) (place : Option Location) (given : Given) :
      MayGive speaks (.localVariable name place) given
  | other (kind : String) (children : List Node) (text : Option String) (place : Option Location)
      (given : Given) : MayGive speaks (.other kind children text place) given

/-- An expression gives one text and nothing else. -/
def Node.AlwaysGives (speaks : List Node → Option Node) (node : Node) (value : String) : Prop :=
  ∀ given, node.MayGive speaks given ↔ given = .text value

/-- A `let` call on a receiver. -/
def Node.IsReceivedLet : Node → Prop
  | .call invocation => invocation.method ∈ letMethods ∧ invocation.receiver ≠ none
  | _ => False

namespace Node

variable {speaks : List Node → Option Node}

/-- What may give an object does not always give a text. -/
theorem not_alwaysGives {node : Node} {value : String} (gives : node.MayGive speaks .object) :
    ¬ node.AlwaysGives speaks value := by
  intro always
  cases (always .object).mp gives

theorem alwaysGives_iff_of_spells {node : Node} {value other : String} (literal : node.Spells value) :
    node.AlwaysGives speaks other ↔ value = other := by
  have only (given : Given) : node.MayGive speaks given ↔ given = .text value := by
    obtain ⟨place, rfl | rfl⟩ := literal
    · refine ⟨fun gives => ?_, fun same => same ▸ .symbol value place⟩
      cases gives
      rfl
    · refine ⟨fun gives => ?_, fun same => same ▸ .string value place⟩
      cases gives
      rfl
  constructor
  · intro always
    cases (always (.text value)).mp ((only _).mpr rfl)
    rfl
  · rintro rfl
    exact only

end Node

namespace Occurrence

variable {speaks : List Node → Option Node} {here next : Occurrence}

/-- The chain of a resolution comes by a place. -/
def ComesBy : Occurrence → Occurrence → Prop :=
  Relation.ReflTransGen fun here next => here.next? = some next

theorem comesBy_iff {place : Occurrence} :
    here.ComesBy place ↔ place = here ∨ ∃ next, here.next? = some next ∧ next.ComesBy place := by
  rw [ComesBy, Relation.ReflTransGen.cases_head_iff]
  exact or_congr_left eq_comm

/-- The chain from a place comes by no `let` call on a receiver. -/
def IsUnreceived (here : Occurrence) : Prop :=
  ∀ place, here.ComesBy place → ¬ place.node.IsReceivedLet

/-- Each row that the chain from a place comes by is spoken for by its first statement, if it has
any. -/
def FirstSpeaks (speaks : List Node → Option Node) (here : Occurrence) : Prop :=
  ∀ place, here.ComesBy place → ∀ statements location,
    place.node = .sequence statements location → speaks statements = statements.head?

/-- A `let` call that is on no receiver declares. -/
theorem declaresLet_of_unreceived {invocation : Call Node} (method : invocation.method ∈ letMethods)
    (unreceived : ¬ (Node.call invocation).IsReceivedLet) : invocation.declaresLet = true := by
  have none : invocation.receiver = none := not_not.mp fun some => unreceived ⟨method, some⟩
  rw [Call.declaresLet, none]
  exact List.contains_iff_mem.mpr method

/-- **A step of the chain keeps what may be given.** -/
theorem mayGive_of_next? (step : here.next? = some next) (unreceived : ¬ here.node.IsReceivedLet)
    (first : ∀ statements location, here.node = .sequence statements location →
      speaks statements = statements.head?) (given : Given) :
    here.node.MayGive speaks given ↔ next.node.MayGive speaks given := by
  obtain ⟨pos, node⟩ := here
  cases node with
  | call invocation =>
    rw [next?_call] at step
    split at step
    · rename_i method
      have declares := declaresLet_of_unreceived method unreceived
      obtain ⟨argument, head, rfl⟩ := Option.map_eq_some_iff.mp step
      refine ⟨fun gives => ?_, fun gives => .letCall declares head gives⟩
      cases gives with
      | letCall _ found gives =>
        obtain rfl := Option.some.inj (head.symm.trans found)
        exact gives
      | otherCall _ other =>
        rcases other with other | none
        · cases declares.symm.trans other
        · rw [none] at head
          cases head
    · cases step
  | block invocation body place =>
    obtain rfl : ⟨pos + 1, .call invocation⟩ = next := Option.some.inj step
    refine ⟨fun gives => ?_, fun gives => .block body place gives⟩
    cases gives with
    | block _ _ gives => exact gives
  | sequence statements place =>
    cases statements with
    | nil => cases step
    | cons statement rest =>
      obtain rfl : ⟨pos + 1, statement⟩ = next := Option.some.inj step
      have spoken := first _ _ rfl
      refine ⟨fun gives => ?_, fun gives => .row place spoken gives⟩
      cases gives with
      | row _ found gives =>
        obtain rfl := Option.some.inj (spoken.symm.trans found)
        exact gives
      | emptyRow _ silent => cases spoken.symm.trans silent
  | _ => cases step

/-- **The resolution gives a name exactly to the expressions that always give it.** -/
theorem resolve_eq_known_iff (unreceived : here.IsUnreceived) (first : here.FirstSpeaks speaks)
    (value : String) :
    here.resolve = .ok (.known value) ↔ here.node.AlwaysGives speaks value := by
  induction here using places_induction with
  | step here ih =>
    have here_first := first here .refl
    cases step : here.next? with
    | some next =>
      have onward {place : Occurrence} (comes : next.ComesBy place) : here.ComesBy place :=
        .head step comes
      rw [resolve_of_next? step, ih next (mem_children_of_next? step)
        (fun place comes => unreceived place (onward comes))
        (fun place comes => first place (onward comes))]
      simp only [Node.AlwaysGives, mayGive_of_next? step (unreceived here .refl) here_first]
    | none =>
      rcases sort_of_stuck step with ⟨other, literal⟩ | dynamic | rejected
      · rw [resolve_of_spells literal, Node.alwaysGives_iff_of_spells literal]
        simp only [Except.ok.injEq, Name.known.injEq]
      · rw [resolve_of_isDynamic dynamic]
        refine iff_of_false nofun (Node.not_alwaysGives ?_)
        obtain ⟨pos, node⟩ := here
        cases dynamic with
        | localVariable name place => exact .localVariable name place .object
        | otherCall other =>
          refine .otherCall .object (.inl ?_)
          rw [Call.declaresLet, List.contains_eq_mem, decide_eq_false other, Bool.and_false]
        | noArgument _ none => exact .otherCall .object (.inr none)
      · rw [resolve_of_isRejected rejected]
        refine iff_of_false nofun (Node.not_alwaysGives ?_)
        obtain ⟨pos, node⟩ := here
        cases rejected with
        | other kind children text place => exact .other kind children text place .object
        | noStatement place => exact .emptyRow place (here_first _ _ rfl)

/-- A place is the name expression of a `let` declaration, the first argument of its call. -/
inductive Names : Occurrence → Occurrence → Prop
  | call {pos : Nat} {invocation : Call Node} {argument : Node} {others : List Node}
      (declares : invocation.declaresLet = true)
      (arguments : invocation.arguments = argument :: others) :
      Names ⟨pos + 1, argument⟩ ⟨pos, .call invocation⟩
  | block {pos : Nat} {invocation : Call Node} {argument : Node} {others : List Node}
      (declares : invocation.declaresLet = true)
      (arguments : invocation.arguments = argument :: others) (body : Option Node)
      (place : Option Location) :
      Names ⟨pos + 2, argument⟩ ⟨pos, .block invocation body place⟩

/-- A declaration has the name that its name expression has. -/
theorem Names.resolve_eq {expression declaration : Occurrence}
    (names : expression.Names declaration) : declaration.resolve = expression.resolve := by
  have called {pos : Nat} {invocation : Call Node} {argument : Node} {others : List Node}
      (declares : invocation.declaresLet = true)
      (arguments : invocation.arguments = argument :: others) :
      (⟨pos, .call invocation⟩ : Occurrence).next? = some ⟨pos + 1, argument⟩ := by
    obtain ⟨receiver, method⟩ := Bool.and_eq_true_iff.mp declares
    rw [next?_call, if_pos (List.contains_iff_mem.mp method), arguments,
      Option.isNone_iff_eq_none.mp receiver]
    rfl
  cases names with
  | call declares arguments => exact resolve_of_next? (called declares arguments)
  | block declares arguments body place =>
    exact (resolve_of_next? rfl).trans (resolve_of_next? (called declares arguments))

end Occurrence

/-! ### Names of declarations -/

open Occurrence

/-- **The name of a declaration is no guess.** Let no `let` call on a receiver stand on the way from
its name expression. It is known exactly if the expression always gives it when rows are read by
their first statements. Where each row on the way has one statement at most, it is known exactly if
running the code always gives it. In all other cases it is indeterminate or rejected. -/
theorem declaration_known_iff_alwaysGives {expression declaration : Occurrence}
    (names : expression.Names declaration) (unreceived : expression.IsUnreceived) :
    (∀ value, declaration.resolve = .ok (.known value) ↔
      expression.node.AlwaysGives List.head? value) ∧
    ((∀ place, expression.ComesBy place → ∀ statements location,
        place.node = .sequence statements location → statements.length ≤ 1) →
      ∀ value, declaration.resolve = .ok (.known value) ↔
        expression.node.AlwaysGives List.getLast? value) ∧
    ((∀ value, ¬ expression.node.AlwaysGives List.head? value) →
      declaration.resolve = .ok .indeterminate ∨ ∃ error, declaration.resolve = .error error) := by
  rw [names.resolve_eq]
  have first : expression.FirstSpeaks List.head? := fun _ _ _ _ _ => rfl
  have known := resolve_eq_known_iff unreceived first
  refine ⟨known, fun single value => ?_, fun never => ?_⟩
  · refine resolve_eq_known_iff unreceived ?_ value
    intro place comes statements location row
    match statements, single place comes statements location row with
    | [], _ => rfl
    | [_], _ => rfl
  · rcases outcome : expression.resolve with error | ⟨value⟩ | _
    · exact .inr ⟨error, rfl⟩
    · exact absurd ((known value).mp outcome) (never value)
    · exact .inl rfl

/-- A declaration with a block whose name, a string, stands in a `let` call in parentheses. -/
def namedByCall : Node :=
  .block { method := "let!",
           arguments := [.sequence [.call { method := "let", arguments := [.string "a" none] }] none] }
    none none

/-- Running the name expression of `namedByCall` always gives the name that the declaration has. -/
theorem declaration_known_namedByCall :
    ∃ expression : Occurrence, expression.Names ⟨0, namedByCall⟩ ∧ expression.IsUnreceived ∧
      (⟨0, namedByCall⟩ : Occurrence).resolve = .ok (.known "a") ∧
      expression.node.AlwaysGives List.getLast? "a" := by
  let call : Node := .call { method := "let", arguments := [.string "a" none] }
  have chain (place : Occurrence) (comes : (⟨2, .sequence [call] none⟩ : Occurrence).ComesBy place) :
      place = ⟨2, .sequence [call] none⟩ ∨ place = ⟨3, call⟩ ∨ place = ⟨4, .string "a" none⟩ := by
    rcases comesBy_iff.mp comes with rfl | ⟨_, ⟨⟩, comes⟩
    · exact .inl rfl
    · rcases comesBy_iff.mp comes with rfl | ⟨_, ⟨⟩, comes⟩
      · exact .inr (.inl rfl)
      · rcases comesBy_iff.mp comes with rfl | ⟨_, ⟨⟩, _⟩
        exact .inr (.inr rfl)
  have names : Names ⟨2, .sequence [call] none⟩ ⟨0, namedByCall⟩ := .block rfl rfl none none
  have unreceived : IsUnreceived ⟨2, .sequence [call] none⟩ := by
    intro place comes
    rcases chain place comes with rfl | rfl | rfl
    · exact id
    · exact fun received => received.2 rfl
    · exact id
  have known : (⟨0, namedByCall⟩ : Occurrence).resolve = .ok (.known "a") := rfl
  refine ⟨_, names, unreceived, known, ?_⟩
  refine ((declaration_known_iff_alwaysGives names unreceived).2.1 ?_ "a").mp known
  intro place comes statements location row
  rcases chain place comes with rfl | rfl | rfl
  · cases row
    exact le_rfl
  · cases row
  · cases row

/-- A declaration whose name expression is a row of two symbols. -/
def namedByRow : Node :=
  .call { method := "let", arguments := [.sequence [.symbol "b" none, .symbol "a" none] none] }

/-- A declaration whose name expression is a call of `let` on an object. -/
def namedByRegistry : Node :=
  .call { method := "let",
          arguments := [.call { method := "let", arguments := [.symbol "a" none],
                                receiver := some (.call { method := "registry" }) }] }

/-- **Other names may be guesses:** that of `namedByRow` is known to be `b`, but running its name
expression always gives `a`, and that of `namedByRegistry` is known, but may be anything. -/
theorem names_guessed :
    (∃ expression : Occurrence, expression.Names ⟨0, namedByRow⟩ ∧
      (⟨0, namedByRow⟩ : Occurrence).resolve = .ok (.known "b") ∧
      expression.node.AlwaysGives List.getLast? "a") ∧
    (∃ expression : Occurrence, expression.Names ⟨0, namedByRegistry⟩ ∧
      (⟨0, namedByRegistry⟩ : Occurrence).resolve = .ok (.known "a") ∧
      ∀ given, expression.node.MayGive List.getLast? given) := by
  refine ⟨⟨_, .call rfl rfl, rfl, fun given => ?_⟩, ⟨_, .call rfl rfl, rfl, fun given => ?_⟩⟩
  · constructor
    · intro gives
      cases gives with
      | row _ spoken gives =>
        cases spoken
        cases gives
        rfl
      | emptyRow _ silent => cases silent
    · rintro rfl
      exact .row none rfl (.symbol "a" none)
  · exact .otherCall given (.inl rfl)

end LetShadow
