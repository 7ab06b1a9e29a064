/-
**A visit adds its contribution.**

* `Check.Does` — a piece of a check makes a contribution: from any progress and any view that holds
  it ends as the contribution says, with the progress that much further and a view that holds.
* `checkDeclaration_does`, `handle_does` — **one step:** a look at a declaration, a place of a walk.
* `walked_does` — **a run:** the places of a tree in any order, one after the other.
* `Checker.visit_eq` — **what a visit does to its checker depends on the two trees only,** the one
  that the checker is for and the one that is visited, whatever was done before.
-/

import LetShadow.Proofs.Check.Contribution

namespace LetShadow

/-- The progress after a contribution. -/
def Progress.add (progress : Progress) (contribution : Contribution) : Progress where
  scopes := progress.scopes + contribution.scopes
  offenses := progress.offenses ++ contribution.offenses.toArray

/-- How a piece of a check ends. -/
def Contribution.outcome (contribution : Contribution) : Except Unresolvable Unit :=
  match contribution.failure with
  | none => .ok ()
  | some error => .error error

theorem Progress.add_empty (progress : Progress) : progress.add {} = progress := by
  simp [add]

theorem Progress.add_andThen {first : Contribution} (passes : first.failure = none)
    (progress : Progress) (second : Contribution) :
    (progress.add first).add second = progress.add (first.andThen second) := by
  simp [add, Contribution.andThen_of_none passes, Nat.add_assoc]

/-- A piece of a check makes a contribution, whatever was done before it. -/
def Check.Does (tree : Occurrence) (action : Check Unit) (made : Contribution) : Prop :=
  ∀ (progress : Progress) (view : ScopeView), view.Holds tree →
    ∃ after : ScopeView, after.Holds tree ∧
      (action.run.run progress).run view = ((made.outcome, progress.add made), after)

namespace Check.Does

variable {tree : Occurrence}

/-- What has run without a failure contributes none, and leaves a view that holds. -/
theorem of_ran {action : Check Unit} {made : Contribution} (does : action.Does tree made)
    {before after : Progress} {view last : ScopeView} (holds : view.Holds tree)
    (ran : (action.run.run before).run view = ((.ok (), after), last)) :
    made.failure = none ∧ last.Holds tree := by
  obtain ⟨reached, reachedHolds, ranAs⟩ := does before view holds
  rw [ran, Prod.mk.injEq, Prod.mk.injEq] at ranAs
  obtain ⟨⟨outcome, _⟩, rfl⟩ := ranAs
  refine ⟨?_, reachedHolds⟩
  cases failure : made.failure with
  | none => rfl
  | some error =>
    rw [Contribution.outcome, failure] at outcome
    cases outcome

theorem nothing : Check.Does tree (pure ()) {} := by
  intro progress view holds
  refine ⟨view, holds, ?_⟩
  rw [Progress.add_empty]
  rfl

theorem then_does {first second : Check Unit} {made later : Contribution}
    (before : first.Does tree made) (after : second.Does tree later) :
    (do first; second : Check Unit).Does tree (made.andThen later) := by
  intro progress view holds
  obtain ⟨middle, middleHolds, ran⟩ := before progress view holds
  cases outcome : made.failure with
  | some error =>
    refine ⟨middle, middleHolds, ?_⟩
    rw [Contribution.andThen_of_failure outcome]
    simp only [ExceptT.run_bind, StateT.run_bind, ran]
    rw [Contribution.outcome, outcome]
    rfl
  | none =>
    obtain ⟨last, lastHolds, ranOn⟩ := after (progress.add made) middle middleHolds
    refine ⟨last, lastHolds, ?_⟩
    rw [Progress.add_andThen outcome] at ranOn
    simp only [ExceptT.run_bind, StateT.run_bind, ran]
    rw [Contribution.outcome, outcome]
    refine ranOn.trans ?_
    rw [Contribution.outcome, Contribution.outcome, Contribution.andThen_of_none outcome]

/-- Pieces of a check done one after the other. -/
theorem forM_does {Item : Type} {items : List Item} {action : Item → Check Unit}
    {made : Item → Contribution} (each : ∀ item ∈ items, (action item).Does tree (made item)) :
    (forM items action : Check Unit).Does tree (.all (items.map made)) := by
  induction items with
  | nil => exact nothing
  | cons item rest ih =>
    rw [List.forM_cons, List.map_cons, Contribution.all]
    exact (each item List.mem_cons_self).then_does
      (ih fun other mem => each other (List.mem_cons_of_mem _ mem))

/-- A question that is answered makes no contribution of its own. -/
theorem asked_ok {α : Type} {lookup : Lookup α} {value : α} {next : α → Check Unit}
    {made : Contribution} (answers : lookup.Answers tree (.ok value))
    (rest : (next value).Does tree made) : (lookup.asked >>= next).Does tree made := by
  intro progress view holds
  obtain ⟨middle, middleHolds, ran⟩ := answers view holds
  obtain ⟨last, lastHolds, ranOn⟩ := rest progress middle middleHolds
  refine ⟨last, lastHolds, ?_⟩
  rw [← ranOn]
  simp only [ExceptT.run_bind, StateT.run_bind, Lookup.asked, ExceptT.run_mk, StateT.run_lift, ran]
  rfl

/-- A question that fails ends the check. -/
theorem asked_error {α : Type} {lookup : Lookup α} {error : Unresolvable} {next : α → Check Unit}
    (answers : lookup.Answers tree (.error error)) :
    (lookup.asked >>= next).Does tree { failure := some error } := by
  intro progress view holds
  obtain ⟨last, lastHolds, ran⟩ := answers view holds
  refine ⟨last, lastHolds, ?_⟩
  simp only [ExceptT.run_bind, StateT.run_bind, Lookup.asked, ExceptT.run_mk, StateT.run_lift, ran]
  simp [Progress.add, Contribution.outcome]
  rfl

theorem counted : Check.Does tree (modify Progress.count) { scopes := 1 } := by
  intro progress view holds
  refine ⟨view, holds, ?_⟩
  have counts : progress.count = progress.add { scopes := 1 } := by
    simp [Progress.count, Progress.add]
  rw [← counts]
  rfl

theorem reported (offense : Offense) :
    Check.Does tree (modify (Progress.report offense)) { offenses := [offense] } := by
  intro progress view holds
  refine ⟨view, holds, ?_⟩
  have reports : progress.report offense = progress.add { offenses := [offense] } := by
    simp [Progress.report, Progress.add]
  rw [← reports]
  rfl

end Check.Does

/-! ### The steps of a visit -/

variable {tree root : Occurrence}

/-- **A look at a declaration comes to its verdict.** -/
theorem checkDeclaration_does (mem : root ∈ tree.walk) (group declaration : Occurrence) :
    (checkDeclaration (ScopeIndex.ofTree root) group.pos declaration).Does tree
      (.ofVerdict (verdict root group declaration)) := by
  unfold checkDeclaration verdict
  cases resolved : declaration.resolve with
  | error error => exact .asked_error (.lift (.error error))
  | ok found =>
    refine .asked_ok (.lift (.ok found)) ?_
    cases found with
    | indeterminate => exact .nothing
    | known name =>
      have answers := declaredAbove_answers mem group.pos name
      show Check.Does tree _ (.ofVerdict ((search (root.declarationsAround group.pos) name).map _))
      cases found : search (root.declarationsAround group.pos) name with
      | error error =>
        rw [found] at answers
        exact .asked_error answers
      | ok declared =>
        rw [found] at answers
        refine .asked_ok answers ?_
        cases declared with
        | false => exact .nothing
        | true => exact .reported _

theorem checkBlock_does (rootMem : root ∈ tree.walk) {here : Occurrence} (mem : here ∈ tree.walk) :
    (checkBlock (ScopeIndex.ofTree root) here).Does tree (.ofPlace root here) := by
  unfold checkBlock Contribution.ofPlace Contribution.ofGroup
  split
  · refine Check.Does.counted.then_does ?_
    rw [← Contribution.all_ofVerdict, List.map_map]
    refine Check.Does.asked_ok (.declarations mem) ?_
    exact .forM_does fun declaration _ => checkDeclaration_does rootMem here declaration
  · exact .nothing

/-- **At each place of a walk the visitor makes the contribution of that place.** -/
theorem handle_does (rootMem : root ∈ tree.walk) {here : Occurrence} (mem : here ∈ tree.walk) :
    ((overrideVisitor (ScopeIndex.ofTree root)).handle here).Does tree (.ofPlace root here) := by
  have block := checkBlock_does rootMem mem
  obtain ⟨pos, node⟩ := here
  cases node with
  | block => exact block
  | _ => exact .nothing

/-! ### A visit -/

/-- **Several places visited one after the other contribute what their groups do.** -/
theorem walked_does (rootMem : root ∈ tree.walk) {places : List Occurrence}
    (among : ∀ place ∈ places, place ∈ tree.walk) :
    (forM places (overrideVisitor (ScopeIndex.ofTree root)).handle : Check Unit).Does tree
      (.ofGroups root (places.filter fun place => place.node.isGroup)) := by
  rw [← Contribution.all_ofPlace]
  exact .forM_does fun place mem => handle_does rootMem (among place mem)

theorem visit_does (rootMem : root ∈ tree.walk) {here : Occurrence} (mem : here ∈ tree.walk) :
    ((overrideVisitor (ScopeIndex.ofTree root)).visit here).Does tree (contribution root here) :=
  walked_does rootMem fun _ inside => Occurrence.walk_trans inside mem

/-- **A visit fails as its contribution does and adds it to the progress of the checker.** -/
theorem Checker.visit_eq (rootMem : root ∈ tree.walk) {here : Occurrence} (mem : here ∈ tree.walk)
    {checker : Checker} (isFor : checker.index = .ofTree root) {view : ScopeView}
    (holds : view.Holds tree) :
    ∃ after : ScopeView, after.Holds tree ∧
      (checker.visit here).run view =
        (((contribution root here).failure,
          { checker with progress := checker.progress.add (contribution root here) }), after) := by
  obtain ⟨after, afterHolds, ran⟩ := visit_does rootMem mem checker.progress view holds
  refine ⟨after, afterHolds, ?_⟩
  unfold Checker.visit
  rw [isFor]
  simp only [StateT.run_bind, ran]
  rw [Contribution.outcome]
  cases (contribution root here).failure <;> rfl

end LetShadow
