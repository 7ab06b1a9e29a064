/-
**What a visit contributes.**

A visit of the tree at one place by a checker for the tree at another adds to the checker's progress
and may fail. What it adds is fixed by the two places:

* `verdict` — what the look at one declaration comes to: nothing, an offense or a failure.
* `contribution` — **the groups that are come to, the offenses found before the first failing look,
  and that failure.** A group is come to (`reached`) if no look in a group before it fails; so the
  group of the failing look is one of them.
* `Contribution.andThen` — two pieces of a visit one after the other: a failure ends it.
* `all_ofPlace` — **the contribution is that of the places one after the other,** and that of a
  group is that of its declarations one after the other. This is the shape in which a visit runs.
-/

import Mathlib.Data.List.TakeWhile
import LetShadow.Check.Checker
import LetShadow.Proofs.Scope.Search

namespace LetShadow

/-- What the look at a declaration of a group comes to, for a checker of the tree at `root`. -/
def verdict (root group declaration : Occurrence) : Except Unresolvable (Option Offense) :=
  match declaration.resolve with
  | .error error => .error error
  | .ok .indeterminate => .ok none
  | .ok (.known name) =>
    (search (root.declarationsAround group.pos) name).map fun found =>
      if found then some { declaration, name } else none

/-- The verdict lets the visit go on. -/
def goesOn (outcome : Except Unresolvable (Option Offense)) : Bool :=
  match outcome with
  | .ok _ => true
  | .error _ => false

/-- The offense that was found, if there is one. -/
def offenseOf : Except Unresolvable (Option Offense) → Option Offense
  | .ok found => found
  | .error _ => none

/-- The failure, if it is one. -/
def failureOf : Except Unresolvable (Option Offense) → Option Unresolvable
  | .ok _ => none
  | .error error => some error

theorem failureOf_eq_none_iff {outcome : Except Unresolvable (Option Offense)} :
    failureOf outcome = none ↔ goesOn outcome = true := by
  cases outcome <;> simp [failureOf, goesOn]

theorem failureOf_eq_some_iff {outcome : Except Unresolvable (Option Offense)}
    {error : Unresolvable} : failureOf outcome = some error ↔ outcome = .error error := by
  cases outcome <;> simp [failureOf]

/-- The verdicts on the declarations of several groups, in the order of the looks. -/
def verdicts (root : Occurrence) (groups : List Occurrence) :
    List (Except Unresolvable (Option Offense)) :=
  groups.flatMap fun group => group.directDeclarations.map (verdict root group)

/-- No look in a group fails. -/
def isClean (root group : Occurrence) : Bool :=
  group.directDeclarations.all fun declaration => goesOn (verdict root group declaration)

/-- The groups that are come to: those before the first in which a look fails, and that one. -/
def reached (root : Occurrence) (groups : List Occurrence) : List Occurrence :=
  groups.takeWhile (isClean root) ++ (groups.dropWhile (isClean root)).take 1

/-- What a visit adds to the progress of its checker, and the failure that ends it. -/
structure Contribution where
  scopes : Nat := 0
  offenses : List Offense := []
  failure : Option Unresolvable := none

/-- The contribution of looks with these verdicts: what is found before the first failure. -/
def Contribution.ofVerdicts (outcomes : List (Except Unresolvable (Option Offense))) :
    Contribution where
  offenses := (outcomes.takeWhile goesOn).filterMap offenseOf
  failure := outcomes.findSome? failureOf

/-- The contribution of checking several groups. -/
def Contribution.ofGroups (root : Occurrence) (groups : List Occurrence) : Contribution :=
  { ofVerdicts (verdicts root groups) with scopes := (reached root groups).length }

/-- The example groups of the tree at a place, in pre-order. -/
def Occurrence.groups (here : Occurrence) : List Occurrence :=
  here.walk.filter fun place => place.node.isGroup

/-- **What a visit of the tree at `here` by a checker for the tree at `root` contributes.** -/
def contribution (root here : Occurrence) : Contribution :=
  Contribution.ofGroups root here.groups

namespace Contribution

/-- A contribution followed by another, unless it ends in a failure. -/
def andThen (first second : Contribution) : Contribution :=
  match first.failure with
  | some _ => first
  | none => ⟨first.scopes + second.scopes, first.offenses ++ second.offenses, second.failure⟩

/-- Several contributions one after the other, up to the first failure. -/
def all : List Contribution → Contribution
  | [] => {}
  | first :: rest => first.andThen (all rest)

/-- The contribution of the look at one declaration. -/
def ofVerdict (outcome : Except Unresolvable (Option Offense)) : Contribution :=
  { offenses := (offenseOf outcome).toList, failure := failureOf outcome }

/-- The contribution of a group, which is counted before its declarations are looked at. -/
def ofGroup (root group : Occurrence) : Contribution :=
  ({ scopes := 1 } : Contribution).andThen
    (ofVerdicts (group.directDeclarations.map (verdict root group)))

/-- The contribution of a place. -/
def ofPlace (root here : Occurrence) : Contribution :=
  if here.node.isGroup then ofGroup root here else {}

@[simp]
theorem empty_andThen (second : Contribution) : ({} : Contribution).andThen second = second := by
  simp [andThen]

theorem andThen_of_failure {first : Contribution} {error : Unresolvable}
    (fails : first.failure = some error) (second : Contribution) :
    first.andThen second = first := by
  rw [andThen, fails]

theorem andThen_of_none {first : Contribution} (passes : first.failure = none)
    (second : Contribution) :
    first.andThen second =
      ⟨first.scopes + second.scopes, first.offenses ++ second.offenses, second.failure⟩ := by
  rw [andThen, passes]

/-! ### Looks one after the other -/

theorem ofVerdicts_cons (outcome : Except Unresolvable (Option Offense))
    (rest : List (Except Unresolvable (Option Offense))) :
    ofVerdicts (outcome :: rest) = (ofVerdict outcome).andThen (ofVerdicts rest) := by
  rw [ofVerdicts, List.takeWhile_cons, List.findSome?_cons, ofVerdict]
  cases outcome with
  | ok found =>
    cases found <;>
      simp [andThen, goesOn, offenseOf, failureOf, ofVerdicts, List.filterMap_cons]
  | error error => simp [andThen, goesOn, offenseOf, failureOf]

/-- **Looks one after the other find what stands before the first failure.** -/
theorem all_ofVerdict (outcomes : List (Except Unresolvable (Option Offense))) :
    all (outcomes.map ofVerdict) = ofVerdicts outcomes := by
  induction outcomes with
  | nil => rfl
  | cons outcome rest ih => rw [List.map_cons, all, ih, ofVerdicts_cons]

theorem ofVerdicts_failure_eq_none {outcomes : List (Except Unresolvable (Option Offense))} :
    (ofVerdicts outcomes).failure = none ↔ ∀ outcome ∈ outcomes, goesOn outcome = true := by
  rw [ofVerdicts, List.findSome?_eq_none_iff]
  exact forall₂_congr fun _ _ => failureOf_eq_none_iff

/-! ### Groups one after the other -/

/-- Groups are checked without a failure if no look in one of them fails. -/
theorem ofGroups_failure_eq_none {root : Occurrence} {groups : List Occurrence} :
    (ofGroups root groups).failure = none ↔
      ∀ group ∈ groups, ∀ declaration ∈ group.directDeclarations,
        goesOn (verdict root group declaration) = true := by
  have failure : (ofGroups root groups).failure = (ofVerdicts (verdicts root groups)).failure := rfl
  rw [failure, ofVerdicts_failure_eq_none, verdicts, List.forall_mem_flatMap]
  simp only [List.forall_mem_map]

theorem ofGroup_failure (root group : Occurrence) :
    (ofGroup root group).failure =
      (ofVerdicts (group.directDeclarations.map (verdict root group))).failure :=
  rfl

theorem ofGroup_offenses (root group : Occurrence) :
    (ofGroup root group).offenses =
      (ofVerdicts (group.directDeclarations.map (verdict root group))).offenses :=
  rfl

theorem ofGroup_scopes (root group : Occurrence) : (ofGroup root group).scopes = 1 :=
  rfl

theorem isClean_iff {root group : Occurrence} :
    isClean root group = true ↔ (ofGroup root group).failure = none := by
  rw [ofGroup_failure, ofVerdicts_failure_eq_none, isClean, List.all_eq_true, List.forall_mem_map]

theorem verdicts_cons (root group : Occurrence) (rest : List Occurrence) :
    verdicts root (group :: rest) =
      group.directDeclarations.map (verdict root group) ++ verdicts root rest := by
  rw [verdicts, List.flatMap_cons, verdicts]

theorem ofVerdicts_append_of_none {first : List (Except Unresolvable (Option Offense))}
    (passes : (ofVerdicts first).failure = none)
    (second : List (Except Unresolvable (Option Offense))) :
    ofVerdicts (first ++ second) = (ofVerdicts first).andThen (ofVerdicts second) := by
  have goOn := ofVerdicts_failure_eq_none.mp passes
  have whole : first.takeWhile goesOn = first := List.takeWhile_eq_self_iff.mpr goOn
  have silent : first.findSome? failureOf = none := passes
  rw [andThen_of_none passes]
  simp [ofVerdicts, List.takeWhile_append_of_pos goOn, whole, silent, List.findSome?_append]

theorem ofVerdicts_append_of_failure {first : List (Except Unresolvable (Option Offense))}
    {error : Unresolvable} (fails : (ofVerdicts first).failure = some error)
    (second : List (Except Unresolvable (Option Offense))) :
    ofVerdicts (first ++ second) = ofVerdicts first := by
  induction first with
  | nil => cases fails
  | cons outcome rest ih =>
    rw [List.cons_append, ofVerdicts_cons, ofVerdicts_cons]
    rw [ofVerdicts_cons] at fails
    cases stops : (ofVerdict outcome).failure with
    | some found => rw [andThen_of_failure stops, andThen_of_failure stops]
    | none =>
      rw [andThen_of_none stops] at fails
      rw [ih fails]

theorem ofGroups_cons (root group : Occurrence) (rest : List Occurrence) :
    ofGroups root (group :: rest) = (ofGroup root group).andThen (ofGroups root rest) := by
  rw [ofGroups, verdicts_cons, reached]
  cases outcome : (ofGroup root group).failure with
  | none =>
    have clean := isClean_iff.mpr outcome
    rw [andThen_of_none outcome, ofGroup_scopes, ofGroup_offenses]
    rw [ofGroup_failure] at outcome
    rw [ofVerdicts_append_of_none outcome, andThen_of_none outcome]
    simp [clean, ofGroups, reached, Nat.add_comm, Nat.add_left_comm]
  | some error =>
    have soiled : ¬ isClean root group = true := fun clean => by
      rw [isClean_iff.mp clean] at outcome
      cases outcome
    rw [andThen_of_failure outcome]
    rw [ofGroup_failure] at outcome
    rw [ofVerdicts_append_of_failure outcome]
    simp [soiled, ofGroup, andThen, ofVerdicts]

/-- **Groups one after the other contribute what the whole list of them does;** places that are no
groups contribute nothing. -/
theorem all_ofPlace (root : Occurrence) (places : List Occurrence) :
    all (places.map (ofPlace root)) =
      ofGroups root (places.filter fun place => place.node.isGroup) := by
  induction places with
  | nil => rfl
  | cons place rest ih =>
    rw [List.map_cons, all, ih, ofPlace, List.filter_cons]
    split
    · rw [ofGroups_cons]
    · rw [empty_andThen]

/-! ### What stands before a failure -/

/-- **Looks that fail end at one of them** and find what the looks before it do. -/
theorem exists_of_ofVerdicts_failure {looks : List Occurrence}
    {outcome : Occurrence → Except Unresolvable (Option Offense)} {error : Unresolvable}
    (fails : (ofVerdicts (looks.map outcome)).failure = some error) :
    ∃ before declaration after,
      looks = before ++ declaration :: after ∧
        (∀ earlier ∈ before, goesOn (outcome earlier) = true) ∧
        outcome declaration = .error error ∧
        (ofVerdicts (looks.map outcome)).offenses =
          before.filterMap fun earlier => offenseOf (outcome earlier) := by
  rw [ofVerdicts, List.findSome?_map] at fails
  obtain ⟨before, declaration, after, rfl, failing, silent⟩ := List.findSome?_eq_some_iff.mp fails
  have passed : ∀ earlier ∈ before, goesOn (outcome earlier) = true := fun earlier mem =>
    failureOf_eq_none_iff.mp (silent earlier mem)
  have stops : outcome declaration = .error error := failureOf_eq_some_iff.mp failing
  refine ⟨before, declaration, after, rfl, passed, stops, ?_⟩
  have goOn : ∀ found ∈ before.map outcome, goesOn found = true := List.forall_mem_map.mpr passed
  have ended : goesOn (.error error) = false := rfl
  rw [ofVerdicts, List.map_append, List.takeWhile_append_of_pos goOn, List.map_cons, stops,
    List.takeWhile_cons]
  simp [ended, List.filterMap_map]

/-- **Groups that fail end in one of them,** which is counted with all before it. -/
theorem exists_of_ofGroups_failure {root : Occurrence} {groups : List Occurrence}
    {error : Unresolvable} (fails : (ofGroups root groups).failure = some error) :
    ∃ earlier group later,
      groups = earlier ++ group :: later ∧
        (∀ outer ∈ earlier, isClean root outer = true) ∧
        (ofGroup root group).failure = some error ∧
        (ofGroups root groups).scopes = earlier.length + 1 ∧
        (ofGroups root groups).offenses =
          (verdicts root earlier).filterMap offenseOf ++ (ofGroup root group).offenses := by
  induction groups with
  | nil => cases fails
  | cons group rest ih =>
    rw [ofGroups_cons] at fails ⊢
    cases outcome : (ofGroup root group).failure with
    | some other =>
      rw [andThen_of_failure outcome] at fails ⊢
      exact ⟨[], group, rest, rfl, List.forall_mem_nil _, fails, rfl, rfl⟩
    | none =>
      rw [andThen_of_none outcome] at fails ⊢
      obtain ⟨earlier, stopped, later, rfl, clean, failing, scopes, offenses⟩ := ih fails
      have cleanHere := isClean_iff.mpr outcome
      refine ⟨group :: earlier, stopped, later, rfl, ?_, failing, ?_, ?_⟩
      · exact List.forall_mem_cons.mpr ⟨cleanHere, clean⟩
      · rw [scopes, ofGroup_scopes, List.length_cons, Nat.add_comm]
      · rw [ofGroup_failure, ofVerdicts_failure_eq_none] at outcome
        rw [offenses, verdicts_cons, List.filterMap_append, List.append_assoc, ofGroup_offenses,
          ofVerdicts, List.takeWhile_eq_self_iff.mpr outcome]

end Contribution

end LetShadow
