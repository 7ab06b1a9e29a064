/-
**What a checker holds after a whole session.**

* `Session.Sound` — every view holds for the tree, and every checker is for a place of it. This is
  the invariant: **every step keeps it,** whichever checker or question uses whichever view
  (`Session.Sound.step`), and so does every run.
* `Session.visitsOf` — the places that one checker visits in a run, in order.
* `progress_of_run` — **the progress of a checker is the sum of the contributions of its visits.** A
  contribution belongs to two places of the tree, that of the checker and the visited one. The other
  checkers, the questions in between and all views leave no trace in it.
-/

import Mathlib.Algebra.GroupWithZero.Nat
import LetShadow.Check.Session
import LetShadow.Proofs.Check.Failure

namespace LetShadow

namespace Session

variable {root : Occurrence} {session : Session}

/-! ### Views and checkers of a session -/

/-- All that the views know is true of the tree, and all checkers are for places of it. -/
structure Sound (root : Occurrence) (session : Session) : Prop where
  views : ∀ number, (session.viewAt number).Holds root
  members : ∀ member ∈ session.members, ∃ tree : Place root, member.checker.index = .ofTree tree

/-- A session with another view of a number, if there is one. -/
def withView (session : Session) (number : Nat) (view : ScopeView) : Session :=
  { session with views := session.views.setIfInBounds number view }

theorem ask_eq {α : Type} (session : Session) (number : Nat) (question : StateM ScopeView α) :
    session.ask number question =
      ((question.run (session.viewAt number)).1,
        session.withView number (question.run (session.viewAt number)).2) :=
  rfl

theorem viewAt_withView (number : Nat) (view : ScopeView) (asked : Nat) :
    (session.withView number view).viewAt asked = view ∨
      (session.withView number view).viewAt asked = session.viewAt asked := by
  unfold viewAt withView
  by_cases same : number = asked
  · by_cases made : number < session.views.size
    · left
      simp [same, same ▸ made]
    · right
      simp [same, same ▸ made]
  · right
    simp [same]

/-- A new view knows no more than one that was never made. -/
theorem viewAt_addView (asked : Nat) : session.addView.viewAt asked = session.viewAt asked := by
  unfold viewAt addView
  by_cases last : asked = session.views.size
  · simp [last]
  · simp [Array.getElem?_push, last]

theorem Sound.empty (root : Occurrence) : Sound root {} where
  views _ := ScopeView.holds_empty root
  members _ mem := absurd mem (Array.not_mem_empty _)

theorem Sound.addView (sound : session.Sound root) : session.addView.Sound root where
  views asked := by
    rw [viewAt_addView]
    exact sound.views asked
  members := sound.members

theorem Sound.withView (sound : session.Sound root) (number : Nat) {view : ScopeView}
    (holds : view.Holds root) : (session.withView number view).Sound root where
  views asked := by
    rcases viewAt_withView number view asked with same | same
    · rwa [same]
    · rw [same]
      exact sound.views asked
  members := sound.members

/-- A question whose views hold afterwards spoils no view of a session. -/
theorem Sound.ask {α : Type} (sound : session.Sound root) (number : Nat)
    {question : StateM ScopeView α}
    (keeps : ∀ view : ScopeView, view.Holds root → (question.run view).2.Holds root) :
    (session.ask number question).2.Sound root :=
  sound.withView number (keeps _ (sound.views number))

theorem Sound.addMember (sound : session.Sound root) {member : Member}
    (isFor : ∃ tree : Place root, member.checker.index = .ofTree tree) :
    (session.addMember member).Sound root where
  views := sound.views
  members other mem := by
    rcases Array.mem_push.mp mem with before | rfl
    · exact sound.members other before
    · exact isFor

theorem Sound.replace (sound : session.Sound root) (number : Nat) {member : Member}
    (isFor : ∃ tree : Place root, member.checker.index = .ofTree tree) :
    (session.replace number member).Sound root where
  views := sound.views
  members other mem := by
    rcases Array.mem_or_eq_of_mem_setIfInBounds mem with before | rfl
    · exact sound.members other before
    · exact isFor

/-! ### One step -/

theorem step_visit_missing {number : Nat} (missing : session.members[number]? = none)
    (here : Place root) : session.step (.visit number here) = (.missing, session) := by
  simp only [step, missing]

/-- **A visit adds its contribution to the progress of its checker,** and answers both. -/
theorem step_visit (sound : session.Sound root) {number : Nat} {member : Member}
    (made : session.members[number]? = some member) {tree : Place root}
    (isFor : member.checker.index = .ofTree tree) (here : Place root) :
    ∃ after : ScopeView, after.Holds root ∧
      session.step (.visit number here) =
        (.visited (contribution tree here).failure
            (member.checker.progress.add (contribution tree here)),
          (session.withView member.view after).replace number
            { member with
              checker :=
                ⟨.ofTree tree, member.checker.progress.add (contribution tree here)⟩ }) := by
  obtain ⟨after, holds, ran⟩ :=
    Checker.visit_eq tree.2 here.2 isFor (sound.views member.view)
  refine ⟨after, holds, ?_⟩
  unfold step
  simp only [made, ask_eq, ran]
  rw [isFor]

/-- **Every step keeps a session sound.** -/
theorem Sound.step (sound : session.Sound root) (next : Step root) :
    (session.step next).2.Sound root := by
  cases next with
  | view => exact sound.addView
  | checker tree shared =>
    cases shared with
    | none => exact sound.addView.addMember ⟨tree, rfl⟩
    | some number => exact sound.addMember ⟨tree, rfl⟩
  | visit number here =>
    cases made : session.members[number]? with
    | none =>
      rw [step_visit_missing made]
      exact sound
    | some member =>
      obtain ⟨tree, isFor⟩ := sound.members member (Array.mem_of_getElem? made)
      obtain ⟨after, holds, stepped⟩ := step_visit sound made isFor here
      rw [stepped]
      exact (sound.withView member.view holds).replace number ⟨tree, rfl⟩
  | declarations number block =>
    show (session.ask number (ScopeView.declarations block)).2.Sound root
    refine sound.ask number fun view holds => ?_
    obtain ⟨after, afterHolds, ran⟩ := Lookup.Answers.declarations block.2 view holds
    have kept : ((ScopeView.declarations block).run view).2 = after := congrArg Prod.snd ran
    rwa [kept]
  | declared number tree here name =>
    show (session.ask number
      ((ScopeIndex.ofTree tree).declaredAbove here.1.pos name).run).2.Sound root
    refine sound.ask number fun view holds => ?_
    cases name with
    | indeterminate => exact holds
    | known name =>
      obtain ⟨after, afterHolds, ran⟩ := declaredAbove_answers tree.2 here.1.pos name view holds
      rwa [ran]

/-! ### The progress of one checker -/

/-- The checker of a number is for the tree at a place and has made this progress. -/
def Keeps (session : Session) (number : Nat) (tree : Place root) (progress : Progress) : Prop :=
  ∃ view, session.members[number]? = some ⟨⟨.ofTree tree, progress⟩, view⟩

/-- The places that the checker of a number visits, in order. -/
def visitsOf (number : Nat) (steps : List (Step root)) : List (Place root) :=
  steps.filterMap fun
    | .visit checker here => if checker = number then some here else none
    | _ => none

/-- The progress after visits of several places by a checker for the tree at `tree`. -/
def total (tree : Place root) (visited : List (Place root)) : Progress where
  scopes := (visited.map fun here : Place root => (contribution tree here).scopes).sum
  offenses := (visited.flatMap fun here : Place root => (contribution tree here).offenses).toArray

theorem total_append_singleton (tree : Place root) (visited : List (Place root))
    (here : Place root) :
    total tree (visited ++ [here]) = (total tree visited).add (contribution tree here) := by
  simp [total, Progress.add]

theorem visitsOf_cons (number : Nat) (next : Step root) (rest : List (Step root)) :
    visitsOf number (next :: rest) = visitsOf number [next] ++ visitsOf number rest :=
  List.filterMap_append (l := [next])

/-- **One step leaves the progress of a checker,** or adds the contribution of a visit by it. -/
theorem Keeps.step (sound : session.Sound root) {number : Nat} {tree : Place root}
    {visited : List (Place root)} (keeps : session.Keeps number tree (total tree visited))
    (next : Step root) :
    (session.step next).2.Keeps number tree (total tree (visited ++ visitsOf number [next])) := by
  obtain ⟨view, kept⟩ := keeps
  have inside : number < session.members.size := (Array.getElem?_eq_some_iff.mp kept).1
  have pushed (member : Member) :
      (session.members.push member)[number]? = some ⟨⟨.ofTree tree, total tree visited⟩, view⟩ := by
    rwa [Array.getElem?_push, if_neg inside.ne]
  cases next with
  | view =>
    show session.addView.Keeps number tree (total tree (visited ++ []))
    rw [List.append_nil]
    exact ⟨view, kept⟩
  | checker other shared =>
    show Keeps _ number tree (total tree (visited ++ []))
    rw [List.append_nil]
    cases shared <;> exact ⟨view, pushed _⟩
  | declarations =>
    show Keeps _ number tree (total tree (visited ++ []))
    rw [List.append_nil]
    exact ⟨view, kept⟩
  | declared =>
    show Keeps _ number tree (total tree (visited ++ []))
    rw [List.append_nil]
    exact ⟨view, kept⟩
  | visit checker here =>
    by_cases same : checker = number
    · subst same
      obtain ⟨after, _, stepped⟩ := step_visit sound kept rfl here
      have places : visitsOf checker [Step.visit checker here] = [here] := by simp [visitsOf]
      rw [stepped, places, total_append_singleton]
      exact ⟨view, Array.getElem?_setIfInBounds_self_of_lt inside⟩
    · have places : visitsOf number [Step.visit checker here] = [] := by simp [visitsOf, same]
      rw [places, List.append_nil]
      refine ⟨view, ?_⟩
      -- A visit by another checker may change the view of this one, but not its progress.
      cases made : session.members[checker]? with
      | none =>
        rw [step_visit_missing made]
        exact kept
      | some member =>
        obtain ⟨_, isFor⟩ := sound.members member (Array.mem_of_getElem? made)
        obtain ⟨after, _, stepped⟩ := step_visit sound made isFor here
        rw [stepped]
        exact (Array.getElem?_setIfInBounds_ne same).trans kept

/-! ### A run -/

theorem run_cons (session : Session) (next : Step root) (rest : List (Step root)) :
    session.run (next :: rest) = (session.step next).2.run rest :=
  rfl

theorem run_append (session : Session) (before after : List (Step root)) :
    session.run (before ++ after) = (session.run before).run after :=
  List.foldl_append

/-- **Every run keeps a session sound.** -/
theorem Sound.run (sound : session.Sound root) (steps : List (Step root)) :
    (session.run steps).Sound root := by
  induction steps generalizing session with
  | nil => exact sound
  | cons next rest ih => exact ih (sound.step next)

/-- **A run adds the contributions of the visits by a checker to its progress,** one by one. -/
theorem Keeps.run (sound : session.Sound root) {number : Nat} {tree : Place root}
    {visited : List (Place root)} (keeps : session.Keeps number tree (total tree visited))
    (steps : List (Step root)) :
    (session.run steps).Keeps number tree (total tree (visited ++ visitsOf number steps)) := by
  induction steps generalizing session visited with
  | nil =>
    show session.Keeps number tree (total tree (visited ++ []))
    rwa [List.append_nil]
  | cons next rest ih =>
    rw [visitsOf_cons, ← List.append_assoc, run_cons]
    exact ih (sound.step next) (keeps.step sound next)

/-- A new checker has made no progress. -/
theorem keeps_checker (session : Session) (tree : Place root) (shared : Option Nat) :
    (session.step (.checker tree shared)).2.Keeps session.members.size tree (total tree []) := by
  cases shared <;> exact ⟨_, Array.getElem?_push_size⟩

/-- **The progress of a checker is the sum of the contributions of its visits,** whatever other
steps are taken before it is made and between its visits. A visit answers its failure. It counts all
groups and finds all that should be reported or, if it fails, the groups up to the failing one and
what should be reported before the look that fails. -/
theorem progress_of_run (before after : List (Step root)) (tree : Place root)
    (shared : Option Nat) :
    let number := (run {} before).members.size
    let session := run {} (before ++ .checker tree shared :: after)
    ∃ member, session.members[number]? = some member ∧
      member.checker.progress =
        { scopes :=
            ((visitsOf number after).map fun here : Place root =>
              (contribution tree here).scopes).sum
          offenses :=
            ((visitsOf number after).flatMap fun here : Place root =>
              (contribution tree here).offenses).toArray } ∧
      ∀ here : Place root,
        (session.step (.visit number here)).1 =
          .visited (contribution tree here).failure
            (member.checker.progress.add (contribution tree here)) ∧
        ((contribution tree here).failure = none →
          (contribution tree here).scopes = here.1.groups.length ∧
            (contribution tree here).offenses = here.1.groups.flatMap (overriddenIn tree)) ∧
        ∀ error, (contribution tree here).failure = some error →
          ∃ earlier group passed declaration,
            FailsAt tree here earlier group passed declaration error ∧
              (contribution tree here).scopes = earlier.length + 1 ∧
              (contribution tree here).offenses =
                earlier.flatMap (overriddenIn tree) ++
                  passed.filterMap (overriding tree group) := by
  intro number session
  have soundBefore := (Sound.empty root).run before
  have started := keeps_checker (run {} before) tree shared
  have sound := (soundBefore.step (.checker tree shared)).run after
  obtain ⟨view, kept⟩ := started.run (soundBefore.step _) after
  have ran : session = ((run {} before).step (.checker tree shared)).2.run after :=
    run_append {} before _
  rw [← ran] at sound kept
  refine ⟨_, kept, rfl, fun here => ⟨?_, ?_, ?_⟩⟩
  · obtain ⟨_, _, stepped⟩ := step_visit sound kept rfl here
    rw [stepped]
  · exact contribution_of_none tree.2 here.2
  · exact fun error => contribution_of_failure tree.2 here.2

/-- The inner group of `spoiled`. -/
def spoiledInside : Place ⟨0, spoiled⟩ :=
  ⟨⟨9, contextOf [letOf "a", letOfConstant]⟩, List.mem_of_getElem? (i := 9) rfl⟩

/-- Two checkers of `spoiled` with one view: the second fails in both of its visits, and keeps the
three groups that it came to and the two offenses that it found. -/
theorem progress_of_run_spoiled :
    let whole : Place ⟨0, spoiled⟩ := ⟨⟨0, spoiled⟩, Occurrence.self_mem_walk _⟩
    let before := [.view, .checker spoiledInside (some 0)]
    let after := [.visit 0 whole, .declarations 0 whole, .visit 1 whole, .visit 0 spoiledInside,
      .declared 0 whole spoiledInside (.known "a"), .visit 1 spoiledInside]
    let error : Unresolvable := ⟨⟨15, .other "const" [] (some "NAME") none⟩⟩
    ∃ member,
      (run {} (before ++ .checker whole (some 0) :: after)).members[1]? = some member ∧
      member.checker.progress.scopes = 3 ∧
      member.checker.progress.offenses.toList.map (fun offense => offense.declaration.pos) =
        [12, 12] ∧
      (contribution whole whole).failure = some error ∧
      ∃ earlier group passed declaration,
        FailsAt whole whole earlier group passed declaration error := by
  intro whole before after error
  obtain ⟨member, made, progress, visits⟩ := progress_of_run before after whole (some 0)
  have fails : (contribution whole whole).failure = some error := rfl
  obtain ⟨earlier, group, passed, declaration, failing, _⟩ := (visits whole).2.2 error fails
  refine ⟨member, made, ?_, ?_, fails, earlier, group, passed, declaration, failing⟩
  · rw [progress]
    decide
  · rw [progress]
    decide

end Session

end LetShadow
