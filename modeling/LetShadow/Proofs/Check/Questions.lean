/-
**What a session answers to questions.**

Whatever checkers were made and whatever was visited and asked before, a question gets one answer:

* `step_declarations`, `step_declared` — **a step that asks answers from the tree,** though a view
  may have kept what it gives out. A question for the indeterminate name does not even reach a view
  (`step_declared_indeterminate`).
* `declared_first_settles` — **a name is declared around a place as the first declaration says that
  settles it:** nearest group first, and in each group in source order.
* `declarations_apart` — **no declaration is given out for two groups,** and each is given out for
  the group from which only rows of statements separate it.
-/

import LetShadow.Proofs.Check.Session
import LetShadow.Proofs.Scope.Scan

namespace LetShadow

namespace Session

variable {root : Occurrence} {session : Session}

/-! ### One question -/

theorem withView_viewAt (session : Session) (number : Nat) :
    session.withView number (session.viewAt number) = session := by
  have same : session.views.setIfInBounds number (session.viewAt number) = session.views := by
    apply Array.ext_getElem?
    intro asked
    rw [Array.getElem?_setIfInBounds]
    by_cases here : number = asked
    · subst here
      rw [if_pos rfl, viewAt]
      by_cases made : number < session.views.size
      · simp [made]
      · simp [made]
    · rw [if_neg here]
  rw [withView, same]

/-- **The direct declarations are those of the tree,** kept from before or collected now. -/
theorem step_declarations (sound : session.Sound root) (number : Nat) (block : Place root) :
    (session.step (.declarations number block)).1 = .declarations block.1.directDeclarations := by
  show Answer.declarations (session.ask number (ScopeView.declarations block)).1 = _
  obtain ⟨_, _, ran⟩ :=
    Lookup.Answers.declarations block.2 (session.viewAt number) (sound.views number)
  have found : ((ScopeView.declarations block).run (session.viewAt number)).1 =
      block.1.directDeclarations := by
    have outcome := congrArg Prod.fst ran
    exact Except.ok.inj outcome
  rw [ask_eq, found]

/-- **A name is looked up in the tree around the place.** -/
theorem step_declared (sound : session.Sound root) (number : Nat) (part here : Place root)
    (name : String) :
    (session.step (.declared number part here (.known name))).1 =
      .declared (search (part.1.declarationsAround here.1.pos) name) := by
  show Answer.declared (session.ask number
    ((ScopeIndex.ofTree part).declaredAbove here.1.pos (.known name)).run).1 = _
  obtain ⟨_, _, ran⟩ := declaredAbove_answers part.2 here.1.pos name (session.viewAt number)
    (sound.views number)
  rw [ask_eq, ran]

/-- The indeterminate name is declared nowhere, and no view is asked for it. -/
theorem step_declared_indeterminate (session : Session) (number : Nat) (part here : Place root) :
    session.step (.declared number part here .indeterminate) = (.declared (.ok false), session) := by
  show (Answer.declared (.ok false), session.withView number (session.viewAt number)) = _
  rw [withView_viewAt]

/-! ### A question after a run -/

/-- **The first declaration that settles a name decides whether it is declared.** If it has the
name, the answer is yes, and if it cannot be resolved, the answer is its failure. If there is none,
the answer is no. A declaration with an indeterminate name settles nothing, and the indeterminate
name is declared nowhere, whatever the declarations are. -/
theorem declared_first_settles (before : List (Step root)) (number : Nat)
    (part here : Place root) :
    let session := run {} before
    (∀ name, ∃ outcome,
      (session.step (.declared number part here (.known name))).1 = .declared outcome ∧
        (outcome = .ok true ↔
          ∃ group declaration, SettlesFirst part here name group declaration ∧
            declaration.resolve = .ok (.known name)) ∧
        (∀ error, outcome = .error error ↔
          ∃ group declaration, SettlesFirst part here name group declaration ∧
            declaration.resolve = .error error) ∧
        (outcome = .ok false ↔
          ∀ group declaration, Meets part here group declaration →
            declaration.resolve ≠ .ok (.known name) ∧
              ∀ error, declaration.resolve ≠ .error error)) ∧
      (∀ name group declaration, SettlesFirst part here name group declaration →
        declaration.resolve ≠ .ok .indeterminate) ∧
      session.step (.declared number part here .indeterminate) =
        (.declared (.ok false), session) := by
  intro session
  have sound := (Sound.empty root).run before
  refine ⟨fun name => ?_, fun name group declaration first => ?_, ?_⟩
  · refine ⟨_, step_declared sound number part here name, ?_, fun error => ?_, ?_⟩
    · exact search_around_eq_true_iff part.2 here.2
    · exact search_around_eq_error_iff part.2 here.2
    · rw [search_around_eq_false_iff part.2 here.2]
      simp only [Occurrence.Settles, not_or, not_exists, ne_eq]
  · exact first.settles.resolve_ne_indeterminate
  · exact step_declared_indeterminate session number part here

/-- A group inside of another, with a bad name behind its declaration. -/
def halfNamed : Node :=
  contextOf [letOf "a", contextOf [letOf "b",
    .call { method := "let", arguments := [.other "const" [] (some "NAME") none] }]]

/-- In the inner group of `halfNamed` a search finds the declaration in front of the bad name, and
fails on its way to the one outside. From the inner group itself neither of the two is met. -/
example (before : List (Step ⟨0, halfNamed⟩)) :
    let whole : Place ⟨0, halfNamed⟩ := ⟨⟨0, halfNamed⟩, Occurrence.self_mem_walk _⟩
    let group : Place ⟨0, halfNamed⟩ := ⟨⟨5, _⟩, List.mem_of_getElem? (i := 5) rfl⟩
    let inside : Place ⟨0, halfNamed⟩ := ⟨⟨10, _⟩, List.mem_of_getElem? (i := 10) rfl⟩
    let answer (here : Place ⟨0, halfNamed⟩) (name : String) :=
      ((run {} before).step (.declared 0 whole here (.known name))).1
    answer inside "b" = .declared (.ok true) ∧
      answer inside "a" = .declared (.error ⟨⟨11, .other "const" [] (some "NAME") none⟩⟩) ∧
      answer group "a" = .declared (.ok true) ∧ answer group "b" = .declared (.ok false) := by
  intro whole group inside answer
  have sound := (Sound.empty ⟨0, halfNamed⟩).run before
  refine ⟨?_, ?_, ?_, ?_⟩
  · exact (step_declared sound 0 whole inside "b").trans (by cbv)
  · exact (step_declared sound 0 whole inside "a").trans (by cbv)
  · exact (step_declared sound 0 whole group "a").trans (by cbv)
  · exact (step_declared sound 0 whole group "b").trans (by cbv)

/-- **The direct declarations of two places have none in common.** Those of one stand in source
order, each once. They are the `let` nodes that are reached from the body through rows of statements
only; for a group these are the ones from which nothing but rows separates it. So what stands in a
nested group, in any other block, in a call or in an opaque node is not among them. -/
theorem declarations_apart (before : List (Step root)) (number : Nat) (first : Place root) :
    ((run {} before).step (.declarations number first)).1 =
        .declarations first.1.directDeclarations ∧
      first.1.directDeclarations.Pairwise (fun declaration later =>
        declaration.pos < later.pos) ∧
      first.1.directDeclarations.Nodup ∧
      (∀ second : Place root, first ≠ second →
        first.1.directDeclarations.Disjoint second.1.directDeclarations) ∧
      (∀ declaration, declaration ∈ first.1.directDeclarations ↔
        declaration.node.isLet = true ∧ ∃ body ∈ first.1.body?, StandsIn body declaration) ∧
      (first.1.node.isGroup = true → ∀ declaration,
        declaration ∈ first.1.directDeclarations ↔
          declaration.node.isLet = true ∧ first.1.Encloses declaration ∧
            ∀ between, first.1.Encloses between → between.Encloses declaration →
              between.node.kind = .sequence) := by
  have sorted := first.1.directDeclarations_sorted
  refine ⟨step_declarations ((Sound.empty root).run before) number first, sorted, ?_, ?_, ?_, ?_⟩
  · apply sorted.imp
    rintro declaration _ less rfl
    exact lt_irrefl _ less
  · intro second apart declaration inFirst inSecond
    apply apart
    apply Subtype.ext
    exact (Occurrence.mem_directDeclarations.mp inFirst).unique
      (Occurrence.mem_directDeclarations.mp inSecond) first.2 second.2
  · intro declaration
    exact Occurrence.mem_directDeclarations
  · intro isGroup declaration
    rw [Occurrence.mem_directDeclarations]
    exact Occurrence.directIn_iff_between first.2 isGroup

end Session

end LetShadow
