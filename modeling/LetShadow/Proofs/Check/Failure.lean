/-
**When a check of a whole tree fails, and at which name.**

A name is resolved at two places of a check: when a declaration is looked at, and when a group
around it is searched. In a check of a whole tree only the first can fail. All groups around a group
stand before it, and the check has come past all their declarations without a failure, so **every
name that a search meets has been resolved before** (`search_around_ok`).

* `declarationsInOrder` — the declarations of a tree with their groups, in the order of the looks.
* `analyzeTree_error_iff` — **a check fails exactly at the first of them that cannot be resolved,**
  and at no point that it comes to does a search for any name fail.
-/

import LetShadow.Proofs.Check.Offenses

namespace LetShadow

variable {tree root : Occurrence}

/-- The name of a declaration can be resolved. -/
def Occurrence.Resolves (declaration : Occurrence) : Prop :=
  ∃ name, declaration.resolve = .ok name

/-- The declarations made directly in the groups of a tree, each with its group: by groups in
pre-order, those of one group in source order. -/
noncomputable def Occurrence.declarationsInOrder (root : Occurrence) :
    List (Occurrence × Occurrence) :=
  root.groups.flatMap fun group => group.madeDirectly.map fun declaration => (group, declaration)

/-! ### Searches among resolved names -/

theorem search_ok_of_resolves {declarations : List Occurrence}
    (each : ∀ declaration ∈ declarations, declaration.Resolves) (name : String) :
    ∃ found, search declarations name = .ok found := by
  rw [search]
  split
  · exact ⟨false, rfl⟩
  · rename_i declaration first
    obtain ⟨known, resolved⟩ := each declaration (List.mem_of_find?_eq_some first)
    rw [resolved]
    exact ⟨true, rfl⟩

/-- **A search fails only if a name in a group around cannot be resolved.** -/
theorem search_around_ok {group : Occurrence} (rootMem : root ∈ tree.walk)
    (groupMem : group ∈ tree.walk)
    (around : ∀ outer ∈ root.groups, outer.Encloses group →
      ∀ declaration : Occurrence, declaration.DirectIn outer → declaration.Resolves)
    (name : String) : ∃ found, search (root.declarationsAround group.pos) name = .ok found := by
  refine search_ok_of_resolves (fun declaration mem => ?_) name
  obtain ⟨outer, outerMem, encloses, direct⟩ :=
    (mem_declarationsAround rootMem groupMem).mp mem
  exact around outer outerMem encloses declaration direct

theorem verdict_of_error {group declaration : Occurrence} {error : Unresolvable}
    (fails : declaration.resolve = .error error) :
    verdict root group declaration = .error error := by
  rw [verdict, fails]

theorem resolves_of_goesOn {group declaration : Occurrence}
    (passes : goesOn (verdict root group declaration) = true) : declaration.Resolves := by
  cases resolved : declaration.resolve with
  | ok name => exact ⟨name, resolved⟩
  | error error =>
    rw [verdict_of_error resolved] at passes
    cases passes

/-- A look fails only at the declaration itself if no search from its group can fail. -/
theorem verdict_ok_of_resolves {group declaration : Occurrence}
    (searches : ∀ name, ∃ found, search (root.declarationsAround group.pos) name = .ok found)
    (resolves : declaration.Resolves) : ∃ found, verdict root group declaration = .ok found := by
  obtain ⟨name, resolved⟩ := resolves
  unfold verdict
  rw [resolved]
  cases name with
  | indeterminate => exact ⟨none, rfl⟩
  | known name =>
    obtain ⟨found, decision⟩ := searches name
    exact ⟨if found then some { declaration, name } else none, by simp [decision, Except.map]⟩

/-! ### The order of the looks -/

theorem mem_declarationsInOrder {group declaration : Occurrence} :
    (group, declaration) ∈ root.declarationsInOrder ↔
      group ∈ root.groups ∧ declaration.DirectIn group := by
  simp [Occurrence.declarationsInOrder, Occurrence.madeDirectly_eq,
    Occurrence.mem_directDeclarations]

theorem verdicts_groups (root : Occurrence) :
    verdicts root root.groups =
      root.declarationsInOrder.map fun look => verdict root look.1 look.2 := by
  rw [verdicts, Occurrence.declarationsInOrder, List.map_flatMap]
  refine List.flatMap_congr fun group _ => ?_
  rw [Occurrence.madeDirectly_eq, List.map_map]
  rfl

theorem declarationsInOrder_sorted (root : Occurrence) :
    root.declarationsInOrder.Pairwise fun first second => first.1.pos ≤ second.1.pos := by
  rw [Occurrence.declarationsInOrder, List.pairwise_flatMap]
  constructor
  · intro group _
    rw [List.pairwise_map]
    exact List.pairwise_of_forall fun _ _ => le_rfl
  · refine root.groups_sorted.imp fun less first firstMem second secondMem => ?_
    obtain ⟨_, _, rfl⟩ := List.mem_map.mp firstMem
    obtain ⟨_, _, rfl⟩ := List.mem_map.mp secondMem
    exact less.le

/-- In a list in increasing order, what comes before an item in the order stands before it. -/
theorem mem_before_of_lt {Item : Type} {key : Item → Nat} {before after : List Item}
    {item other : Item}
    (sorted : (before ++ item :: after).Pairwise fun first second => key first ≤ key second)
    (mem : other ∈ before ++ item :: after) (less : key other < key item) : other ∈ before := by
  rcases List.mem_append.mp mem with earlier | later
  · exact earlier
  · rcases List.mem_cons.mp later with rfl | behind
    · exact absurd less (lt_irrefl _)
    · have behindItem := (List.pairwise_cons.mp (List.pairwise_append.mp sorted).2.1).1 _ behind
      exact absurd less (not_lt.mpr behindItem)

/-- The declarations of a group around have been looked at before. -/
theorem mem_before_of_encloses {before after : List (Occurrence × Occurrence)}
    {group declaration outer declared : Occurrence}
    (order : root.declarationsInOrder = before ++ (group, declaration) :: after)
    (outerMem : outer ∈ root.groups) (encloses : outer.Encloses group)
    (direct : declared.DirectIn outer) : (outer, declared) ∈ before := by
  have mem := mem_declarationsInOrder.mpr ⟨outerMem, direct⟩
  have sorted := declarationsInOrder_sorted root
  rw [order] at mem sorted
  exact mem_before_of_lt sorted mem encloses.pos_lt

/-- **At the first look after resolved names, no search can fail.** -/
theorem search_ok_after {before after : List (Occurrence × Occurrence)}
    {group declaration : Occurrence}
    (order : root.declarationsInOrder = before ++ (group, declaration) :: after)
    (resolved : ∀ earlier ∈ before, earlier.2.Resolves) (name : String) :
    ∃ found, search (root.declarationsAround group.pos) name = .ok found := by
  have groupMem : group ∈ root.groups := by
    have mem : (group, declaration) ∈ root.declarationsInOrder := by
      rw [order]
      exact List.mem_append_right _ List.mem_cons_self
    exact (mem_declarationsInOrder.mp mem).1
  refine search_around_ok root.self_mem_walk (Occurrence.mem_groups.mp groupMem).1 ?_ name
  intro outer outerMem encloses declared direct
  exact resolved _ (mem_before_of_encloses order outerMem encloses direct)

/-- **The failure of a whole tree is that of the first name that cannot be resolved.** -/
theorem contribution_failure_iff {error : Unresolvable} :
    (contribution root root).failure = some error ↔
      ∃ before group declaration after,
        root.declarationsInOrder = before ++ (group, declaration) :: after ∧
          (∀ earlier ∈ before, earlier.2.Resolves) ∧ declaration.resolve = .error error := by
  have looks : (contribution root root).failure =
      root.declarationsInOrder.findSome? fun look => failureOf (verdict root look.1 look.2) := by
    show (verdicts root root.groups).findSome? failureOf = _
    rw [verdicts_groups, List.findSome?_map]
    rfl
  rw [looks, List.findSome?_eq_some_iff]
  constructor
  · rintro ⟨before, ⟨group, declaration⟩, after, order, fails, silent⟩
    have resolved : ∀ earlier ∈ before, earlier.2.Resolves := fun earlier mem =>
      resolves_of_goesOn (failureOf_eq_none_iff.mp (silent earlier mem))
    refine ⟨before, group, declaration, after, order, resolved, ?_⟩
    have stops := failureOf_eq_some_iff.mp fails
    cases outcome : declaration.resolve with
    | error other =>
      rw [verdict_of_error outcome] at stops
      rw [Except.error.inj stops]
    | ok name =>
      obtain ⟨found, passes⟩ := verdict_ok_of_resolves
        (search_ok_after order resolved) ⟨name, outcome⟩
      rw [passes] at stops
      cases stops
  · rintro ⟨before, group, declaration, after, order, resolved, fails⟩
    refine ⟨before, (group, declaration), after, order, ?_, fun earlier mem => ?_⟩
    · exact failureOf_eq_some_iff.mpr (verdict_of_error fails)
    · obtain ⟨first, rest, rfl⟩ := List.append_of_mem mem
      rw [List.append_assoc, List.cons_append] at order
      obtain ⟨found, passes⟩ := verdict_ok_of_resolves
        (search_ok_after order fun other otherMem =>
          resolved other (List.mem_append_left _ otherMem)) (resolved earlier mem)
      rw [passes]
      rfl

/-- A whole tree fails if any direct declaration of any of its groups cannot be resolved. -/
theorem contribution_fails_iff :
    (∃ error, (contribution root root).failure = some error) ↔
      ∃ group ∈ root.groups, ∃ declaration : Occurrence,
        declaration.DirectIn group ∧ ¬ declaration.Resolves := by
  constructor
  · rintro ⟨error, fails⟩
    obtain ⟨before, group, declaration, after, order, _, bad⟩ := contribution_failure_iff.mp fails
    have mem : (group, declaration) ∈ root.declarationsInOrder := by
      rw [order]
      exact List.mem_append_right _ List.mem_cons_self
    obtain ⟨groupMem, direct⟩ := mem_declarationsInOrder.mp mem
    refine ⟨group, groupMem, declaration, direct, fun ⟨name, resolved⟩ => ?_⟩
    rw [bad] at resolved
    cases resolved
  · rintro ⟨group, groupMem, declaration, direct, unresolved⟩
    by_contra silent
    have passes : (contribution root root).failure = none :=
      Option.eq_none_iff_forall_ne_some.mpr fun error fails => silent ⟨error, fails⟩
    have looks := Contribution.ofGroups_failure_eq_none.mp passes
    have mem := Occurrence.mem_directDeclarations.mpr direct
    exact unresolved (resolves_of_goesOn (looks group groupMem declaration mem))

/-! ### Points that a check comes to -/

/-- A visit up to the look at a declaration of a group: the places before the group, the counting of
the group, and the looks at its first declarations. It tells which declarations remain. -/
def visitUpTo (index : ScopeIndex) (visited : List Occurrence) (group : Occurrence) (looks : Nat) :
    Check (List Occurrence) := do
  forM visited (overrideVisitor index).handle
  modify Progress.count
  let declarations ← (liftM (ScopeView.declarations group) : Check (List Occurrence))
  forM (declarations.take looks) (checkDeclaration index group.pos)
  return declarations.drop looks

/-- **A visit is the visit up to such a point and what remains after it.** -/
theorem visit_eq_upTo {index : ScopeIndex} {visited later : List Occurrence} {group : Occurrence}
    (order : root.walk = visited ++ group :: later) (isGroup : group.node.isGroup = true)
    (looks : Nat) :
    (overrideVisitor index).visit root = (do
      let remaining ← visitUpTo index visited group looks
      forM remaining (checkDeclaration index group.pos)
      forM later (overrideVisitor index).handle) := by
  have handled : (overrideVisitor index).handle group = (do
      modify Progress.count
      let declarations ← (liftM (ScopeView.declarations group) : Check (List Occurrence))
      forM declarations (checkDeclaration index group.pos)) := by
    obtain ⟨pos, node⟩ := group
    cases node with
    | block invocation body location => exact if_pos isGroup
    | _ => cases isGroup
  have split : ∀ declarations : List Occurrence,
      (forM declarations (checkDeclaration index group.pos) : Check Unit) = (do
        forM (declarations.take looks) (checkDeclaration index group.pos)
        forM (declarations.drop looks) (checkDeclaration index group.pos)) := by
    intro declarations
    rw [← List.forM_append, List.take_append_drop]
  rw [Visitor.visit, order, List.forM_append, List.forM_cons, handled, visitUpTo]
  simp only [bind_assoc, pure_bind]
  refine bind_congr fun _ => bind_congr fun _ => bind_congr fun declarations => ?_
  rw [split declarations, bind_assoc]

/-- The check of a whole tree comes to the look at a declaration of a group without a failure, and
`view` is what has been collected by then. -/
def ComesTo (tree : Node) (group declaration : Occurrence) (view : ScopeView) : Prop :=
  ∃ visited later looks remaining progress,
    (⟨0, tree⟩ : Occurrence).walk = visited ++ group :: later ∧ group.node.isGroup = true ∧
      ((visitUpTo (.ofTree ⟨0, tree⟩) visited group looks).run.run {}).run {} =
        ((.ok (declaration :: remaining), progress), view)

/-- A check that ran through two pieces ran through the first, and then through the second. -/
theorem Check.ran_bind {α β : Type} {first : Check α} {next : α → Check β} {value : β}
    {before after : Progress} {view last : ScopeView}
    (ran : ((first >>= next).run.run before).run view = ((.ok value, after), last)) :
    ∃ middle progress between,
      (first.run.run before).run view = ((.ok middle, progress), between) ∧
        ((next middle).run.run progress).run between = ((.ok value, after), last) := by
  simp only [ExceptT.run_bind, StateT.run_bind] at ran
  cases start : (first.run.run before).run view with
  | mk outcome between =>
    obtain ⟨outcome, progress⟩ := outcome
    cases outcome with
    | ok middle =>
      rw [start] at ran
      exact ⟨middle, progress, between, rfl, ran⟩
    | error error =>
      rw [start] at ran
      cases ran

/-- What stands around a point that a check comes to has been resolved, and the view holds. -/
theorem ComesTo.resolved {tree : Node} {group declaration : Occurrence} {view : ScopeView}
    (comes : ComesTo tree group declaration view) :
    view.Holds ⟨0, tree⟩ ∧ group ∈ (⟨0, tree⟩ : Occurrence).walk ∧
      ∀ outer ∈ (⟨0, tree⟩ : Occurrence).groups, outer.Encloses group →
        ∀ declared : Occurrence, declared.DirectIn outer → declared.Resolves := by
  obtain ⟨visited, later, looks, remaining, progress, order, _, ran⟩ := comes
  have rootMem := Occurrence.self_mem_walk ⟨0, tree⟩
  have groupMem : group ∈ (⟨0, tree⟩ : Occurrence).walk := by
    rw [order]
    exact List.mem_append_right _ List.mem_cons_self
  have among : ∀ place ∈ visited, place ∈ (⟨0, tree⟩ : Occurrence).walk := by
    intro place mem
    rw [order]
    exact List.mem_append_left _ mem
  obtain ⟨_, _, afterPlaces, ranPlaces, ran⟩ := Check.ran_bind ran
  obtain ⟨passes, holds⟩ := (walked_does rootMem among).of_ran (ScopeView.holds_empty _) ranPlaces
  obtain ⟨_, _, afterCount, ranCount, ran⟩ := Check.ran_bind ran
  have holds := (Check.Does.counted.of_ran holds ranCount).2
  obtain ⟨declarations, _, afterQuestion, ranQuestion, ran⟩ := Check.ran_bind ran
  have holds : afterQuestion.Holds ⟨0, tree⟩ := by
    obtain ⟨after, afterHolds, answered⟩ := Lookup.Answers.declarations groupMem afterCount holds
    have same : after = afterQuestion :=
      (congrArg Prod.snd answered).symm.trans (congrArg Prod.snd ranQuestion)
    exact same ▸ afterHolds
  obtain ⟨_, _, afterLooks, ranLooks, ran⟩ := Check.ran_bind ran
  have holds := ((Check.Does.forM_does fun declaration _ =>
    checkDeclaration_does rootMem group declaration).of_ran holds ranLooks).2
  have same : afterLooks = view := congrArg Prod.snd ran
  rw [same] at holds
  refine ⟨holds, groupMem, fun outer outerMem encloses declared direct => ?_⟩
  have outerVisited : outer ∈ visited := by
    have mem := (Occurrence.mem_groups.mp outerMem).1
    have sorted := (Occurrence.walk_sorted ⟨0, tree⟩).imp le_of_lt
    rw [order] at mem sorted
    exact mem_before_of_lt sorted mem encloses.pos_lt
  have looks := Contribution.ofGroups_failure_eq_none.mp passes
  have isGroup := (Occurrence.mem_groups.mp outerMem).2
  exact resolves_of_goesOn (looks outer (List.mem_filter.mpr ⟨outerVisited, isGroup⟩) declared
    (Occurrence.mem_directDeclarations.mpr direct))

/-- **A check of a whole tree fails exactly if a direct declaration of a group has a name that
cannot be resolved,** with the node that was rejected at the first of them in the order of the looks.
At no point that the check comes to does a search for a name fail in the groups around. -/
theorem analyzeTree_error_iff (tree : Node) (file : String) :
    ((∃ error, analyzeTree tree file = .error error) ↔
      ∃ group ∈ (⟨0, tree⟩ : Occurrence).groups, ∃ declaration : Occurrence,
        declaration.DirectIn group ∧ ¬ declaration.Resolves) ∧
    (∀ error, analyzeTree tree file = .error error ↔
      ∃ before group declaration after,
        (⟨0, tree⟩ : Occurrence).declarationsInOrder = before ++ (group, declaration) :: after ∧
          (∀ earlier ∈ before, earlier.2.Resolves) ∧ declaration.resolve = .error error) ∧
    ∀ group declaration view, ComesTo tree group declaration view →
      ∀ name, ∃ found after,
        ((ScopeIndex.ofTree ⟨0, tree⟩).declaredAbove group.pos name).run.run view =
          (.ok found, after) := by
  have failsAs : ∀ error, analyzeTree tree file = .error error ↔
      (contribution ⟨0, tree⟩ ⟨0, tree⟩).failure = some error := by
    intro error
    rw [analyzeTree_eq]
    cases (contribution ⟨0, tree⟩ ⟨0, tree⟩).failure <;> simp
  refine ⟨?_, fun error => (failsAs error).trans contribution_failure_iff, ?_⟩
  · rw [← contribution_fails_iff]
    exact exists_congr failsAs
  · intro group declaration view comes name
    obtain ⟨holds, groupMem, around⟩ := comes.resolved
    have rootMem := Occurrence.self_mem_walk ⟨0, tree⟩
    cases name with
    | indeterminate => exact ⟨false, view, rfl⟩
    | known name =>
      obtain ⟨found, decision⟩ := search_around_ok rootMem groupMem around name
      obtain ⟨after, _, ran⟩ := declaredAbove_answers rootMem group.pos name view holds
      exact ⟨found, after, by rw [ran, decision]⟩

/-- A declaration whose name no rule understands. -/
def letOfConstant : Node :=
  .call { method := "let", arguments := [.other "const" [] (some "NAME") none] }

/-- A group with a bad name in an example, which is no group, and one in the group inside. -/
def spoiled : Node :=
  contextOf [letOf "a", .block { method := "it" } (some letOfConstant) none,
    contextOf [letOf "a", letOfConstant]]

/-- In `spoiled` the check comes to the last declaration of the inner group, where a search would
still go through, and fails there, not at the bad name in the example. -/
theorem analyzeTree_error_iff_spoiled :
    (∃ view, ComesTo spoiled ⟨9, contextOf [letOf "a", letOfConstant]⟩ ⟨14, letOfConstant⟩ view ∧
      ∃ found after, ((ScopeIndex.ofTree ⟨0, spoiled⟩).declaredAbove 9 (.known "a")).run.run view =
        (.ok found, after)) ∧
    ∃ before group declaration after,
      (⟨0, spoiled⟩ : Occurrence).declarationsInOrder = before ++ (group, declaration) :: after ∧
        (∀ earlier ∈ before, earlier.2.Resolves) ∧
          declaration.resolve = .error ⟨⟨15, .other "const" [] (some "NAME") none⟩⟩ := by
  have comes : ∃ view,
      ComesTo spoiled ⟨9, contextOf [letOf "a", letOfConstant]⟩ ⟨14, letOfConstant⟩ view :=
    ⟨_, (⟨0, spoiled⟩ : Occurrence).walk.take 9, (⟨0, spoiled⟩ : Occurrence).walk.drop 10,
      1, [], _, rfl, rfl, rfl⟩
  obtain ⟨view, comes⟩ := comes
  exact ⟨⟨view, comes, (analyzeTree_error_iff spoiled "a_spec.rb").2.2 _ _ _ comes _⟩,
    ((analyzeTree_error_iff spoiled "a_spec.rb").2.1 _).mp rfl⟩

end LetShadow
