/-
**Which declarations a check reports, and in which order.**

The offenses of a tree are described without any of the walks, chains and views that find them:

* `DeclaredAround` — some group that encloses a group directly declares a name.
* `overridden` — **the declarations that override another:** group by group in pre-order, the
  declarations made directly in a group in source order, those with a known name that is declared
  around the group.

A check that goes through reports exactly these, each once, and counts every group
(`offenses_eq_overridden`). Their order is that of the groups. It is not the order in which the
declarations stand in the source: a group is looked at before the groups inside it, also when one of
its declarations stands behind them (`offenses_increasing_iff`).
-/

import LetShadow.Check.Result
import LetShadow.Proofs.Check.Visit

namespace LetShadow

/-! ### What should be reported -/

/-- A group of the tree at `root` that encloses a group directly declares the name. -/
def DeclaredAround (root group : Occurrence) (name : String) : Prop :=
  ∃ outer ∈ root.groups, outer.Encloses group ∧
    ∃ declaration : Occurrence, declaration.DirectIn outer ∧
      declaration.resolve = .ok (.known name)

open Classical in
/-- The declarations made directly in a group, in source order. -/
noncomputable def Occurrence.madeDirectly (group : Occurrence) : List Occurrence :=
  group.walk.filter fun place => place.DirectIn group

open Classical in
/-- A declaration of a group as an offense, if it has a known name that is declared around. -/
noncomputable def overriding (root group declaration : Occurrence) : Option Offense :=
  match declaration.resolve with
  | .ok (.known name) =>
    if DeclaredAround root group name then some { declaration, name } else none
  | _ => none

/-- The declarations of one group that override one of a group around. -/
noncomputable def overriddenIn (root group : Occurrence) : List Offense :=
  group.madeDirectly.filterMap (overriding root group)

/-- **The declarations of a tree that override one of a group around,** by groups in pre-order. -/
noncomputable def overridden (root : Occurrence) : List Offense :=
  root.groups.flatMap (overriddenIn root)

/-! ### The search tells what is declared around -/

variable {tree root : Occurrence}

theorem Occurrence.madeDirectly_eq (group : Occurrence) :
    group.madeDirectly = group.directDeclarations := by
  refine eq_of_sorted ((walk_sorted group).filter _) group.directDeclarations_sorted fun place => ?_
  rw [madeDirectly, List.mem_filter, mem_directDeclarations]
  simp only [decide_eq_true_eq]
  exact and_iff_right_of_imp fun direct => direct.encloses.mem_walk

theorem Occurrence.mem_groups {here group : Occurrence} :
    group ∈ here.groups ↔ group ∈ here.walk ∧ group.node.isGroup = true :=
  List.mem_filter

theorem mem_declarationsAround {group declaration : Occurrence} (rootMem : root ∈ tree.walk)
    (groupMem : group ∈ tree.walk) :
    declaration ∈ root.declarationsAround group.pos ↔
      ∃ outer ∈ root.groups, outer.Encloses group ∧ declaration.DirectIn outer := by
  rw [Occurrence.declarationsAround, List.mem_flatMap]
  refine exists_congr fun outer => ?_
  rw [Occurrence.groupsAround, List.mem_filter, Occurrence.mem_placesAround rootMem groupMem,
    Occurrence.mem_groups, Occurrence.mem_directDeclarations]
  tauto

theorem decides_of_name {name : String} {declaration : Occurrence}
    (named : declaration.resolve = .ok (.known name)) : declaration.decides name = true := by
  rw [Occurrence.decides, named]
  exact Name.agrees_iff.mpr ⟨name, rfl, rfl⟩

/-- A search that finds something finds a declaration with the name. -/
theorem exists_of_search_eq_true {declarations : List Occurrence} {name : String}
    (found : search declarations name = .ok true) :
    ∃ declaration ∈ declarations, declaration.resolve = .ok (.known name) := by
  rw [search] at found
  split at found
  · cases found
  · rename_i declaration first
    have decides := List.find?_some first
    refine ⟨declaration, List.mem_of_find?_eq_some first, ?_⟩
    rw [Occurrence.decides] at decides
    split at decides
    · rename_i known resolved
      obtain ⟨value, rfl, same⟩ := Name.agrees_iff.mp decides
      rw [resolved, same]
    · rename_i error failed
      rw [failed] at found
      cases found

/-- A search that finds nothing has passed over all declarations. -/
theorem not_named_of_search_eq_false {declarations : List Occurrence} {name : String}
    (missed : search declarations name = .ok false) {declaration : Occurrence}
    (mem : declaration ∈ declarations) : declaration.resolve ≠ .ok (.known name) := by
  intro named
  rw [search] at missed
  split at missed
  · rename_i none
    exact List.find?_eq_none.mp none declaration mem (decides_of_name named)
  · exact map_true_ne_false _ missed

/-- **A look that does not fail finds an offense exactly where one should be reported.** -/
theorem offenseOf_verdict {group declaration : Occurrence} (rootMem : root ∈ tree.walk)
    (groupMem : group ∈ tree.walk) (passes : goesOn (verdict root group declaration) = true) :
    offenseOf (verdict root group declaration) = overriding root group declaration := by
  classical
  unfold verdict at passes ⊢
  unfold overriding
  cases resolved : declaration.resolve with
  | error error => rfl
  | ok found =>
    rw [resolved] at passes
    cases found with
    | indeterminate => rfl
    | known name =>
      have around : DeclaredAround root group name ↔
          ∃ declared ∈ root.declarationsAround group.pos,
            declared.resolve = .ok (.known name) := by
        simp only [mem_declarationsAround rootMem groupMem, DeclaredAround]
        constructor
        · rintro ⟨outer, outerMem, encloses, declared, direct, named⟩
          exact ⟨declared, ⟨outer, outerMem, encloses, direct⟩, named⟩
        · rintro ⟨declared, ⟨outer, outerMem, encloses, direct⟩, named⟩
          exact ⟨outer, outerMem, encloses, declared, direct, named⟩
      show offenseOf ((search (root.declarationsAround group.pos) name).map _) = ite _ _ _
      change goesOn ((search (root.declarationsAround group.pos) name).map _) = true at passes
      cases decision : search (root.declarationsAround group.pos) name with
      | error error =>
        rw [decision] at passes
        cases passes
      | ok found =>
        cases found with
        | true =>
          rw [if_pos (around.mpr (exists_of_search_eq_true decision))]
          rfl
        | false =>
          have missing : ¬ DeclaredAround root group name := fun declared => by
            obtain ⟨other, mem, named⟩ := around.mp declared
            exact not_named_of_search_eq_false decision mem named
          rw [if_neg missing]
          rfl

/-! ### Visits -/

/-- What looks that do not fail find is what should be reported. -/
theorem filterMap_offenseOf {group : Occurrence} (rootMem : root ∈ tree.walk)
    (groupMem : group ∈ tree.walk) {looks : List Occurrence}
    (passed : ∀ declaration ∈ looks, goesOn (verdict root group declaration) = true) :
    (looks.filterMap fun declaration => offenseOf (verdict root group declaration)) =
      looks.filterMap (overriding root group) :=
  List.filterMap_congr fun declaration mem =>
    offenseOf_verdict rootMem groupMem (passed declaration mem)

/-- Groups without a failing look report what they should. -/
theorem filterMap_offenseOf_verdicts (rootMem : root ∈ tree.walk) {groups : List Occurrence}
    (among : ∀ group ∈ groups, group ∈ tree.walk)
    (clean : ∀ group ∈ groups, isClean root group = true) :
    (verdicts root groups).filterMap offenseOf = groups.flatMap (overriddenIn root) := by
  rw [verdicts, List.filterMap_flatMap]
  refine List.flatMap_congr fun group mem => ?_
  have passed := List.all_eq_true.mp (clean group mem)
  rw [overriddenIn, Occurrence.madeDirectly_eq, List.filterMap_map]
  exact filterMap_offenseOf rootMem (among group mem) passed

/-- **A visit that does not fail counts all groups and reports what should be reported.** -/
theorem contribution_of_none (rootMem : root ∈ tree.walk) {here : Occurrence}
    (hereMem : here ∈ tree.walk) (passes : (contribution root here).failure = none) :
    (contribution root here).scopes = here.groups.length ∧
      (contribution root here).offenses = here.groups.flatMap (overriddenIn root) := by
  have goOn : ∀ outcome ∈ verdicts root here.groups, goesOn outcome = true :=
    Contribution.ofVerdicts_failure_eq_none.mp passes
  have looks := Contribution.ofGroups_failure_eq_none.mp passes
  have clean : ∀ group ∈ here.groups, isClean root group = true := fun group groupMem =>
    List.all_eq_true.mpr (looks group groupMem)
  have among : ∀ group ∈ here.groups, group ∈ tree.walk := fun group groupMem =>
    Occurrence.walk_trans (Occurrence.mem_groups.mp groupMem).1 hereMem
  constructor
  · show (reached root here.groups).length = here.groups.length
    have whole : here.groups.takeWhile (isClean root) = here.groups :=
      List.takeWhile_eq_self_iff.mpr clean
    have rest : here.groups.dropWhile (isClean root) = [] := List.dropWhile_eq_nil_iff.mpr clean
    rw [reached, whole, rest, List.take_nil, List.append_nil]
  · show ((verdicts root here.groups).takeWhile goesOn).filterMap offenseOf = _
    rw [List.takeWhile_eq_self_iff.mpr goOn]
    exact filterMap_offenseOf_verdicts rootMem among clean

/-- A visit of the tree at `here` fails at the look at a declaration of a group, after the groups
`earlier` and the declarations `before` of the group. -/
structure FailsAt (root here : Occurrence) (earlier : List Occurrence) (group : Occurrence)
    (before : List Occurrence) (declaration : Occurrence) (error : Unresolvable) : Prop where
  groups : ∃ later, here.groups = earlier ++ group :: later
  looks : ∃ after, group.madeDirectly = before ++ declaration :: after
  clean : ∀ outer ∈ earlier, isClean root outer = true
  passed : ∀ other ∈ before, goesOn (verdict root group other) = true
  fails : verdict root group declaration = .error error

/-- **A visit that fails counts the groups up to the failing one** and reports what should be
reported before the look that fails. -/
theorem contribution_of_failure (rootMem : root ∈ tree.walk) {here : Occurrence}
    (hereMem : here ∈ tree.walk) {error : Unresolvable}
    (fails : (contribution root here).failure = some error) :
    ∃ earlier group before declaration,
      FailsAt root here earlier group before declaration error ∧
        (contribution root here).scopes = earlier.length + 1 ∧
        (contribution root here).offenses =
          earlier.flatMap (overriddenIn root) ++ before.filterMap (overriding root group) := by
  obtain ⟨earlier, group, later, order, clean, failing, scopes, offenses⟩ :=
    Contribution.exists_of_ofGroups_failure fails
  obtain ⟨before, declaration, after, looks, passed, stops, found⟩ :=
    Contribution.exists_of_ofVerdicts_failure failing
  have among : ∀ outer ∈ here.groups, outer ∈ tree.walk := fun outer outerMem =>
    Occurrence.walk_trans (Occurrence.mem_groups.mp outerMem).1 hereMem
  rw [order] at among
  obtain ⟨amongEarlier, amongRest⟩ := List.forall_mem_append.mp among
  have groupMem := amongRest group List.mem_cons_self
  refine ⟨earlier, group, before, declaration, ⟨⟨later, order⟩, ⟨after, ?_⟩, clean, passed, stops⟩,
    scopes, offenses.trans ?_⟩
  · rw [Occurrence.madeDirectly_eq, looks]
  · rw [filterMap_offenseOf_verdicts rootMem amongEarlier clean, Contribution.ofGroup_offenses,
      found, filterMap_offenseOf rootMem groupMem passed]

/-- **The result for a tree is that of its contribution.** -/
theorem analyzeTree_eq (tree : Node) (file : String) :
    analyzeTree tree file =
      match (contribution ⟨0, tree⟩ ⟨0, tree⟩).failure with
      | none => .ok ((({} : Progress).add (contribution ⟨0, tree⟩ ⟨0, tree⟩)).result file)
      | some error => .error error := by
  have mem := Occurrence.self_mem_walk ⟨0, tree⟩
  have isFor : (Checker.ofTree ⟨0, tree⟩).index = .ofTree ⟨0, tree⟩ := rfl
  obtain ⟨_, _, ran⟩ := Checker.visit_eq mem mem isFor (ScopeView.holds_empty _)
  unfold analyzeTree analyze
  simp only [ran]
  cases (contribution ⟨0, tree⟩ ⟨0, tree⟩).failure <;> rfl

theorem analyzeTree_eq_ok_iff {tree : Node} {file : String} {result : Result} :
    analyzeTree tree file = .ok result ↔
      (contribution ⟨0, tree⟩ ⟨0, tree⟩).failure = none ∧
        result = { file, offenses := overridden ⟨0, tree⟩,
                   scopes := (⟨0, tree⟩ : Occurrence).groups.length } := by
  have mem := Occurrence.self_mem_walk ⟨0, tree⟩
  rw [analyzeTree_eq]
  cases outcome : (contribution ⟨0, tree⟩ ⟨0, tree⟩).failure with
  | some error => simp
  | none =>
    obtain ⟨scopes, offenses⟩ := contribution_of_none mem mem outcome
    have same : (({} : Progress).add (contribution ⟨0, tree⟩ ⟨0, tree⟩)).result file =
        { file, offenses := overridden ⟨0, tree⟩,
          scopes := (⟨0, tree⟩ : Occurrence).groups.length } := by
      simp [Progress.add, Progress.result, scopes, offenses, overridden]
    simp [same, eq_comm]

/-! ### One offense for each declaration -/

theorem declaration_of_overriding {group declaration : Occurrence} {offense : Offense}
    (found : overriding root group declaration = some offense) :
    offense.declaration = declaration := by
  unfold overriding at found
  split at found
  · split at found
    · rw [← Option.some.inj found]
    · cases found
  · cases found

theorem directIn_of_mem_overriddenIn {group : Occurrence} {offense : Offense}
    (mem : offense ∈ overriddenIn root group) : offense.declaration.DirectIn group := by
  obtain ⟨declaration, declared, found⟩ := List.mem_filterMap.mp mem
  rw [declaration_of_overriding found]
  rw [Occurrence.madeDirectly_eq] at declared
  exact Occurrence.mem_directDeclarations.mp declared

/-- An offense about a direct declaration of a group was found among the declarations of it. -/
theorem mem_overriddenIn {group : Occurrence} {offense : Offense} (mem : offense ∈ overridden root)
    (groupMem : group ∈ root.groups) (direct : offense.declaration.DirectIn group) :
    offense ∈ overriddenIn root group := by
  obtain ⟨other, otherMem, found⟩ := List.mem_flatMap.mp mem
  have otherDirect := directIn_of_mem_overriddenIn found
  rwa [direct.unique otherDirect (Occurrence.mem_groups.mp groupMem).1
    (Occurrence.mem_groups.mp otherMem).1]

theorem overriddenIn_sorted (root group : Occurrence) :
    (overriddenIn root group).Pairwise fun first second =>
      first.declaration.pos < second.declaration.pos := by
  rw [overriddenIn, List.pairwise_filterMap, Occurrence.madeDirectly_eq]
  refine group.directDeclarations_sorted.imp fun less first firstFound second secondFound => ?_
  rwa [declaration_of_overriding firstFound, declaration_of_overriding secondFound]

/-- In a list of places in increasing position, the earlier places are those of smaller position. -/
theorem pairwise_iff_of_sorted {places : List Occurrence} {related : Occurrence → Occurrence → Prop}
    (sorted : places.Pairwise fun first second => first.pos < second.pos) :
    places.Pairwise related ↔
      ∀ first ∈ places, ∀ second ∈ places, first.pos < second.pos → related first second := by
  constructor
  · intro pairs
    induction places with
    | nil => exact fun _ mem => nomatch mem
    | cons place rest ih =>
      obtain ⟨below, restSorted⟩ := List.pairwise_cons.mp sorted
      obtain ⟨toRest, restPairs⟩ := List.pairwise_cons.mp pairs
      intro first firstMem second secondMem less
      rcases List.mem_cons.mp firstMem with rfl | firstLater
      · rcases List.mem_cons.mp secondMem with rfl | secondLater
        · exact absurd less (lt_irrefl _)
        · exact toRest second secondLater
      · rcases List.mem_cons.mp secondMem with rfl | secondLater
        · exact absurd (less.trans (below first firstLater)) (lt_irrefl _)
        · exact ih restSorted restPairs first firstLater second secondLater less
  · intro related
    exact sorted.imp_of_mem fun firstMem secondMem less => related _ firstMem _ secondMem less

theorem Occurrence.groups_sorted (here : Occurrence) :
    here.groups.Pairwise fun first second => first.pos < second.pos :=
  (walk_sorted here).filter _

/-- No declaration is reported twice, whichever groups are looked at. -/
theorem flatMap_overriddenIn_nodup (root here : Occurrence) :
    ((here.groups.flatMap (overriddenIn root)).map fun offense => offense.declaration.pos).Nodup := by
  rw [List.Nodup, List.pairwise_map, List.pairwise_flatMap]
  refine ⟨fun group _ => (overriddenIn_sorted root group).imp fun less => less.ne, ?_⟩
  rw [pairwise_iff_of_sorted here.groups_sorted]
  intro outer outerMem inner innerMem less first firstMem second secondMem same
  have outerDirect := directIn_of_mem_overriddenIn firstMem
  have innerDirect := directIn_of_mem_overriddenIn secondMem
  have outerInside := (Occurrence.mem_groups.mp outerMem).1
  have innerInside := (Occurrence.mem_groups.mp innerMem).1
  have declared : first.declaration = second.declaration :=
    Occurrence.eq_of_pos_eq (Occurrence.walk_trans outerDirect.encloses.mem_walk outerInside)
      (Occurrence.walk_trans innerDirect.encloses.mem_walk innerInside) same
  rw [declared] at outerDirect
  rw [outerDirect.unique innerDirect outerInside innerInside] at less
  exact absurd less (lt_irrefl _)

/-- **No declaration is reported twice.** -/
theorem overridden_nodup (root : Occurrence) :
    ((overridden root).map fun offense => offense.declaration.pos).Nodup :=
  flatMap_overriddenIn_nodup root root

/-- **A check that goes through reports exactly the overriding declarations,** group by group, each
once, and counts every group. -/
theorem offenses_eq_overridden {tree : Node} {file : String} {result : Result}
    (analyzed : analyzeTree tree file = .ok result) :
    result.offenses = overridden ⟨0, tree⟩ ∧
      (result.offenses.map fun offense => offense.declaration.pos).Nodup ∧
      result.scopes = (⟨0, tree⟩ : Occurrence).groups.length := by
  obtain ⟨_, rfl⟩ := analyzeTree_eq_ok_iff.mp analyzed
  exact ⟨rfl, overridden_nodup _, rfl⟩

/-! ### The order of the offenses -/

/-- A declaration of a literal name. -/
def letOf (name : String) : Node :=
  .call { method := "let", arguments := [.symbol name none] }

/-- A group of some statements. -/
def contextOf (statements : List Node) : Node :=
  .block { method := "context" } (some (.sequence statements none)) none

/-- A group between two others, whose overriding declaration stands behind the inner group. -/
def crossed : Node :=
  contextOf [letOf "a", contextOf [contextOf [letOf "a"], letOf "a"]]

/-- In `crossed` both declarations of the inner groups override the outermost one. -/
theorem offenses_eq_overridden_crossed :
    ∃ result, analyzeTree crossed "a_spec.rb" = .ok result ∧
      (result.offenses = overridden ⟨0, crossed⟩ ∧
        (result.offenses.map fun offense => offense.declaration.pos).Nodup ∧
        result.scopes = (⟨0, crossed⟩ : Occurrence).groups.length) ∧
      result.offenses.map (fun offense => (offense.declaration.pos, offense.name)) =
        [(13, "a"), (11, "a")] ∧ result.scopes = 3 :=
  have analyzed : analyzeTree crossed "a_spec.rb" = .ok _ := rfl
  ⟨_, analyzed, offenses_eq_overridden analyzed, by decide, by decide⟩

/-- **The offenses need not stand in source order:** in `crossed` the outer one comes first. -/
theorem offenses_not_increasing_crossed :
    ∃ result, analyzeTree crossed "a_spec.rb" = .ok result ∧
      ¬ (result.offenses.map fun offense => offense.declaration.pos).Pairwise (· < ·) :=
  ⟨_, rfl, by decide⟩

/-- **When the offenses stand in source order:** exactly when no overriding declaration of a group
stands behind one of a group inside that group. -/
theorem offenses_increasing_iff {tree : Node} {file : String} {result : Result}
    (analyzed : analyzeTree tree file = .ok result) :
    (result.offenses.map fun offense => offense.declaration.pos).Pairwise (· < ·) ↔
      ∀ first ∈ result.offenses, ∀ second ∈ result.offenses,
        ∀ outer ∈ (⟨0, tree⟩ : Occurrence).groups, ∀ inner ∈ (⟨0, tree⟩ : Occurrence).groups,
          first.declaration.DirectIn outer → second.declaration.DirectIn inner →
            outer.Encloses inner → first.declaration.pos < second.declaration.pos := by
  obtain ⟨_, rfl⟩ := analyzeTree_eq_ok_iff.mp analyzed
  rw [List.pairwise_map]
  constructor
  · intro increasing first firstMem second secondMem outer outerMem inner innerMem
      outerDirect innerDirect encloses
    rw [overridden, List.pairwise_flatMap,
      pairwise_iff_of_sorted (Occurrence.groups_sorted _)] at increasing
    exact increasing.2 outer outerMem inner innerMem encloses.pos_lt
      first (mem_overriddenIn firstMem outerMem outerDirect)
      second (mem_overriddenIn secondMem innerMem innerDirect)
  · intro nested
    rw [overridden, List.pairwise_flatMap,
      pairwise_iff_of_sorted (Occurrence.groups_sorted _)]
    refine ⟨fun group _ => overriddenIn_sorted _ group, ?_⟩
    intro outer outerMem inner innerMem less first firstMem second secondMem
    have outerDirect := directIn_of_mem_overriddenIn firstMem
    have innerDirect := directIn_of_mem_overriddenIn secondMem
    have outerInRoot := (Occurrence.mem_groups.mp outerMem).1
    have innerInRoot := (Occurrence.mem_groups.mp innerMem).1
    rcases Occurrence.mem_walk_or_stop_le outerInRoot innerInRoot less.le with inside | behind
    · have encloses := (Occurrence.encloses_iff_between outerInRoot innerInRoot).mpr
        ⟨less, ((Occurrence.mem_walk_iff_between outerInRoot innerInRoot).mp inside).2⟩
      exact nested first (List.mem_flatMap.mpr ⟨outer, outerMem, firstMem⟩) second
        (List.mem_flatMap.mpr ⟨inner, innerMem, secondMem⟩) outer outerMem inner innerMem
        outerDirect innerDirect encloses
    · -- The groups stand one behind the other, and so do their declarations.
      have before := (Occurrence.walk_bounds outerDirect.encloses.mem_walk).2
      have last := first.declaration.pos_lt_stop
      have after := innerDirect.encloses.pos_lt
      omega

/-- Three groups, one inside the other, with their declarations in front. -/
def nested : Node :=
  contextOf [letOf "a", contextOf [letOf "a", contextOf [letOf "a"]]]

/-- In `nested` no overriding declaration stands behind one of a group inside. -/
theorem offenses_increasing_iff_nested :
    ∃ result, analyzeTree nested "a_spec.rb" = .ok result ∧
      result.offenses.map (fun offense => offense.declaration.pos) = [8, 13] ∧
      ∀ first ∈ result.offenses, ∀ second ∈ result.offenses,
        ∀ outer ∈ (⟨0, nested⟩ : Occurrence).groups, ∀ inner ∈ (⟨0, nested⟩ : Occurrence).groups,
          first.declaration.DirectIn outer → second.declaration.DirectIn inner →
            outer.Encloses inner → first.declaration.pos < second.declaration.pos :=
  have analyzed : analyzeTree nested "a_spec.rb" = .ok _ := rfl
  ⟨_, analyzed, by decide, (offenses_increasing_iff analyzed).mp (by decide)⟩

end LetShadow
