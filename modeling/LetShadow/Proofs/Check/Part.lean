/-
**Checkers for a part of a tree.**

A checker may be made for a part of a tree and visit another: one inside of its own, around it, or
apart from it. Its index knows the groups of its own part only, so the groups around that part are not
seen, and of what it visits only the groups inside of its part can have an offense.

* `mem_overriddenIn_iff` — **when a declaration is reported:** its name is known, and a group of the
  part encloses its group and declares the name.
* `flatMap_overriddenIn_of_around`, `flatMap_overriddenIn_of_apart` — whatever stands around the part
  adds nothing to its offenses, and what stands apart from it has none.
* `progress_of_visit` — **what a visit that goes through adds to the progress of a checker,** in any
  session, for every two places.
-/

import LetShadow.Proofs.Check.Locality
import LetShadow.Proofs.Check.Session
import LetShadow.Proofs.Traversal

namespace LetShadow

variable {tree root here group : Occurrence}

/-! ### Groups inside of the part and outside -/

/-- A name is declared around a group by groups of the part only, and the part encloses them all. -/
theorem DeclaredAround.encloses {name : String} (declared : DeclaredAround root group name) :
    root.Encloses group := by
  obtain ⟨outer, outerMem, encloses, -⟩ := declared
  rcases Occurrence.mem_walk_iff_encloses.mp (Occurrence.mem_groups.mp outerMem).1 with rfl | inside
  · exact encloses
  · exact inside.trans encloses

theorem overriding_eq_some_iff {declaration : Occurrence} {offense : Offense} :
    overriding root group declaration = some offense ↔
      declaration.resolve = .ok (.known offense.name) ∧ DeclaredAround root group offense.name ∧
        offense.declaration = declaration ∧ offense.message = offenseMessage := by
  obtain ⟨reported, name, message⟩ := offense
  unfold overriding
  split
  · rename_i known resolved
    rw [resolved]
    split
    · rename_i declared
      simp only [Option.some.injEq, Offense.mk.injEq, Except.ok.injEq, Name.known.injEq]
      constructor
      · rintro ⟨rfl, rfl, rfl⟩
        exact ⟨rfl, declared, rfl, rfl⟩
      · rintro ⟨rfl, -, rfl, rfl⟩
        exact ⟨rfl, rfl, rfl⟩
    · rename_i undeclared
      refine iff_of_false nofun ?_
      rintro ⟨same, declared, -⟩
      cases same
      exact undeclared declared
  · rename_i unknown
    refine iff_of_false nofun ?_
    rintro ⟨resolved, -⟩
    exact unknown _ resolved

/-- **Which offenses a group has** for a checker of the part at `root`. -/
theorem mem_overriddenIn_iff {offense : Offense} :
    offense ∈ overriddenIn root group ↔
      offense.declaration.DirectIn group ∧
        offense.declaration.resolve = .ok (.known offense.name) ∧
        DeclaredAround root group offense.name ∧ offense.message = offenseMessage := by
  rw [overriddenIn, Occurrence.madeDirectly_eq, List.mem_filterMap]
  simp only [Occurrence.mem_directDeclarations, overriding_eq_some_iff]
  constructor
  · rintro ⟨_, direct, resolved, declared, rfl, message⟩
    exact ⟨direct, resolved, declared, message⟩
  · rintro ⟨direct, resolved, declared, message⟩
    exact ⟨_, direct, resolved, declared, rfl, message⟩

/-- **A group that is not inside of the part has no offense.** -/
theorem overriddenIn_eq_nil (outside : ¬ root.Encloses group) : overriddenIn root group = [] :=
  List.eq_nil_iff_forall_not_mem.mpr fun _ mem =>
    outside (mem_overriddenIn_iff.mp mem).2.2.1.encloses

/-- **What stands around the part adds nothing** to the offenses that it has by itself. -/
theorem flatMap_overriddenIn_of_around (around : root ∈ here.walk) :
    here.groups.flatMap (overriddenIn root) = overridden root := by
  have outside (group : Occurrence)
      (beside : (decide (root.pos ≤ group.pos) && decide (group.pos < root.stop)) = false) :
      overriddenIn root group = [] := by
    refine overriddenIn_eq_nil fun inside => ?_
    have bounds := Occurrence.walk_bounds inside.mem_walk
    have last := group.pos_lt_stop
    simp at beside
    omega
  rw [overridden, groups_eq_filter around, flatMap_filter_of_nil outside]

/-- **What stands apart from the part has no offenses.** -/
theorem flatMap_overriddenIn_of_apart (rootMem : root ∈ tree.walk) (hereMem : here ∈ tree.walk)
    (notInside : here ∉ root.walk) (notAround : root ∉ here.walk) :
    here.groups.flatMap (overriddenIn root) = [] := by
  refine List.flatMap_eq_nil_iff.mpr fun group mem => overriddenIn_eq_nil fun inside => ?_
  have inHere := Occurrence.walk_bounds (Occurrence.mem_groups.mp mem).1
  have inRoot := Occurrence.walk_bounds inside.mem_walk
  have last := group.pos_lt_stop
  rcases le_total root.pos here.pos with before | after
  · rcases Occurrence.mem_walk_or_stop_le rootMem hereMem before with within | behind
    · exact notInside within
    · omega
  · rcases Occurrence.mem_walk_or_stop_le hereMem rootMem after with within | behind
    · exact notAround within
    · omega

/-! ### Visits -/

namespace Session

variable {root : Occurrence}

/-- A checker that is made in a run has the progress of its visits, in a session that is sound. -/
theorem keeps_of_run (before after : List (Step root)) (part : Place root) (shared : Option Nat) :
    let number := (run {} before).members.size
    let session := run {} (before ++ .checker part shared :: after)
    session.Sound root ∧ session.Keeps number part (total part (visitsOf number after)) := by
  intro number session
  have sound := (Sound.empty root).run before
  have ran : session = ((run {} before).step (.checker part shared)).2.run after :=
    run_append {} before _
  rw [ran]
  exact ⟨(sound.step _).run after, (keeps_checker _ part shared).run (sound.step _) after⟩

theorem visitsOf_self (number : Nat) (here : Place root) :
    visitsOf number [.visit number here] = [here] := by
  simp [visitsOf]

/-- **What a visit that goes through adds to a checker for a part of a tree,** after any session. It
counts all groups of the visited tree. Group by group in pre-order, and in source order in each group,
it finds the declarations with a known name whose group stands properly inside of the part and in
another group of the part that declares the name directly, each once. So a visit of a tree around the
part finds what the part has by itself, and one of a tree apart from it finds nothing. -/
theorem progress_of_visit (before after : List (Step root)) (part : Place root)
    (shared : Option Nat) (here : Place root) :
    let number := (run {} before).members.size
    let session := run {} (before ++ .checker part shared :: after)
    ∃ member, session.members[number]? = some member ∧ ∀ progress,
      (session.step (.visit number here)).1 = .visited none progress →
        (session.step (.visit number here)).2.Keeps number part progress ∧
        progress.scopes = member.checker.progress.scopes + here.1.groups.length ∧
        ∃ found, progress.offenses = member.checker.progress.offenses ++ found.toArray ∧
          found = here.1.groups.flatMap (overriddenIn part) ∧
          (found.map fun offense => offense.declaration.pos).Nodup ∧
          (∀ offense, offense ∈ found ↔ ∃ group ∈ here.1.groups,
            offense.declaration.DirectIn group ∧
              offense.declaration.resolve = .ok (.known offense.name) ∧
              offense.message = offenseMessage ∧ part.1.Encloses group ∧
              ∃ outer ∈ part.1.groups, outer.Encloses group ∧ ∃ declaration : Occurrence,
                declaration.DirectIn outer ∧ declaration.resolve = .ok (.known offense.name)) ∧
          (part.1 ∈ here.1.walk → found = overridden part) ∧
          (here.1 ∉ part.1.walk → part.1 ∉ here.1.walk → found = []) := by
  intro number session
  obtain ⟨sound, view, kept⟩ := keeps_of_run before after part shared
  refine ⟨_, kept, fun progress went => ?_⟩
  have further := Keeps.step sound ⟨view, kept⟩ (.visit number here)
  obtain ⟨_, -, stepped⟩ := step_visit sound kept rfl here
  rw [stepped] at went
  obtain ⟨passes, rfl⟩ := Answer.visited.inj went
  obtain ⟨scopes, offenses⟩ := contribution_of_none part.2 here.2 passes
  rw [visitsOf_self, total_append_singleton] at further
  refine ⟨further, ?_, _, ?_, rfl, flatMap_overriddenIn_nodup _ _, fun offense => ?_,
    flatMap_overriddenIn_of_around, flatMap_overriddenIn_of_apart part.2 here.2⟩
  · rw [← scopes]
    rfl
  · rw [← offenses]
    rfl
  · rw [List.mem_flatMap]
    refine exists_congr fun group => and_congr_right fun _ => ?_
    rw [mem_overriddenIn_iff]
    constructor
    · rintro ⟨direct, resolved, declared, message⟩
      exact ⟨direct, resolved, message, declared.encloses, declared⟩
    · rintro ⟨direct, resolved, message, -, declared⟩
      exact ⟨direct, resolved, declared, message⟩

/-- The middle group of `twoAround`, with the groups inside of it. -/
def middle : Place ⟨0, twoAround⟩ :=
  ⟨⟨5, contextOf [contextOf [letOf "c"], letOf "a", letOf "b", twoNames]⟩,
    List.mem_of_getElem? (i := 5) rfl⟩

/-- A checker for the middle group of `twoAround` counts all groups of the whole. The outermost one
declares a name of the middle one, but only the innermost declarations are reported. -/
theorem progress_of_visit_middle :
    let whole : Place ⟨0, twoAround⟩ := ⟨⟨0, twoAround⟩, Occurrence.self_mem_walk _⟩
    let before := [.view, .checker whole (some 0)]
    let after := [.visit 0 whole]
    ∃ progress,
      ((run {} (before ++ .checker middle (some 0) :: after)).step (.visit 1 whole)).1 =
        .visited none progress ∧
      progress.scopes = 4 ∧
      progress.offenses.toList.map (fun offense => offense.declaration.pos) = [20, 22] ∧
      progress.offenses = (overridden middle).toArray := by
  intro whole before after
  obtain ⟨member, made, visits⟩ := progress_of_visit before after middle (some 0) whole
  obtain ⟨sound, view, kept⟩ := keeps_of_run before after middle (some 0)
  obtain rfl := Option.some.inj (kept.symm.trans made)
  obtain ⟨_, -, stepped⟩ := step_visit sound kept rfl whole
  have passes : (contribution middle whole).failure = none :=
    Option.isNone_iff_eq_none.mp (by decide +kernel)
  have scopes : (contribution middle whole).scopes = 4 := by decide +kernel
  have places : (contribution middle whole).offenses.map (fun offense => offense.declaration.pos) =
      [20, 22] := by decide +kernel
  rw [passes] at stepped
  have went := congrArg Prod.fst stepped
  obtain ⟨-, -, found, offenses, -, -, -, around, -⟩ := visits _ went
  rw [around (List.mem_of_getElem? (i := 5) rfl)] at offenses
  have fresh : total middle (visitsOf (run {} before).members.size after) = {} := rfl
  refine ⟨_, went, ?_, ?_, ?_⟩
  · show (Progress.add _ _).scopes = 4
    rw [Progress.add, scopes, fresh]
  · show (Progress.add _ _).offenses.toList.map _ = [20, 22]
    rw [Progress.add, fresh, Array.empty_append, places]
  · rw [offenses, fresh, Array.empty_append]

end Session

end LetShadow
