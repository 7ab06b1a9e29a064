/-
**Groups in the body of a group, and groups in its call.**

A group stands in another if it stands in the other's tree. That may be in the body, or in the
receiver or the arguments of the call that opens the other group. What stands there runs before the
other group is opened, so that a declaration of the one overrides nothing of the other. The check
takes both for being inside.

* `InBodyOf`, `InCallOf` — the two ways. **A group stands in another in exactly one of them**
  (`encloses_iff_of_isGroup`, `InCallOf.not_inBodyOf`).
* `DeclaredLexically` — a group that holds a group in its body directly declares a name.
* `offenses_lexical_iff` — **which trees have lexical offenses only:** those in which each name that a
  group shares with a group in its call is declared lexically around the latter. Nothing that is
  declared lexically is missed.
* `offenses_not_lexical_besideArgument` — **not every tree is such a one.**
-/

import LetShadow.Proofs.Check.Part

namespace LetShadow

/-! ### The two parts of a block -/

namespace Occurrence

/-- The call of a block at its place. -/
def call? (here : Occurrence) : Option Occurrence :=
  match here.node with
  | .block .. => here.children[0]?
  | _ => none

/-- A place is a part of another, or stands in that part. -/
def InPartOf (part? : Occurrence → Option Occurrence) (inner outer : Occurrence) : Prop :=
  ∃ part ∈ part? outer, inner ∈ part.walk

/-- A place stands in the body of a block. -/
def InBodyOf : Occurrence → Occurrence → Prop :=
  InPartOf body?

/-- A place stands in the call of a block, which for a group means in the receiver or in the
arguments. -/
def InCallOf : Occurrence → Occurrence → Prop :=
  InPartOf call?

variable {inner outer : Occurrence}

/-- A block has its call and then its body, if it has one, as its children. -/
theorem children_of_isGroup (group : outer.node.isGroup = true) :
    ∃ call, outer.call? = some call ∧ outer.children = call :: outer.body?.toList := by
  obtain ⟨pos, node⟩ := outer
  cases node with
  | block invocation body place =>
    cases body with
    | none => exact ⟨_, rfl, rfl⟩
    | some body => exact ⟨_, rfl, rfl⟩
  | _ => cases group

theorem call_mem_children {block call : Occurrence} (found : call ∈ block.call?) :
    call ∈ block.children := by
  unfold call? at found
  split at found
  · exact List.mem_of_getElem? found
  · cases found

/-- **A place stands in a group either in its call or in its body.** -/
theorem encloses_iff_of_isGroup (group : outer.node.isGroup = true) :
    outer.Encloses inner ↔ inner.InCallOf outer ∨ inner.InBodyOf outer := by
  obtain ⟨call, atCall, children⟩ := children_of_isGroup group
  rw [encloses_iff_child, children]
  simp only [List.exists_mem_cons_iff, InCallOf, InBodyOf, InPartOf, atCall, Option.mem_def,
    Option.some.injEq, exists_eq_left', Option.mem_toList]

/-- **Nothing stands both in the call and in the body.** -/
theorem InCallOf.not_inBodyOf (inCall : inner.InCallOf outer) (group : outer.node.isGroup = true) :
    ¬ inner.InBodyOf outer := by
  obtain ⟨call, atCall, children⟩ := children_of_isGroup group
  rintro ⟨body, atBody, inBody⟩
  obtain ⟨other, found, inCall⟩ := inCall
  obtain rfl : call = other := Option.some.inj (atCall.symm.trans found)
  have apart := placed_apart (outer.pos + 1) outer.node.children
  change outer.children.Pairwise _ at apart
  rw [children, List.pairwise_cons] at apart
  have before := apart.1 body (Option.mem_toList.mpr atBody)
  have inside := walk_bounds inCall
  have behind := walk_bounds inBody
  have last := inner.pos_lt_stop
  omega

/-- A group directly declares a name. -/
def Declares (group : Occurrence) (name : String) : Prop :=
  ∃ declaration : Occurrence, declaration.DirectIn group ∧
    declaration.resolve = .ok (.known name)

theorem declares_iff {group : Occurrence} {name : String} :
    group.Declares name ↔ name ∈ group.directDeclarations.filterMap knownName? := by
  simp only [Declares, List.mem_filterMap, mem_directDeclarations, knownName?_eq_some_iff]

end Occurrence

/-! ### Names around a group -/

variable {root group : Occurrence} {name : String}

/-- A group of the tree at `root` that holds a group in some part directly declares the name. -/
def DeclaredIn (part? : Occurrence → Option Occurrence) (root group : Occurrence) (name : String) :
    Prop :=
  ∃ outer ∈ root.groups, group.InPartOf part? outer ∧ outer.Declares name

/-- A group that holds a group in its body directly declares the name. -/
def DeclaredLexically : Occurrence → Occurrence → String → Prop :=
  DeclaredIn Occurrence.body?

/-- A group that holds a group in its call directly declares the name. -/
def DeclaredFromCall : Occurrence → Occurrence → String → Prop :=
  DeclaredIn Occurrence.call?

/-- **What the check takes for being declared around a group is declared lexically, or by a group in
whose call the group stands.** -/
theorem declaredAround_iff :
    DeclaredAround root group name ↔
      DeclaredFromCall root group name ∨ DeclaredLexically root group name := by
  simp only [DeclaredFromCall, DeclaredLexically, DeclaredIn, ← exists_or, ← and_or_left,
    ← or_and_right]
  refine exists_congr fun outer => and_congr_right fun outerMem => and_congr_left' ?_
  exact Occurrence.encloses_iff_of_isGroup (Occurrence.mem_groups.mp outerMem).2

/-- **Where a name is declared around a group,** by positions. -/
theorem declaredIn_iff {part? : Occurrence → Option Occurrence}
    (isPart : ∀ outer : Occurrence, ∀ part ∈ part? outer, part ∈ outer.children)
    (groupMem : group ∈ root.groups) :
    DeclaredIn part? root group name ↔ ∃ outer ∈ root.groups,
      (∃ part ∈ part? outer, part.pos ≤ group.pos ∧ group.pos < part.stop) ∧
        name ∈ outer.directDeclarations.filterMap Occurrence.knownName? := by
  have inRoot := (Occurrence.mem_groups.mp groupMem).1
  simp only [DeclaredIn, Occurrence.InPartOf, Occurrence.declares_iff]
  refine exists_congr fun outer => and_congr_right fun outerMem => and_congr_left' ?_
  refine exists_congr fun part => and_congr_right fun found => ?_
  exact Occurrence.mem_walk_iff_between (Occurrence.walk_trans
    (Occurrence.child_mem_walk (isPart outer part found)) (Occurrence.mem_groups.mp outerMem).1)
    inRoot

/-! ### Lexical offenses -/

/-- An offense is lexical: its name is declared lexically around the group that it belongs to. -/
def Offense.IsLexical (root : Occurrence) (offense : Offense) : Prop :=
  ∃ group ∈ root.groups, offense.declaration.DirectIn group ∧
    DeclaredLexically root group offense.name

theorem mem_overridden_iff {offense : Offense} :
    offense ∈ overridden root ↔ ∃ group ∈ root.groups, offense.declaration.DirectIn group ∧
      offense.declaration.resolve = .ok (.known offense.name) ∧
      DeclaredAround root group offense.name ∧ offense.message = offenseMessage := by
  simp only [overridden, List.mem_flatMap, mem_overriddenIn_iff]

/-- **When a check reports lexical offenses only.** Every declaration whose name is declared
lexically around its group is reported. And whatever else is reported comes of a group that stands in
the call of another: all offenses are lexical exactly if each name that such a group and the other
declare is declared lexically around it, too. -/
theorem offenses_lexical_iff {tree : Node} {file : String} {result : Result}
    (analyzed : analyzeTree tree file = .ok result) :
    (∀ group ∈ (⟨0, tree⟩ : Occurrence).groups, ∀ declaration : Occurrence, ∀ name,
      declaration.DirectIn group → declaration.resolve = .ok (.known name) →
        DeclaredLexically ⟨0, tree⟩ group name →
          ({ declaration, name } : Offense) ∈ result.offenses) ∧
    ((∀ offense ∈ result.offenses, offense.IsLexical ⟨0, tree⟩) ↔
      ∀ group ∈ (⟨0, tree⟩ : Occurrence).groups, ∀ name, group.Declares name →
        DeclaredFromCall ⟨0, tree⟩ group name → DeclaredLexically ⟨0, tree⟩ group name) := by
  obtain ⟨-, rfl⟩ := analyzeTree_eq_ok_iff.mp analyzed
  have reported : ∀ group ∈ (⟨0, tree⟩ : Occurrence).groups, ∀ declaration : Occurrence, ∀ name,
      declaration.DirectIn group → declaration.resolve = .ok (.known name) →
        DeclaredFromCall ⟨0, tree⟩ group name ∨ DeclaredLexically ⟨0, tree⟩ group name →
          ({ declaration, name } : Offense) ∈ overridden ⟨0, tree⟩ := by
    intro group groupMem declaration name direct named either
    exact mem_overridden_iff.mpr
      ⟨group, groupMem, direct, named, declaredAround_iff.mpr either, rfl⟩
  refine ⟨fun group groupMem declaration name direct named lexical =>
    reported group groupMem declaration name direct named (.inr lexical), ?_⟩
  constructor
  · rintro lexical group groupMem name ⟨declaration, direct, named⟩ fromCall
    obtain ⟨other, otherMem, directToo, declared⟩ :=
      lexical _ (reported group groupMem declaration name direct named (.inl fromCall))
    -- A declaration belongs to one group only.
    obtain rfl := direct.unique directToo (Occurrence.mem_groups.mp groupMem).1
      (Occurrence.mem_groups.mp otherMem).1
    exact declared
  · intro settled offense mem
    obtain ⟨group, groupMem, direct, named, around, -⟩ := mem_overridden_iff.mp mem
    refine ⟨group, groupMem, direct, ?_⟩
    rcases declaredAround_iff.mp around with fromCall | lexical
    · exact settled group groupMem offense.name ⟨_, direct, named⟩ fromCall
    · exact lexical

/-- A group that declares a name and holds another that declares it, too. An argument of its call is
a group that declares `a`. -/
def besideArgument (name : String) : Node :=
  .block { method := "describe", arguments := [contextOf [letOf "a"]] }
    (some (.sequence [letOf name, contextOf [letOf name]] none)) none

/-- In `besideArgument "b"` the group in the argument has a name of its own, and the one offense is
lexical. -/
theorem offenses_lexical_besideArgument :
    ∃ result, analyzeTree (besideArgument "b") "a_spec.rb" = .ok result ∧
      result.offenses.map (fun offense => (offense.declaration.pos, offense.name)) = [(13, "b")] ∧
      ∀ offense ∈ result.offenses, offense.IsLexical ⟨0, besideArgument "b"⟩ := by
  have analyzed : analyzeTree (besideArgument "b") "a_spec.rb" = .ok _ := rfl
  have others : ∀ group ∈ (⟨0, besideArgument "b"⟩ : Occurrence).groups,
      ∀ name ∈ group.directDeclarations.filterMap Occurrence.knownName?,
        ¬ ∃ outer ∈ (⟨0, besideArgument "b"⟩ : Occurrence).groups,
          (∃ call ∈ outer.call?, call.pos ≤ group.pos ∧ group.pos < call.stop) ∧
            name ∈ outer.directDeclarations.filterMap Occurrence.knownName? := by
    decide
  refine ⟨_, analyzed, by decide, (offenses_lexical_iff analyzed).2.mpr ?_⟩
  intro group groupMem name declares fromCall
  have fromCall := (declaredIn_iff (fun _ _ => Occurrence.call_mem_children) groupMem).mp fromCall
  exact absurd fromCall (others group groupMem name (Occurrence.declares_iff.mp declares))

/-- **Not all offenses are lexical:** in `besideArgument "a"` the declaration of the group in the
argument is reported, though that group stands in no group's body. -/
theorem offenses_not_lexical_besideArgument :
    ∃ result, analyzeTree (besideArgument "a") "a_spec.rb" = .ok result ∧
      ∃ offense ∈ result.offenses, ¬ offense.IsLexical ⟨0, besideArgument "a"⟩ := by
  have direct : ∀ group ∈ (⟨0, besideArgument "a"⟩ : Occurrence).groups,
      5 ∈ group.directDeclarations.map Occurrence.pos → group.pos = 2 := by decide
  have bodies : ∀ outer ∈ (⟨0, besideArgument "a"⟩ : Occurrence).groups,
      ∀ body ∈ outer.body?, ¬ (body.pos ≤ 2 ∧ 2 < body.stop) := by decide
  refine ⟨_, rfl, { declaration := ⟨5, letOf "a"⟩, name := "a" }, ?_, ?_⟩
  · exact List.mem_of_getElem? (i := 0) rfl
  · rintro ⟨group, groupMem, directIn, lexical⟩
    have place := direct group groupMem
      (List.mem_map_of_mem (Occurrence.mem_directDeclarations.mpr directIn))
    obtain ⟨outer, outerMem, ⟨body, found, between⟩, -⟩ :=
      (declaredIn_iff (fun _ _ => Occurrence.body_mem_children) groupMem).mp lexical
    rw [place] at between
    exact bodies outer outerMem body found between

end LetShadow
