/-
**Which declaration decides a search for a name.**

* `Meets` — what a search from a place comes across in a tree: the declarations made directly in the
  groups that enclose the place, each with its group.
* `Settles` — a declaration ends a search for a name: it has the name, or cannot be resolved. One with
  another name, or with an indeterminate one, does not.
* `SettlesFirst` — **the first declaration that ends the search,** nearest group first and in each
  group in source order.
* `search_around_eq_true_iff`, `search_around_eq_error_iff`, `search_around_eq_false_iff` — **the
  outcome is that of this declaration,** or that there is none.
-/

import LetShadow.Proofs.Scope.Parents
import LetShadow.Proofs.Scope.Search
import LetShadow.Proofs.Traversal

namespace LetShadow

/-! ### The first of several -/

/-- In a list put in order the first item with a property is the one that comes before all others
with it. -/
theorem find?_eq_some_iff_of_pairwise {Item : Type} {before : Item → Item → Prop}
    (oneWay : ∀ first second, before first second → ¬ before second first) {items : List Item}
    (inOrder : items.Pairwise before) {property : Item → Bool} {item : Item} :
    items.find? property = some item ↔
      item ∈ items ∧ property item = true ∧
        ∀ earlier ∈ items, before earlier item → ¬ property earlier = true := by
  have either : Std.Symm fun first second => before first second ∨ before second first :=
    ⟨fun _ _ => Or.symm⟩
  have apart : items.Pairwise fun first second => before first second ∨ before second first :=
    inOrder.imp Or.inl
  have least_of_find {found : Item} (first : items.find? property = some found) :
      ∀ earlier ∈ items, before earlier found → ¬ property earlier = true := by
    obtain ⟨-, passed, rest, rfl, none⟩ := List.find?_eq_some_iff_append.mp first
    have later := List.pairwise_cons.mp (List.pairwise_append.mp inOrder).2.1
    intro earlier mem less
    rcases List.mem_append.mp mem with inFront | here
    · simpa using none earlier inFront
    · rcases List.mem_cons.mp here with rfl | behind
      · exact absurd less (oneWay _ _ less)
      · exact absurd less (oneWay _ _ (later.1 earlier behind))
  constructor
  · intro first
    exact ⟨List.mem_of_find?_eq_some first, List.find?_some first, least_of_find first⟩
  · rintro ⟨mem, holds, least⟩
    cases first : items.find? property with
    | none => exact absurd holds (List.find?_eq_none.mp first item mem)
    | some found =>
      have foundMem := List.mem_of_find?_eq_some first
      by_cases same : found = item
      · rw [same]
      · rcases apart.forall foundMem mem same with less | more
        · exact absurd (List.find?_some first) (least found foundMem less)
        · exact absurd holds (least_of_find first item mem more)

/-! ### What a search comes across -/

/-- A search from a place comes across the declarations made directly in the groups of the tree at
`root` that enclose the place. -/
structure Meets (root here group declaration : Occurrence) : Prop where
  inside : group ∈ root.walk
  isGroup : group.node.isGroup = true
  encloses : group.Encloses here
  direct : declaration.DirectIn group

/-- A declaration ends a search for a name: it has the name, or cannot be resolved. -/
def Occurrence.Settles (name : String) (declaration : Occurrence) : Prop :=
  declaration.resolve = .ok (.known name) ∨ ∃ error, declaration.resolve = .error error

/-- The first declaration that ends a search for a name: no other that is met before it does, be it
in a nearer group or before it in the same group. -/
structure SettlesFirst (root here : Occurrence) (name : String) (group declaration : Occurrence) :
    Prop where
  met : Meets root here group declaration
  settles : declaration.Settles name
  first : ∀ other earlier, Meets root here other earlier →
    group.Encloses other ∨ other = group ∧ earlier.pos < declaration.pos → ¬ earlier.Settles name

variable {tree root here : Occurrence}

/-- A declaration with an indeterminate name settles nothing. -/
theorem Occurrence.Settles.resolve_ne_indeterminate {name : String} {declaration : Occurrence}
    (settles : declaration.Settles name) : declaration.resolve ≠ .ok .indeterminate := by
  intro indeterminate
  rcases settles with named | ⟨error, fails⟩
  · rw [indeterminate] at named
    cases named
  · rw [indeterminate] at fails
    cases fails

theorem decides_iff_settles {name : String} {declaration : Occurrence} :
    declaration.decides name = true ↔ declaration.Settles name := by
  unfold Occurrence.decides Occurrence.Settles
  cases declaration.resolve with
  | error error => simp
  | ok found => simp [Name.agrees_iff]

/-- The declarations that a search meets, each with its group, in the order in which it does. -/
def Occurrence.scan (root : Occurrence) (pos : Nat) : List (Occurrence × Occurrence) :=
  (root.groupsAround pos).flatMap fun group => group.directDeclarations.map (Prod.mk group)

theorem mem_scan (rootMem : root ∈ tree.walk) (hereMem : here ∈ tree.walk)
    {group declaration : Occurrence} :
    (group, declaration) ∈ root.scan here.pos ↔ Meets root here group declaration := by
  rw [Occurrence.scan, List.mem_flatMap]
  constructor
  · rintro ⟨other, otherMem, mem⟩
    obtain ⟨found, foundMem, same⟩ := List.mem_map.mp mem
    obtain ⟨rfl, rfl⟩ := Prod.mk.inj same
    rw [← ScopeIndex.enclosing_ofTree, ScopeIndex.mem_enclosing rootMem hereMem] at otherMem
    obtain ⟨inside, isGroup, encloses⟩ := otherMem
    exact ⟨inside, isGroup, encloses, Occurrence.mem_directDeclarations.mp foundMem⟩
  · rintro ⟨inside, isGroup, encloses, direct⟩
    refine ⟨group, ?_, List.mem_map_of_mem (Occurrence.mem_directDeclarations.mpr direct)⟩
    rw [← ScopeIndex.enclosing_ofTree, ScopeIndex.mem_enclosing rootMem hereMem]
    exact ⟨inside, isGroup, encloses⟩

/-- **A search meets the declarations of a nearer group first,** and those of one group in source
order. -/
theorem scan_inOrder (root : Occurrence) (pos : Nat) :
    (root.scan pos).Pairwise fun first second =>
      second.1.Encloses first.1 ∨ first.1 = second.1 ∧ first.2.pos < second.2.pos := by
  rw [Occurrence.scan, List.pairwise_flatMap]
  constructor
  · intro group _
    rw [List.pairwise_map]
    exact group.directDeclarations_sorted.imp fun less => Or.inr ⟨rfl, less⟩
  · rw [← ScopeIndex.enclosing_ofTree]
    refine (ScopeIndex.enclosing_nested root pos).imp fun {inner outer} encloses first mem second
      memToo => ?_
    obtain ⟨_, -, rfl⟩ := List.mem_map.mp mem
    obtain ⟨_, -, rfl⟩ := List.mem_map.mp memToo
    exact Or.inl encloses

theorem scan_snd (root : Occurrence) (pos : Nat) :
    (root.scan pos).map Prod.snd = root.declarationsAround pos := by
  rw [Occurrence.scan, List.map_flatMap, Occurrence.declarationsAround]
  simp [Function.comp_def]

/-- A search through the groups around is one through what it meets there. -/
theorem search_around_eq_find? (root : Occurrence) (pos : Nat) (name : String) :
    search (root.declarationsAround pos) name =
      ((root.scan pos).find? fun met => met.2.decides name).elim (.ok false)
        fun met => met.2.resolve.map fun _ => true := by
  have decided : (root.declarationsAround pos).find? (Occurrence.decides name) =
      ((root.scan pos).find? fun met => met.2.decides name).map Prod.snd := by
    rw [← scan_snd, List.find?_map]
    rfl
  rw [search, decided]
  cases (root.scan pos).find? fun met => met.2.decides name <;> rfl

/-! ### The outcome of a search -/

section

variable (rootMem : root ∈ tree.walk) (hereMem : here ∈ tree.walk) {name : String}

include rootMem hereMem

theorem find?_scan_eq_some_iff {group declaration : Occurrence} :
    ((root.scan here.pos).find? fun met => met.2.decides name) = some (group, declaration) ↔
      SettlesFirst root here name group declaration := by
  have oneWay (first second : Occurrence × Occurrence)
      (before : second.1.Encloses first.1 ∨ first.1 = second.1 ∧ first.2.pos < second.2.pos) :
      ¬ (first.1.Encloses second.1 ∨ second.1 = first.1 ∧ second.2.pos < first.2.pos) := by
    rintro (encloses | ⟨same, less⟩)
    · rcases before with enclosesToo | ⟨same, -⟩
      · exact lt_asymm encloses.pos_lt enclosesToo.pos_lt
      · exact absurd (same ▸ encloses.pos_lt) (lt_irrefl _)
    · rcases before with encloses | ⟨-, lessToo⟩
      · exact absurd (same ▸ encloses.pos_lt) (lt_irrefl _)
      · exact lt_asymm less lessToo
  rw [find?_eq_some_iff_of_pairwise oneWay (scan_inOrder root here.pos)]
  simp only [Prod.forall, mem_scan rootMem hereMem, decides_iff_settles]
  exact ⟨fun ⟨met, settles, first⟩ => ⟨met, settles, first⟩,
    fun ⟨met, settles, first⟩ => ⟨met, settles, first⟩⟩

/-- **A search finds nothing exactly if nothing that it meets settles it.** -/
theorem search_around_eq_false_iff :
    search (root.declarationsAround here.pos) name = .ok false ↔
      ∀ group declaration, Meets root here group declaration → ¬ declaration.Settles name := by
  have none_iff : ((root.scan here.pos).find? fun met => met.2.decides name) = none ↔
      ∀ group declaration, Meets root here group declaration → ¬ declaration.Settles name := by
    rw [List.find?_eq_none]
    simp only [Prod.forall, mem_scan rootMem hereMem, decides_iff_settles]
  rw [search_around_eq_find?, ← none_iff]
  cases first : (root.scan here.pos).find? fun met => met.2.decides name with
  | none => simp
  | some met => simp [map_true_ne_false]

/-- **Any other outcome is that of the first declaration that settles the search.** -/
theorem search_around_eq_iff {outcome : Except Unresolvable Bool} (settled : outcome ≠ .ok false) :
    search (root.declarationsAround here.pos) name = outcome ↔
      ∃ group declaration, SettlesFirst root here name group declaration ∧
        declaration.resolve.map (fun _ => true) = outcome := by
  simp only [← find?_scan_eq_some_iff rootMem hereMem]
  rw [search_around_eq_find?]
  cases (root.scan here.pos).find? fun met => met.2.decides name with
  | none => simp [settled.symm]
  | some met =>
    constructor
    · exact fun same => ⟨met.1, met.2, rfl, same⟩
    · rintro ⟨_, _, ⟨⟩, same⟩
      exact same

theorem search_around_eq_true_iff :
    search (root.declarationsAround here.pos) name = .ok true ↔
      ∃ group declaration, SettlesFirst root here name group declaration ∧
        declaration.resolve = .ok (.known name) := by
  have settled : (.ok true : Except Unresolvable Bool) ≠ .ok false := nofun
  rw [search_around_eq_iff rootMem hereMem settled]
  refine exists_congr fun group => exists_congr fun declaration => and_congr_right fun first => ?_
  rcases first.settles with named | ⟨error, fails⟩
  · simp [named, Except.map]
  · simp [fails, Except.map]

theorem search_around_eq_error_iff {error : Unresolvable} :
    search (root.declarationsAround here.pos) name = .error error ↔
      ∃ group declaration, SettlesFirst root here name group declaration ∧
        declaration.resolve = .error error := by
  have settled : (.error error : Except Unresolvable Bool) ≠ .ok false := nofun
  rw [search_around_eq_iff rootMem hereMem settled]
  simp only [map_eq_error_iff]

end

end LetShadow
