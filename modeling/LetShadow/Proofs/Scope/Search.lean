/-
**Looking up names through a view that others may have used.**

* `ScopeView.Holds` — **what a view knows of a block of a tree is what collecting would give now.**
  The empty view holds, and so does every view after a question about the tree.
* `Lookup.Answers` — a question has this answer for every view that holds, whatever that view
  already knows, and leaves a view that holds.
* `search` — **the search for a name in a list of declarations:** the first declaration that has the
  name, or that cannot be resolved, decides.
* `declaredAbove_answers` — asking the index of a tree for a name is this search through the
  declarations of the groups around, nearest group first.
-/

import LetShadow.Scope.Lookup
import LetShadow.Proofs.Group.Direct
import LetShadow.Proofs.Scope.Around

namespace LetShadow

/-! ### Views that hold -/

theorem ScopeView.declarations_run (block : Occurrence) (view : ScopeView) :
    (ScopeView.declarations block).run view =
      match view.find? block.pos with
      | some known => (known, view)
      | none => (block.directDeclarations, view.keep block.pos block.directDeclarations) := by
  unfold ScopeView.declarations
  simp only [StateT.run_bind, StateT.run_get]
  show (match view.find? block.pos with
    | some known => _
    | none => _ : StateM ScopeView _).run view = _
  cases view.find? block.pos <;> rfl

/-- What the view knows of the blocks of a tree is what collecting their declarations gives. -/
def ScopeView.Holds (tree : Occurrence) (view : ScopeView) : Prop :=
  ∀ block ∈ tree.walk, ∀ known, view.find? block.pos = some known → known = block.directDeclarations

theorem ScopeView.holds_empty (tree : Occurrence) : ScopeView.Holds tree {} := by
  intro block _ known found
  rw [find?_empty] at found
  cases found

/-- Keeping the declarations of a block of the tree spoils nothing: no other node is there. -/
theorem ScopeView.Holds.keep {tree block : Occurrence} {view : ScopeView} (holds : view.Holds tree)
    (mem : block ∈ tree.walk) : (view.keep block.pos block.directDeclarations).Holds tree := by
  intro asked askedMem known found
  rw [ScopeView.find?_keep] at found
  split at found
  · rename_i same
    rw [← Occurrence.eq_of_pos_eq mem askedMem same]
    exact (Option.some.inj found).symm
  · exact holds asked askedMem known found

/-! ### Questions whose answer does not depend on the view -/

/-- For every view that holds the question has the answer, and the view holds afterwards. -/
def Lookup.Answers {α : Type} (tree : Occurrence) (lookup : Lookup α)
    (answer : Except Unresolvable α) : Prop :=
  ∀ view : ScopeView, view.Holds tree →
    ∃ after : ScopeView, after.Holds tree ∧ lookup.run.run view = (answer, after)

namespace Lookup.Answers

variable {α β : Type} {tree : Occurrence}

theorem pure (value : α) : Lookup.Answers tree (pure value) (.ok value) :=
  fun view holds => ⟨view, holds, rfl⟩

theorem lift (answer : Except Unresolvable α) : Lookup.Answers tree (liftM answer) answer :=
  fun view holds => ⟨view, holds, rfl⟩

theorem bind_ok {lookup : Lookup α} {value : α} {next : α → Lookup β}
    {answer : Except Unresolvable β} (first : lookup.Answers tree (.ok value))
    (rest : (next value).Answers tree answer) : (lookup >>= next).Answers tree answer := by
  intro view holds
  obtain ⟨middle, middleHolds, ran⟩ := first view holds
  obtain ⟨after, afterHolds, ranOn⟩ := rest middle middleHolds
  refine ⟨after, afterHolds, ?_⟩
  simp only [ExceptT.run_bind, StateT.run_bind, ran]
  exact ranOn

theorem bind_error {lookup : Lookup α} {error : Unresolvable} {next : α → Lookup β}
    (first : lookup.Answers tree (.error error)) :
    (lookup >>= next).Answers tree (.error error) := by
  intro view holds
  obtain ⟨after, afterHolds, ran⟩ := first view holds
  refine ⟨after, afterHolds, ?_⟩
  simp only [ExceptT.run_bind, StateT.run_bind, ran]
  rfl

/-- **A view that holds gives out the direct declarations of a block,** kept or collected now. -/
theorem declarations {block : Occurrence} (mem : block ∈ tree.walk) :
    Lookup.Answers tree (liftM (ScopeView.declarations block)) (.ok block.directDeclarations) := by
  intro view holds
  have ran : (liftM (ScopeView.declarations block) : Lookup _).run.run view =
      (.ok ((ScopeView.declarations block).run view).1,
        ((ScopeView.declarations block).run view).2) := rfl
  rw [ran, ScopeView.declarations_run]
  cases found : view.find? block.pos with
  | none => exact ⟨_, holds.keep mem, rfl⟩
  | some known =>
    rw [holds block mem known found]
    exact ⟨view, holds, rfl⟩

end Lookup.Answers

/-! ### The search for a name -/

/-- Does the search for a name end at a declaration? It does if the declaration has the name or
cannot be resolved. -/
def Occurrence.decides (name : String) (declaration : Occurrence) : Bool :=
  match declaration.resolve with
  | .ok found => found.agrees (.known name)
  | .error _ => true

/-- The search for a name: the first declaration that decides has the name or cannot be resolved. -/
def search (declarations : List Occurrence) (name : String) : Except Unresolvable Bool :=
  match declarations.find? (Occurrence.decides name) with
  | none => .ok false
  | some found => found.resolve.map fun _ => true

theorem search_cons_of_decides {name : String} {declaration : Occurrence}
    (decides : declaration.decides name = true) (rest : List Occurrence) :
    search (declaration :: rest) name = declaration.resolve.map fun _ => true := by
  rw [search, List.find?_cons_of_pos decides]

theorem search_cons_of_not_decides {name : String} {declaration : Occurrence}
    (passes : ¬ declaration.decides name = true) (rest : List Occurrence) :
    search (declaration :: rest) name = search rest name := by
  rw [search, List.find?_cons_of_neg passes, search]

theorem map_true_ne_false {α : Type} (outcome : Except Unresolvable α) :
    (outcome.map fun _ => true) ≠ .ok false := by
  cases outcome <;> exact fun equal => nomatch equal

theorem search_append_of_false {name : String} {first : List Occurrence}
    (nothing : search first name = .ok false) (second : List Occurrence) :
    search (first ++ second) name = search second name := by
  have undecided : first.find? (Occurrence.decides name) = none := by
    cases found : first.find? (Occurrence.decides name) with
    | none => rfl
    | some declaration =>
      rw [search, found] at nothing
      exact absurd nothing (map_true_ne_false declaration.resolve)
  rw [search, List.find?_append, undecided, Option.none_or, search]

theorem search_append_of_ne_false {name : String} {first : List Occurrence}
    (something : search first name ≠ .ok false) (second : List Occurrence) :
    search (first ++ second) name = search first name := by
  cases found : first.find? (Occurrence.decides name) with
  | none => exact absurd (by rw [search, found]) something
  | some declaration => rw [search, List.find?_append, found, Option.some_or, search, found]

theorem hasName_answers (tree declaration : Occurrence) (name : Name) :
    (declaration.hasName name).Answers tree (declaration.resolve.map (·.agrees name)) := by
  unfold Occurrence.hasName
  cases resolved : declaration.resolve with
  | ok found => exact .bind_ok (.lift _) (.pure _)
  | error error => exact .bind_error (.lift _)

/-- One group's declarations are searched in order. -/
theorem anyM_hasName_answers (tree : Occurrence) (declarations : List Occurrence) (name : String) :
    Lookup.Answers tree (declarations.anyM (Occurrence.hasName (.known name)))
      (search declarations name) := by
  induction declarations with
  | nil => exact .pure false
  | cons declaration rest ih =>
    have asked := hasName_answers tree declaration (.known name)
    rw [List.anyM]
    by_cases decides : declaration.decides name = true
    · rw [search_cons_of_decides decides]
      cases resolved : declaration.resolve with
      | ok found =>
        rw [Occurrence.decides, resolved] at decides
        rw [resolved] at asked
        have agrees : (Except.map (·.agrees (.known name)) (.ok found) : Except Unresolvable Bool) =
            .ok true := congrArg Except.ok decides
        rw [agrees] at asked
        exact .bind_ok asked (.pure true)
      | error error =>
        rw [resolved] at asked
        exact .bind_error asked
    · rw [search_cons_of_not_decides decides]
      cases resolved : declaration.resolve with
      | ok found =>
        rw [Occurrence.decides, resolved, Bool.not_eq_true] at decides
        rw [resolved] at asked
        have agrees : (Except.map (·.agrees (.known name)) (.ok found) : Except Unresolvable Bool) =
            .ok false := congrArg Except.ok decides
        rw [agrees] at asked
        exact .bind_ok asked ih
      | error error =>
        rw [Occurrence.decides, resolved] at decides
        exact absurd rfl decides

theorem declares_answers {tree group : Occurrence} (mem : group ∈ tree.walk) (name : String) :
    (group.declares (.known name)).Answers tree (search group.directDeclarations name) :=
  .bind_ok (.declarations mem) (anyM_hasName_answers tree _ name)

/-- Group after group is searched, as if their declarations stood in one list. -/
theorem anyM_declares_answers {tree : Occurrence} (groups : List Occurrence)
    (among : ∀ group ∈ groups, group ∈ tree.walk) (name : String) :
    Lookup.Answers tree (groups.anyM fun group => group.declares (.known name))
      (search (groups.flatMap Occurrence.directDeclarations) name) := by
  induction groups with
  | nil => exact .pure false
  | cons group rest ih =>
    have first := declares_answers (among group List.mem_cons_self) name
    have later := ih fun other mem => among other (List.mem_cons_of_mem _ mem)
    rw [List.anyM, List.flatMap_cons]
    cases found : search group.directDeclarations name with
    | ok decision =>
      rw [found] at first
      cases decision with
      | false =>
        rw [search_append_of_false found]
        exact .bind_ok first later
      | true =>
        rw [search_append_of_ne_false (by rw [found]; exact fun equal => nomatch equal), found]
        exact .bind_ok first (.pure true)
    | error error =>
      rw [search_append_of_ne_false (by rw [found]; exact fun equal => nomatch equal), found]
      rw [found] at first
      exact .bind_error first

/-! ### The groups around -/

/-- The declarations made directly in the groups of the tree at `root` around a position: nearest
group first, each group's in source order. -/
def Occurrence.declarationsAround (root : Occurrence) (pos : Nat) : List Occurrence :=
  (root.groupsAround pos).flatMap directDeclarations

theorem Occurrence.groupsAround_subset {root outer : Occurrence} {pos : Nat}
    (mem : outer ∈ root.groupsAround pos) : outer ∈ root.walk := by
  rw [groupsAround, placesAround] at mem
  exact (List.mem_filter.mp (List.mem_reverse.mp (List.mem_filter.mp mem).1)).1

/-- **Asking an index for a name is the search through the declarations of the groups around.** -/
theorem declaredAbove_answers {tree root : Occurrence} (mem : root ∈ tree.walk) (pos : Nat)
    (name : String) :
    ((ScopeIndex.ofTree root).declaredAbove pos (.known name)).Answers tree
      (search (root.declarationsAround pos) name) := by
  rw [ScopeIndex.declaredAbove, ScopeIndex.enclosing_ofTree]
  exact anyM_declares_answers _
    (fun outer inRoot => Occurrence.walk_trans (Occurrence.groupsAround_subset inRoot) mem) name

end LetShadow
