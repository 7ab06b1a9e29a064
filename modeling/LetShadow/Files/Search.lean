/-
**Finding specs.**

* `isSpecName` — the names of specs and of dumps.
* `expand` — **the paths that a target stands for:** for a directory everything below it that has
  such a name, in the order of the paths, name by name; for anything else the target itself.
* `collect` — the paths that targets stand for, target by target. A target with a name that is too
  long stands for nothing, and ends the search.
-/

import LetShadow.Files.Tree

namespace LetShadow

/-- The endings of the names that a search looks for. -/
def specEndings : List String :=
  ["_spec.rb", ".json"]

/-- Does a search find what has the name? Directories with such a name are found as well. -/
def isSpecName (name : String) : Bool :=
  specEndings.any fun ending => ending.toList.isSuffixOf name.toList

/-- Does a name stand before another? Names are in the order of their code points. -/
def nameBefore (first second : String) : Bool :=
  first.toList.lex second.toList fun char other => decide (char.toNat < other.toNat)

/-- Does a path stand before another? Paths are in the order of their names, from the top. -/
def partsBefore (first second : List String) : Bool :=
  first.lex second nameBefore

/-- The relative paths of the specs below. -/
def specsBelow (tree : FileTree) : List (List String) :=
  let found := tree.paths.filter fun parts => parts.getLast?.any isSpecName
  found.eraseDups.mergeSort fun first second => !partsBefore second first

/-- The paths that a target stands for. -/
def expand (root : FileTree) (target : Path) : Except LongPath (List Path) :=
  match root.find target with
  | .ok (.directory entries) => .ok ((specsBelow (.directory entries)).map target.below)
  | .error .nameTooLong => .error ⟨target⟩
  | _ => .ok [target]

/-- The paths that targets stand for. -/
def collect (root : FileTree) (targets : List Path) : Except LongPath (List Path) := do
  return (← targets.mapM (expand root)).flatten

end LetShadow
