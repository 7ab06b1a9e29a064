/-
**Paths as texts.**

A result names its file by a text, and the file is looked up by the path that the text spells. Nothing
is lost on the way: a path that is normal is spelled by the text that it is shown as.

* `IsNormal` — the paths that texts spell (`isNormal_ofString`).
* `ofString_toString` — **a normal path is shown as a text that spells it.**
* `mem_toString_iff` — the characters of a path are those of its names, but for slashes and dots.
-/

import LetShadow.Files.Path
import Mathlib.Data.List.Basic
import Mathlib.Data.List.TakeWhile

namespace LetShadow.Path

/-- The paths that texts spell: their names hold no slash, and are neither empty nor a single dot. -/
structure IsNormal (path : Path) : Prop where
  slashes : path.slashes ≤ 2
  parts : ∀ part ∈ path.parts, isPart part.toList = true ∧ '/' ∉ part.toList

/-! ### Reading texts -/

theorem splitFrom_eq (name text : List Char) :
    splitFrom name text = (text.splitOn '/').modifyHead (name.reverse ++ ·) := by
  induction text generalizing name with
  | nil => simp [splitFrom]
  | cons char rest ih =>
    rw [splitFrom, List.splitOn_cons_eq_if_modifyHead]
    split
    · next slash =>
      rw [ih, if_pos (by simpa using slash), List.modifyHead_cons, List.append_nil]
      exact congrArg (name.reverse :: ·) (congrFun List.modifyHead_id (rest.splitOn '/'))
    · next other =>
      rw [ih, if_neg (by simpa using other), List.modifyHead_modifyHead]
      congr 1
      funext piece
      simp

theorem splitFrom_intercalate {names : List (List Char)} (some : names ≠ [])
    (noSlash : ∀ name ∈ names, '/' ∉ name) : splitFrom [] (['/'].intercalate names) = names := by
  rw [splitFrom_eq, List.splitOn_intercalate '/' noSlash some]
  exact congrFun List.modifyHead_id names

/-- No part of a text holds a slash. -/
theorem not_mem_of_mem_splitFrom {name text part : List Char} (noSlash : '/' ∉ name)
    (mem : part ∈ splitFrom name text) : '/' ∉ part := by
  induction text generalizing name with
  | nil =>
    rw [List.mem_singleton.mp mem]
    simpa using noSlash
  | cons char rest ih =>
    rw [splitFrom] at mem
    split at mem
    · obtain rfl | later := List.mem_cons.mp mem
      · simpa using noSlash
      · exact ih List.not_mem_nil later
    · next other => exact ih (by simp [noSlash, Ne.symm other]) mem

/-- **A text spells a normal path.** -/
theorem isNormal_ofString (text : String) : (ofString text).IsNormal where
  slashes := by
    show keptSlashes _ ≤ 2
    unfold keptSlashes
    split <;> decide
  parts := by
    refine List.forall_mem_map.mpr fun part mem => ?_
    rw [String.toList_ofList]
    obtain ⟨isSplit, isPart⟩ := List.mem_filter.mp mem
    exact ⟨isPart, not_mem_of_mem_splitFrom List.not_mem_nil isSplit⟩

/-! ### Showing paths -/

variable {path : Path}

theorem toList_toString (path : Path) : path.toString.toList =
    if path.slashes = 0 ∧ path.parts = [] then ['.']
    else List.replicate path.slashes '/' ++ ['/'].intercalate (path.parts.map String.toList) := by
  unfold toString
  split
  · rfl
  · rw [String.toList_append, String.toList_ofList, String.toList_intercalate]
    rfl

section

variable {names : List (List Char)} (proper : ∀ name ∈ names, isPart name = true ∧ '/' ∉ name)

include proper

theorem filter_splitFrom (slashes : Nat) :
    (splitFrom [] (List.replicate slashes '/' ++ ['/'].intercalate names)).filter isPart = names := by
  induction slashes with
  | zero =>
    rw [List.replicate_zero, List.nil_append]
    cases names with
    | nil => rfl
    | cons name names =>
      rw [splitFrom_intercalate (List.cons_ne_nil _ _) fun name mem => (proper name mem).2]
      exact List.filter_eq_self.mpr fun name mem => (proper name mem).1
  | succ slashes ih =>
    rw [List.replicate_succ, List.cons_append, splitFrom, if_pos rfl]
    exact (List.filter_cons_of_neg (by decide)).trans ih

theorem takeWhile_slash (slashes : Nat) :
    (List.replicate slashes '/' ++ ['/'].intercalate names).takeWhile (· = '/') =
      List.replicate slashes '/' := by
  have none : (['/'].intercalate names).takeWhile (· = '/') = [] := by
    cases names with
    | nil => rfl
    | cons name names =>
      obtain ⟨isPart, noSlash⟩ := proper name List.mem_cons_self
      cases name with
      | nil => cases isPart
      | cons first name =>
        have other : first ≠ '/' := fun same => noSlash (same ▸ List.mem_cons_self)
        have begins : ∃ rest, ['/'].intercalate ((first :: name) :: names) = first :: rest := by
          cases names <;> simp [List.intercalate_cons_cons]
        obtain ⟨rest, begins⟩ := begins
        rw [begins, List.takeWhile_cons_of_neg (by simpa using other)]
  rw [List.takeWhile_append_of_pos (by simp), none, List.append_nil]

end

/-- **A normal path is shown as a text that spells it.** -/
theorem ofString_toString (normal : path.IsNormal) : ofString path.toString = path := by
  obtain ⟨slashes, parts⟩ := path
  have proper : ∀ name ∈ parts.map String.toList, isPart name = true ∧ '/' ∉ name :=
    List.forall_mem_map.mpr normal.parts
  unfold ofString
  rw [toList_toString]
  split
  · next none =>
    obtain ⟨rfl, rfl⟩ := none
    rfl
  · have few : slashes ≤ 2 := normal.slashes
    congr 1
    · rw [keptSlashes, takeWhile_slash proper, List.length_replicate]
      obtain rfl | rfl | rfl : slashes = 0 ∨ slashes = 1 ∨ slashes = 2 := by omega
      all_goals rfl
    · rw [filter_splitFrom proper, List.map_map]
      simp

/-- What stands in a path stands in one of its names, but for slashes and dots. -/
theorem mem_toString_iff {char : Char} (noSlash : char ≠ '/') (noDot : char ≠ '.') :
    char ∈ path.toString.toList ↔ ∃ part ∈ path.parts, char ∈ part.toList := by
  rw [toList_toString]
  split
  · next none => simp [none.2, noDot]
  · have inNames (names : List (List Char)) :
        char ∈ ['/'].intercalate names ↔ ∃ name ∈ names, char ∈ name := by
      induction names with
      | nil => simp
      | cons name names ih =>
        cases names with
        | nil => simp
        | cons next names =>
          rw [List.intercalate_cons_cons]
          simp [ih, noSlash]
    rw [List.mem_append, inNames]
    simp [noSlash]

end LetShadow.Path
