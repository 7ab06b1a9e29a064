/-
**What stands below a directory.**

A search lists relative paths and knows nothing of what they lead to; whoever reads a file begins again
at the top. In a tree that a file system can hold both come to the same.

* `Below` — **the entries below a directory,** by their relative paths; `mem_paths_iff`.
* `IsProper` — the trees that a file system can hold: names are proper, and each leads to one entry.
* `find_below` — **what is found below a directory is what its path leads to,** unless the path is too
  long.
* `mem_specsBelow_iff` — what a search finds: entries of either kind, by their names only.
-/

import LetShadow.Files.Search
import LetShadow.Proofs.Files.Paths
import LetShadow.Proofs.Traversal

namespace LetShadow

namespace FileTree

/-! ### Entries below a directory -/

/-- An entry below a directory, at any depth, by the names that lead to it. -/
inductive Below : FileTree → List String → FileTree → Prop
  | entry {entries : List (String × FileTree)} {name : String} {entry : FileTree}
      (mem : (name, entry) ∈ entries) : Below (.directory entries) [name] entry
  | within {entries : List (String × FileTree)} {name : String} {between entry : FileTree}
      {parts : List String} (mem : (name, between) ∈ entries) (below : Below between parts entry) :
      Below (.directory entries) (name :: parts) entry

theorem below_cons_iff {name : String} {first : FileTree} {rest : List (String × FileTree)}
    {parts : List String} {entry : FileTree} :
    Below (.directory ((name, first) :: rest)) parts entry ↔
      (parts = [name] ∧ entry = first) ∨ (∃ inner, parts = name :: inner ∧ Below first inner entry) ∨
        Below (.directory rest) parts entry := by
  constructor
  · rintro (mem | ⟨mem, below⟩)
    · obtain same | mem := List.mem_cons.mp mem
      · cases same
        exact .inl ⟨rfl, rfl⟩
      · exact .inr (.inr (.entry mem))
    · obtain same | mem := List.mem_cons.mp mem
      · cases same
        exact .inr (.inl ⟨_, rfl, below⟩)
      · exact .inr (.inr (.within mem below))
  · rintro (⟨rfl, rfl⟩ | ⟨inner, rfl, below⟩ | mem | ⟨mem, below⟩)
    · exact .entry List.mem_cons_self
    · exact .within List.mem_cons_self below
    · exact .entry (List.mem_cons_of_mem _ mem)
    · exact .within (List.mem_cons_of_mem _ mem) below

mutual

/-- **The paths of a tree are those of the entries below it.** -/
theorem mem_paths_iff (parts : List String) :
    ∀ tree : FileTree, parts ∈ tree.paths ↔ ∃ entry, Below tree parts entry
  | .file _ => ⟨nofun, nofun⟩
  | .directory entries => mem_entryPaths_iff parts entries

theorem mem_entryPaths_iff (parts : List String) : ∀ entries : List (String × FileTree),
    parts ∈ entryPaths entries ↔ ∃ entry, Below (.directory entries) parts entry
  | [] => ⟨nofun, fun ⟨_, below⟩ => by cases below <;> contradiction⟩
  | (name, first) :: rest => by
    have inFirst := fun inner => mem_paths_iff inner first
    have inRest := mem_entryPaths_iff parts rest
    rw [entryPaths, List.mem_append, List.mem_cons, List.mem_map, inRest]
    constructor
    · rintro ((rfl | ⟨inner, mem, rfl⟩) | ⟨entry, below⟩)
      · exact ⟨first, below_cons_iff.mpr (.inl ⟨rfl, rfl⟩)⟩
      · obtain ⟨entry, below⟩ := (inFirst inner).mp mem
        exact ⟨entry, below_cons_iff.mpr (.inr (.inl ⟨inner, rfl, below⟩))⟩
      · exact ⟨entry, below_cons_iff.mpr (.inr (.inr below))⟩
    · rintro ⟨entry, below⟩
      obtain ⟨rfl, -⟩ | ⟨inner, rfl, inside⟩ | later := below_cons_iff.mp below
      · exact .inl (.inl rfl)
      · exact .inl (.inr ⟨inner, (inFirst inner).mpr ⟨entry, inside⟩, rfl⟩)
      · exact .inr ⟨entry, later⟩

end

/-! ### Trees that a file system can hold -/

/-- A name that an entry can have. -/
structure IsProperName (name : String) : Prop where
  isPart : Path.isPart name.toList = true
  notAbove : name ≠ ".."
  noSlash : '/' ∉ name.toList
  noNull : '\x00' ∉ name.toList
  short : name.utf8ByteSize ≤ longestName

/-- A tree in which all names are proper, and no directory has two entries of one name. -/
inductive IsProper : FileTree → Prop
  | file (content : FileContent) : IsProper (.file content)
  | directory {entries : List (String × FileTree)} (distinct : (entries.map Prod.fst).Nodup)
      (names : ∀ named ∈ entries, IsProperName named.1)
      (each : ∀ named ∈ entries, IsProper named.2) : IsProper (.directory entries)

theorem lookup_of_mem {entries : List (String × FileTree)} {name : String} {entry : FileTree}
    (distinct : (entries.map Prod.fst).Nodup) (mem : (name, entry) ∈ entries) :
    entries.lookup name = some entry := by
  induction entries with
  | nil => cases mem
  | cons named entries ih =>
    obtain ⟨other, distinct⟩ := List.nodup_cons.mp distinct
    obtain rfl | later := List.mem_cons.mp mem
    · exact List.lookup_cons_self
    · have apart : (name == named.1) = false :=
        beq_false_of_ne fun same => other (same ▸ List.mem_map_of_mem later)
      rw [List.lookup_cons, apart]
      exact ih distinct later

theorem Below.isProper {tree entry : FileTree} {parts : List String} (below : Below tree parts entry)
    (proper : tree.IsProper) : entry.IsProper ∧ ∀ part ∈ parts, IsProperName part := by
  induction below with
  | entry mem =>
    cases proper with
    | directory _ names each => exact ⟨each _ mem, List.forall_mem_singleton.mpr (names _ mem)⟩
  | within mem _ ih =>
    cases proper with
    | directory _ names each =>
      obtain ⟨isProper, later⟩ := ih (each _ mem)
      exact ⟨isProper, List.forall_mem_cons.mpr ⟨names _ mem, later⟩⟩

/-! ### Looking up what stands below -/

section

variable (above : List FileTree) (entries : List (String × FileTree)) (rest : List String)

theorem descend_up : descend above (.directory entries) (".." :: rest) =
    match above with
    | [] => descend [] (.directory entries) rest
    | parent :: others => descend others parent rest := by
  cases above <;> rfl

theorem descend_down {name : String} (down : name ≠ "..") :
    descend above (.directory entries) (name :: rest) =
      if name.utf8ByteSize > longestName then .error .nameTooLong
      else
        match entries.lookup name with
        | some entry => descend (.directory entries :: above) entry rest
        | none => .error .notFound := by
  rw [descend.eq_def]
  exact if_neg down

end

/-- Without two dots it does not matter what is above. -/
theorem descend_eq {names : List String} (down : ".." ∉ names) (above : List FileTree)
    (here : FileTree) : descend above here names = descend [] here names := by
  induction names generalizing above here with
  | nil => rfl
  | cons name rest ih =>
    obtain ⟨other, down⟩ := not_or.mp (List.mem_cons.not.mp down)
    cases here with
    | file _ => rfl
    | directory entries =>
      rw [descend_down _ _ _ (Ne.symm other), descend_down _ _ _ (Ne.symm other)]
      split
      · rfl
      · split
        · rw [ih down, ih down [_]]
        · rfl

theorem descend_append {names rest : List String} (down : ".." ∉ rest) (above : List FileTree)
    (here : FileTree) : descend above here (names ++ rest) =
      (descend above here names).bind fun there => descend [] there rest := by
  induction names generalizing above here with
  | nil => exact descend_eq down above here
  | cons name names ih =>
    cases here with
    | file _ => rfl
    | directory entries =>
      rw [List.cons_append]
      by_cases up : name = ".."
      · rw [up, descend_up, descend_up]
        cases above with
        | nil => exact ih _ _
        | cons parent others => exact ih _ _
      · rw [descend_down _ _ _ up, descend_down _ _ _ up]
        split
        · rfl
        · split
          · exact ih _ _
          · rfl

/-- **An entry is found by the names that lead to it.** -/
theorem Below.descend_eq {tree entry : FileTree} {parts : List String} (below : Below tree parts entry)
    (proper : tree.IsProper) : descend [] tree parts = .ok entry := by
  induction below with
  | entry mem =>
    cases proper with
    | directory distinct names each =>
      rw [descend_down _ _ _ (names _ mem).notAbove, if_neg (Nat.not_lt_of_le (names _ mem).short),
        lookup_of_mem distinct mem]
      rfl
  | within mem below ih =>
    cases proper with
    | directory distinct names each =>
      have down : ".." ∉ _ := fun above => ((below.isProper (each _ mem)).2 _ above).notAbove rfl
      rw [descend_down _ _ _ (names _ mem).notAbove, if_neg (Nat.not_lt_of_le (names _ mem).short),
        lookup_of_mem distinct mem]
      exact (FileTree.descend_eq down _ _).trans (ih (each _ mem))

/-- What is found in a tree is as proper as the tree. -/
theorem isProper_of_descend {above : List FileTree} {here found : FileTree} {names : List String}
    (goes : descend above here names = .ok found) (aboveProper : ∀ tree ∈ above, tree.IsProper)
    (proper : here.IsProper) : found.IsProper := by
  induction names generalizing above here with
  | nil =>
    cases goes
    exact proper
  | cons name rest ih =>
    cases here with
    | file _ => cases goes
    | directory entries =>
      by_cases up : name = ".."
      · rw [up, descend_up] at goes
        cases above with
        | nil => exact ih goes nofun proper
        | cons parent others =>
          obtain ⟨isProper, others⟩ := List.forall_mem_cons.mp aboveProper
          exact ih goes others isProper
      · rw [descend_down _ _ _ up] at goes
        split at goes
        · cases goes
        · split at goes
          · next entry leads =>
            cases proper with
            | directory distinct names each =>
              obtain ⟨_, _, rfl, -⟩ := List.lookup_eq_some_iff.mp leads
              exact ih goes (List.forall_mem_cons.mpr ⟨.directory distinct names each, aboveProper⟩)
                (each (name, entry) (by simp))
          · cases goes

theorem find_eq_ok_iff {root found : FileTree} {path : Path} : root.find path = .ok found ↔
    '\x00' ∉ path.toString.toList ∧ path.toString.utf8ByteSize ≤ longestPath ∧
      descend [] (startOf root path) path.parts = .ok found := by
  rw [find]
  simp only [List.contains_iff_mem]
  split
  · next null => exact ⟨nofun, fun goes => absurd null goes.1⟩
  · next noNull =>
    split
    · next long => exact ⟨nofun, fun goes => absurd goes.2.1 (Nat.not_le_of_lt long)⟩
    · next short => exact ⟨fun goes => ⟨noNull, Nat.le_of_not_lt short, goes⟩, fun goes => goes.2.2⟩

theorem isProper_of_find {root found : FileTree} {path : Path} (leads : root.find path = .ok found)
    (proper : root.IsProper) : found.IsProper := by
  refine isProper_of_descend (find_eq_ok_iff.mp leads).2.2 nofun ?_
  unfold startOf
  split
  · exact proper
  · exact .directory List.nodup_nil nofun nofun

/-- **What is found below a directory is what its path leads to,** unless the path is too long. -/
theorem find_below {root tree entry : FileTree} {target : Path} {parts : List String}
    (leads : root.find target = .ok tree) (proper : tree.IsProper) (below : Below tree parts entry) :
    root.find (target.below parts) = .ok entry ∨
      root.find (target.below parts) = .error .nameTooLong := by
  have names := (below.isProper proper).2
  have down : ".." ∉ parts := fun above => (names _ above).notAbove rfl
  obtain ⟨noNull, -, goes⟩ := find_eq_ok_iff.mp leads
  have noNullBelow : '\x00' ∉ (target.below parts).toString.toList := by
    rw [Path.mem_toString_iff (by decide) (by decide)] at noNull ⊢
    rintro ⟨part, mem, null⟩
    obtain front | inside := List.mem_append.mp mem
    · exact noNull ⟨part, front, null⟩
    · exact (names part inside).noNull null
  by_cases short : (target.below parts).toString.utf8ByteSize ≤ longestPath
  · refine .inl (find_eq_ok_iff.mpr ⟨noNullBelow, short, ?_⟩)
    change descend [] (startOf root target) (target.parts ++ parts) = _
    rw [descend_append down, goes]
    exact below.descend_eq proper
  · right
    rw [find, if_neg (by simpa using noNullBelow), if_pos (Nat.lt_of_not_le short)]

end FileTree

/-! ### What a search finds -/

/-- **A search finds entries of either kind, by their names only.** -/
theorem mem_specsBelow_iff {tree : FileTree} {parts : List String} :
    parts ∈ specsBelow tree ↔
      (∃ entry, tree.Below parts entry) ∧ parts.getLast?.any isSpecName = true := by
  rw [specsBelow, List.mem_mergeSort, List.mem_eraseDups, List.mem_filter, FileTree.mem_paths_iff]

end LetShadow
