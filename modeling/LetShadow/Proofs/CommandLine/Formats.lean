/-
**How the files that a search finds are read.**

A search goes by the ending of a name, and a reader by the suffix of the name. A name that begins with its
last dot has no suffix, whatever follows the dot. So the two part ways at one name only.

* `Path.suffixOf_append` — the suffix of a name with a known ending.
* `readsDump_dump_iff`, `readsDump_spec` — how what a search comes across is read.
* `formats_exact` — **dumps are read as dumps, but for files that are called just `.json`,** and specs are
  read as Ruby.
-/

import LetShadow.Proofs.CommandLine.Targets

namespace LetShadow

/-! ### Suffixes -/

/-- The suffix of a name begins at its last dot, if something stands in front of that. -/
theorem Path.suffixOf_append (stem : List Char) {ending : List Char} (noDot : '.' ∉ ending)
    (nonempty : ending ≠ []) :
    suffixOf (stem ++ '.' :: ending) = if stem = [] then [] else '.' :: ending := by
  have behind : ((stem ++ '.' :: ending).reverse.takeWhile (· ≠ '.')).reverse = ending := by
    have noDotBehind : ∀ char ∈ ending.reverse, decide (char ≠ '.') = true := by
      intro char mem
      exact decide_eq_true fun dot => noDot (List.mem_reverse.mp (dot ▸ mem))
    rw [List.reverse_append, List.reverse_cons, List.append_assoc,
      List.takeWhile_append_of_pos noDotBehind, List.singleton_append,
      List.takeWhile_cons_of_neg (by simp), List.append_nil, List.reverse_reverse]
  have before : (stem ++ '.' :: ending).take
      ((stem ++ '.' :: ending).length - ending.length - 1) = stem := by
    have length : (stem ++ '.' :: ending).length - ending.length - 1 = stem.length := by
      rw [List.length_append, List.length_cons]
      omega
    rw [length, List.take_left]
  unfold suffixOf
  simp only [behind, before, nonempty, or_false]

/-- A name with the ending of dumps has it for its suffix, unless it is all of the name. -/
theorem Path.isDump_iff {path : Path} {stem : String} (named : path.name = stem ++ ".json") :
    path.isDump = true ↔ path.name ≠ ".json" := by
  have suffix : suffixOf path.name.toList = if stem.toList = [] then [] else ".json".toList := by
    rw [named, String.toList_append]
    exact suffixOf_append stem.toList (by decide) (by decide)
  have alone : path.name = ".json" ↔ stem.toList = [] := by
    rw [named, ← String.toList_inj, String.toList_append, List.append_left_eq_self]
  rw [isDump, suffix, ne_eq, alone]
  by_cases none : stem.toList = []
  · simp [none]
  · simp [none]

theorem Path.isDump_spec {path : Path} {stem : String} (named : path.name = stem ++ "_spec.rb") :
    path.isDump = false := by
  have suffix : suffixOf path.name.toList = ".rb".toList := by
    rw [named, String.toList_append]
    have split :
        stem.toList ++ "_spec.rb".toList = (stem.toList ++ "_spec".toList) ++ '.' :: "rb".toList := by
      rw [List.append_assoc]
      rfl
    rw [split, suffixOf_append _ (by decide) (by decide)]
    exact if_neg (by simp)
  rw [isDump, suffix]
  rfl

/-! ### What a search comes across -/

section

variable {root : FileTree} {target : Path} {ending : String} {path : Path}

theorem hasEnding_of_foundBelow (found : FoundBelow root target ending path) :
    HasEnding path.name ending := by
  obtain ⟨-, -, ends⟩ := found
  simpa [Path.name, Path.below] using ends

section

variable (found : FoundBelow root target "_spec.rb" path ∨ FoundBelow root target ".json" path)

include found

theorem leadsToDirectory_of_foundBelow : LeadsToDirectory root target := by
  rcases found with ⟨leads, -, -⟩ | ⟨leads, -, -⟩ <;> exact ⟨_, leads⟩

/-- What a search comes across is looked up again under the path that it has been found at. -/
theorem ofString_of_foundBelow (proper : root.IsProper) (normal : target.IsNormal) :
    Path.ofString path.toString = path := by
  obtain ⟨entries, leads⟩ := leadsToDirectory_of_foundBelow found
  obtain ⟨parts, listed, rfl⟩ := (foundBelow_iff leads).mp found
  obtain ⟨⟨entry, below⟩, named⟩ := mem_specsBelow_iff.mp listed
  exact ofString_below proper leads normal ⟨below, named⟩

/-- A search hands on what it comes across. -/
theorem mem_of_foundBelow {targets paths : List Path} (collected : collect root targets = .ok paths)
    (mem : target ∈ targets) : path ∈ paths := by
  obtain ⟨blocks, each, rfl⟩ := CommandLine.collect_eq_ok_iff.mp collected
  obtain ⟨block, expands⟩ := mapM_goes_iff.mp ⟨blocks, mapM_eq_ok_iff.mpr each⟩ target mem
  have inBlock : path ∈ block :=
    ((isBlock_of_expand expands).members (leadsToDirectory_of_foundBelow found) path).mpr found
  exact List.mem_flatten.mpr
    ⟨block, (mem_outcomes_iff each block).mpr ⟨target, mem, expands⟩, inBlock⟩

end

/-- **A dump is read as a dump, unless it is called just like the ending.** -/
theorem readsDump_dump_iff (found : FoundBelow root target ".json" path) :
    InputChoice.auto.readsDump path = true ↔ path.name ≠ ".json" := by
  obtain ⟨stem, named⟩ := hasEnding_of_foundBelow found
  exact Path.isDump_iff named

/-- **A spec is read as Ruby.** -/
theorem readsDump_spec (found : FoundBelow root target "_spec.rb" path) :
    InputChoice.auto.readsDump path = false := by
  obtain ⟨stem, named⟩ := hasEnding_of_foundBelow found
  exact Path.isDump_spec named

end

/-- Two choices that agree on how a file is read give the same result for it. -/
theorem analyzeFile_congr {root : FileTree} {choice other : InputChoice} {file : String}
    (same : choice.readsDump (.ofString file) = other.readsDump (.ofString file)) :
    analyzeFile root choice file = analyzeFile root other file := by
  rw [analyzeFile, analyzeFile, loadFile, loadFile, same]

/-- **Searching and reading agree on all names but one.** In a tree that a file system can hold, what a
search comes across by the ending of dumps is handed on and read as a dump, unless its whole name is this
ending; then it is read as Ruby. What it comes across by the ending of specs is handed on and read as Ruby,
whatever its name. -/
theorem formats_exact {root : FileTree} (proper : root.IsProper) {targets paths : List Path}
    (normal : ∀ target ∈ targets, target.IsNormal) (collected : collect root targets = .ok paths)
    {target : Path} (mem : target ∈ targets) :
    (∀ path, FoundBelow root target ".json" path → path ∈ paths ∧
      (InputChoice.auto.readsDump (.ofString path.toString) = true ↔ path.name ≠ ".json") ∧
      (path.name ≠ ".json" →
        analyzeFile root .auto path.toString = analyzeFile root .dump path.toString) ∧
      (path.name = ".json" →
        analyzeFile root .auto path.toString = analyzeFile root .ruby path.toString)) ∧
    ∀ path, FoundBelow root target "_spec.rb" path → path ∈ paths ∧
      InputChoice.auto.readsDump (.ofString path.toString) = false ∧
      analyzeFile root .auto path.toString = analyzeFile root .ruby path.toString := by
  constructor
  · intro path found
    have again := ofString_of_foundBelow (.inr found) proper (normal target mem)
    have reads_iff := readsDump_dump_iff found
    rw [again]
    refine ⟨mem_of_foundBelow (.inr found) collected mem, reads_iff,
      fun other => analyzeFile_congr ?_, fun alone => analyzeFile_congr ?_⟩
    · rw [again]
      exact reads_iff.mpr other
    · rw [again]
      exact Bool.eq_false_iff.mpr fun reads => reads_iff.mp reads alone
  · intro path found
    have again := ofString_of_foundBelow (.inl found) proper (normal target mem)
    have reads := readsDump_spec found
    rw [again]
    refine ⟨mem_of_foundBelow (.inl found) collected mem, reads, analyzeFile_congr ?_⟩
    rw [again]
    exact reads

/-- The dump of an empty group. -/
def groupDump : List Char :=
  "[\"block\", [\"send\", null, \"describe\"], [\"args\"], null]".toList

/-- The tree of this text as a Ruby file: arrays of strings, and a variable. -/
def groupArrays : Ruby.Concrete :=
  let word (column : Int) (text : String) : Ruby.Concrete :=
    ⟨"string", none, Thunk.pure ("\"" ++ text ++ "\""), ⟨1, column⟩,
      [⟨"string_content", none, Thunk.pure text, ⟨1, column + 1⟩, []⟩]⟩
  let null (column : Int) : Ruby.Concrete := ⟨"identifier", none, Thunk.pure "null", ⟨1, column⟩, []⟩
  let call : Ruby.Concrete :=
    ⟨"array", none, Thunk.pure "[\"send\", null, \"describe\"]", ⟨1, 10⟩,
      [word 11 "send", null 19, word 25 "describe"]⟩
  let parameters : Ruby.Concrete :=
    ⟨"array", none, Thunk.pure "[\"args\"]", ⟨1, 38⟩, [word 39 "args"]⟩
  let block : Ruby.Concrete :=
    ⟨"array", none, Thunk.pure (String.ofList groupDump), ⟨1, 0⟩,
      [word 1 "block", call, parameters, null 48]⟩
  ⟨"program", none, block.source, ⟨1, 0⟩, [block]⟩

/-- An empty spec between two dumps, of which the first is called just like the ending of dumps. -/
def dottedEntries : List (String × FileTree) :=
  [ (".json", plainFile groupDump (some groupArrays)),
    ("a_spec.rb", plainFile [] (some ⟨"program", none, Thunk.pure "", ⟨1, 0⟩, []⟩)),
    ("b.json", plainFile groupDump (some groupArrays)) ]

/-- The directory of all three. -/
def dotted : FileTree :=
  .directory [("d", .directory dottedEntries)]

theorem dotted_isProper : dotted.IsProper := by
  have inner : FileTree.IsProper (.directory dottedEntries) := by
    refine .directory (by simp [dottedEntries]) ?_ ?_
    · exact List.forall_mem_cons.mpr ⟨⟨by decide, by decide, by decide, by decide, by decide⟩,
        List.forall_mem_cons.mpr ⟨⟨by decide, by decide, by decide, by decide, by decide⟩,
          List.forall_mem_singleton.mpr ⟨by decide, by decide, by decide, by decide, by decide⟩⟩⟩
    · exact List.forall_mem_cons.mpr ⟨.file _,
        List.forall_mem_cons.mpr ⟨.file _, List.forall_mem_singleton.mpr (.file _)⟩⟩
  refine .directory (by simp) ?_ (List.forall_mem_singleton.mpr inner)
  exact List.forall_mem_singleton.mpr ⟨by decide, by decide, by decide, by decide, by decide⟩

theorem foundBelow_dotted {ending : String} (stem : String) {entry : FileTree}
    (mem : (stem ++ ending, entry) ∈ dottedEntries) :
    FoundBelow dotted (.ofString "d") ending ((Path.ofString "d").below ([] ++ [stem ++ ending])) :=
  .intro rfl (.entry mem) ⟨stem, rfl⟩

theorem collect_dotted : collect dotted [.ofString "d"] =
    .ok [.ofString "d/.json", .ofString "d/a_spec.rb", .ofString "d/b.json"] := by
  have sorted : specsBelow (.directory dottedEntries) = [[".json"], ["a_spec.rb"], ["b.json"]] := by
    rw [specsBelow, List.mergeSort_of_pairwise (by decide +kernel)]
    decide +kernel
  rw [collect_directory rfl, sorted]
  decide +kernel

/-- The first dump is handed on, but read as Ruby, as the spec is; the other is read as a dump. -/
theorem formats_exact_dotted :
    ∃ paths, collect dotted [.ofString "d"] = .ok paths ∧ .ofString "d/.json" ∈ paths ∧
      analyzeFile dotted .auto "d/.json" = analyzeFile dotted .ruby "d/.json" ∧
      analyzeFile dotted .auto "d/a_spec.rb" = analyzeFile dotted .ruby "d/a_spec.rb" ∧
      analyzeFile dotted .auto "d/b.json" = analyzeFile dotted .dump "d/b.json" := by
  have normal : ∀ target ∈ [Path.ofString "d"], target.IsNormal :=
    List.forall_mem_singleton.mpr (Path.isNormal_ofString "d")
  obtain ⟨dumps, specs⟩ := formats_exact dotted_isProper normal collect_dotted List.mem_cons_self
  obtain ⟨found, -, -, alone⟩ := dumps _ (foundBelow_dotted "" List.mem_cons_self)
  obtain ⟨-, -, spec⟩ := specs _ (foundBelow_dotted "a" (.tail _ List.mem_cons_self))
  obtain ⟨-, -, dump, -⟩ := dumps _ (foundBelow_dotted "b" (.tail _ (.tail _ List.mem_cons_self)))
  exact ⟨_, collect_dotted, found, alone rfl, spec, dump (by decide)⟩

/-- **A dump that is found, but not read as a dump:** as a dump it has a group, which is not seen. -/
theorem dump_read_as_ruby :
    FoundBelow dotted (.ofString "d") ".json" (.ofString "d/.json") ∧
      (∃ paths, collect dotted [.ofString "d"] = .ok paths ∧ .ofString "d/.json" ∈ paths) ∧
      (analyzeFile dotted .dump "d/.json").map Result.scopes = .ok 1 ∧
      (analyzeFile dotted .auto "d/.json").map Result.scopes = .ok 0 :=
  ⟨foundBelow_dotted "" List.mem_cons_self, ⟨_, collect_dotted, List.mem_cons_self⟩,
    by decide +kernel, by decide +kernel⟩

end LetShadow
