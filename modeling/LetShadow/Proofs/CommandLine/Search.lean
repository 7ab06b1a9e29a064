/-
**Runs on a directory.**

A search goes by names, and a directory can be called like a spec. It is then handed on as if it were a
file, and cannot be read. So a run on a directory may fail though nothing is wrong with any file in it.

* `isNormal_of_parse` — the targets of a run are normal paths.
* `Searched` — what a search comes across, be it a file or a directory.
* `run_directory_failed_iff` — **a run on a directory fails exactly for a file that is not judged, or for
  a directory with the name of a spec.**
-/

import LetShadow.Proofs.CommandLine.Counts
import LetShadow.Proofs.Files.Below

namespace LetShadow

open CommandLine

namespace CommandLine

/-! ### Targets -/

/-- All targets so far are normal paths. -/
def Reading.AreNormal (reading : Reading) : Prop :=
  ∀ target ∈ reading.options.targets, target.IsNormal

theorem areNormal_addTarget {reading : Reading} (normal : reading.AreNormal) (text : String) :
    (reading.addTarget text).AreNormal := by
  unfold Reading.addTarget
  split
  · exact normal
  · exact List.forall_mem_append.mpr
      ⟨normal, List.forall_mem_singleton.mpr (Path.isNormal_ofString text)⟩

theorem areNormal_setFormat {reading last : Reading} {value : String} (normal : reading.AreNormal)
    (goes : reading.setFormat value = .ok last) : last.AreNormal := by
  unfold Reading.setFormat at goes
  split at goes
  · cases goes
    exact normal
  · cases goes

theorem areNormal_setInput {reading last : Reading} {value : String} (normal : reading.AreNormal)
    (goes : reading.setInput value = .ok last) : last.AreNormal := by
  unfold Reading.setInput at goes
  split at goes
  · cases goes
    exact normal
  · cases goes

theorem areNormal_read {reading last : Reading} {words : List Word} (normal : reading.AreNormal)
    (goes : reading.read words = .ok last) : last.AreNormal := by
  fun_induction Reading.read reading words with
  | case1 =>
    cases goes
    exact normal
  | case2 reading text rest ih => exact ih (areNormal_addTarget normal text) goes
  | case3 reading rest ih => exact ih normal goes
  | case4 => cases goes
  | case5 reading rest ih => exact ih normal goes
  | case6 reading value rest ih =>
    obtain ⟨next, sets, goes⟩ := bind_eq_ok_iff.mp goes
    exact ih next (areNormal_setFormat normal sets) goes
  | case7 reading value rest ih =>
    obtain ⟨next, sets, goes⟩ := bind_eq_ok_iff.mp goes
    exact ih next (areNormal_setFormat normal sets) goes
  | case8 reading value rest ih =>
    obtain ⟨next, sets, goes⟩ := bind_eq_ok_iff.mp goes
    exact ih next (areNormal_setInput normal sets) goes
  | case9 reading value rest ih =>
    obtain ⟨next, sets, goes⟩ := bind_eq_ok_iff.mp goes
    exact ih next (areNormal_setInput normal sets) goes
  | case10 => cases goes
  | case11 => cases goes
  | case12 => cases goes
  | case13 reading rest ih => exact ih normal goes

/-- **The targets of a run are normal paths.** -/
theorem isNormal_of_parse {arguments : List String} {options : Options}
    (asked : Options.parse arguments = .ok options) : ∀ target ∈ options.targets, target.IsNormal := by
  unfold Options.parse at asked
  split at asked
  · cases asked
  · obtain ⟨reading, goes, asked⟩ := bind_eq_ok_iff.mp asked
    split at asked
    · cases asked
    · cases asked
      have start : Reading.AreNormal {} := fun _ mem => absurd mem List.not_mem_nil
      exact areNormal_read start goes

end CommandLine

/-! ### Searches -/

/-- An entry that a search comes across: it stands below, and has the name of a spec. -/
structure FileTree.Searched (tree : FileTree) (parts : List String) (entry : FileTree) : Prop where
  below : tree.Below parts entry
  named : parts.getLast?.any isSpecName = true

section

variable {root : FileTree} {target : Path} {entries : List (String × FileTree)}

theorem collect_directory (leads : root.find target = .ok (.directory entries)) :
    collect root [target] = .ok ((specsBelow (.directory entries)).map target.below) := by
  have expands : expand root target = .ok ((specsBelow (.directory entries)).map target.below) := by
    rw [expand, leads]
  exact collect_eq_ok_iff.mpr ⟨[_], .cons expands .nil, by simp⟩

/-- A path that is judged leads to a file. -/
theorem find_of_isJudged {choice : InputChoice} {path : Path} (judged : IsJudged root choice path) :
    ∃ content, root.find path = .ok (.file content) := by
  have found {content : FileContent} {text : List Char} (opens : Opens root path content text) :
      root.find path = .ok (.file content) := by
    have leads := opens.found
    unfold FileTree.content at leads
    split at leads
    · next here =>
      cases leads
      exact here
    · cases leads
    · cases leads
  obtain ⟨tree, opens | opens, -⟩ := judged
  · exact ⟨_, found opens⟩
  · exact ⟨_, found opens⟩

variable (proper : root.IsProper) (leads : root.find target = .ok (.directory entries))
  (normal : target.IsNormal)

include proper leads

/-- A directory is never judged, whatever it is called. -/
theorem not_isJudged_of_searched {choice : InputChoice} {parts : List String}
    {inner : List (String × FileTree)}
    (searched : (FileTree.directory entries).Searched parts (.directory inner)) :
    ¬ IsJudged root choice (target.below parts) := by
  intro judged
  obtain ⟨content, isFile⟩ := find_of_isJudged judged
  obtain here | long :=
    FileTree.find_below leads (FileTree.isProper_of_find leads proper) searched.below
  · cases here.symm.trans isFile
  · cases long.symm.trans isFile

include normal

/-- What is found is looked up again under the path that it has been found at. -/
theorem ofString_below {parts : List String} {entry : FileTree}
    (searched : (FileTree.directory entries).Searched parts entry) :
    Path.ofString (target.below parts).toString = target.below parts := by
  have names := (searched.below.isProper (FileTree.isProper_of_find leads proper)).2
  refine Path.ofString_toString ⟨normal.slashes, List.forall_mem_append.mpr ⟨normal.parts, ?_⟩⟩
  exact fun part mem => ⟨(names part mem).isPart, (names part mem).noSlash⟩

/-- **What is found below a directory is not judged** if it is a directory, or a file that is not. -/
theorem exists_not_isJudged_iff {choice : InputChoice} :
    (∃ path ∈ (specsBelow (.directory entries)).map target.below,
        ¬ IsJudged root choice (.ofString path.toString)) ↔
      (∃ parts inner, (FileTree.directory entries).Searched parts (.directory inner)) ∨
      ∃ parts content, (FileTree.directory entries).Searched parts (.file content) ∧
        ¬ IsJudged root choice (target.below parts) := by
  constructor
  · rintro ⟨path, mem, spoiled⟩
    obtain ⟨parts, inSpecs, rfl⟩ := List.mem_map.mp mem
    obtain ⟨⟨entry, below⟩, named⟩ := mem_specsBelow_iff.mp inSpecs
    have searched : (FileTree.directory entries).Searched parts entry := ⟨below, named⟩
    rw [ofString_below proper leads normal searched] at spoiled
    cases entry with
    | file content => exact .inr ⟨parts, content, searched, spoiled⟩
    | directory inner => exact .inl ⟨parts, inner, searched⟩
  · have found {parts : List String} {entry : FileTree}
        (searched : (FileTree.directory entries).Searched parts entry)
        (spoiled : ¬ IsJudged root choice (target.below parts)) :
        ∃ path ∈ (specsBelow (.directory entries)).map target.below,
          ¬ IsJudged root choice (.ofString path.toString) := by
      refine ⟨_, List.mem_map_of_mem (mem_specsBelow_iff.mpr ⟨⟨_, searched.below⟩, searched.named⟩), ?_⟩
      rwa [ofString_below proper leads normal searched]
    rintro (⟨parts, inner, searched⟩ | ⟨parts, content, searched, spoiled⟩)
    · exact found searched (not_isJudged_of_searched proper leads searched)
    · exact found searched spoiled

end

/-! ### Runs on files -/

section

variable {root : FileTree} {choice : InputChoice}

/-- A file that is judged has a result. -/
theorem exists_result_of_isJudged {file : String} (judged : IsJudged root choice (.ofString file)) :
    ∃ result, analyzeFile root choice file = .ok result := by
  cases outcome : analyzeFile root choice file with
  | ok result => exact ⟨result, rfl⟩
  | error abort =>
    obtain ⟨tree, loads, -⟩ := judged
    have fails := loadFile_eq_aborted_iff.mpr (analyzeFile_eq_error_iff.mp outcome)
    cases fails.symm.trans (loadFile_eq_ok_iff.mpr loads)

/-- **Some result has an error exactly if some file is not judged.** -/
theorem fileErrors_eq_nil_iff {paths : List Path} {found : List Result}
    (each : List.Forall₂ (fun path result => analyzeFile root choice path.toString = .ok result)
      paths found) :
    fileErrors found = [] ↔ ∀ path ∈ paths, IsJudged root choice (.ofString path.toString) := by
  have noError : fileErrors found = [] ↔ ∀ result ∈ found, result.error = none := by
    simp [fileErrors, List.filterMap_eq_nil_iff]
  rw [noError]
  constructor
  · intro clean path mem
    obtain ⟨result, outcome⟩ := mapM_goes_iff.mp ⟨found, mapM_eq_ok_iff.mpr each⟩ path mem
    by_contra spoiled
    obtain ⟨error, rfl⟩ := (analyzeFile_eq_ok outcome).2.2 spoiled
    cases clean _ ((mem_outcomes_iff each _).mpr ⟨path, mem, outcome⟩)
  · intro judged result mem
    obtain ⟨path, inPaths, outcome⟩ := (mem_outcomes_iff each result).mp mem
    exact (analyzeFile_eq_ok outcome).2.1 (judged path inPaths)

end

namespace CommandLine

/-- The lines of errors come first, in either form. -/
theorem exists_errors_of_lines {format : ReportForm} {found : List Result} {lines : List String}
    (shows : format.lines found = .ok lines) :
    ∃ errors, errorLines found = .ok errors ∧ errors <+: lines := by
  cases format with
  | table =>
    obtain ⟨errors, errorsShown, -, rfl⟩ := tableReport_eq_ok_iff.mp shows
    rw [List.append_assoc]
    exact ⟨errors, errorsShown, List.prefix_append _ _⟩
  | plain =>
    obtain ⟨errors, errorsShown, rfl⟩ := plainReport_eq_ok_iff.mp shows
    exact ⟨errors, errorsShown, List.prefix_append _ _⟩

/-- A report without errors can be made, if its table can. -/
theorem exists_lines_iff {format : ReportForm} {found : List Result} (clean : fileErrors found = []) :
    (∃ lines, format.lines found = .ok lines) ↔
      (format = .table → ∀ row ∈ tableRows found, row.CanBeShown) := by
  have noErrors : errorLines found = .ok [] := by
    rw [errorLines, clean]
    rfl
  cases format with
  | table =>
    constructor
    · rintro ⟨lines, shows⟩ -
      exact (tableReport_eq_ok_iff.mp shows).choose_spec.2.1
    · exact fun canBeShown => ⟨_, tableReport_eq_ok_iff.mpr ⟨[], noErrors, canBeShown rfl, rfl⟩⟩
  | plain =>
    exact iff_of_true ⟨_, plainReport_eq_ok_iff.mpr ⟨[], noErrors, rfl⟩⟩
      fun table => by cases table

section

variable {root : FileTree} {options : Options} {target : Path} {entries : List (String × FileTree)}
  (single : options.targets = [target]) (leads : root.find target = .ok (.directory entries))

include single leads

theorem collect_of_single : collect root options.targets =
    .ok ((specsBelow (.directory entries)).map target.below) :=
  single ▸ collect_directory leads

theorem missingTargets_of_single : missingTargets root options.targets = .ok [] := by
  have holds : root.holds target = .ok true := by rw [FileTree.holds, leads]
  rw [single]
  simp [missingTargets, List.filterM, List.filterAuxM, holds]

theorem not_misses_of_single : ¬ Misses root options.targets :=
  (missingTargets_eq_nil (missingTargets_of_single single leads)).mp rfl

variable (proper : root.IsProper) (normal : target.IsNormal)

include proper normal

/-- The run fails for a directory, or for a file that is not judged, and then it says so first. -/
theorem failed_iff_of_single {outcome : Outcome} (ran : runWith root options = .ok outcome) :
    (outcome.status = .failed ↔
      (∃ parts inner, (FileTree.directory entries).Searched parts (.directory inner)) ∨
      ∃ parts content, (FileTree.directory entries).Searched parts (.file content) ∧
        ¬ IsJudged root options.input (target.below parts)) ∧
    ∃ errors, errors <+: outcome.lines ∧ (errors ≠ [] ↔ outcome.status = .failed) ∧
      ∀ line ∈ errors, "Error analyzing ".toList <+: line.toList := by
  obtain ⟨misses, -⟩ | ⟨-, found, goes, status, shows⟩ := cases_of_runWith ran
  · exact absurd misses (not_misses_of_single single leads)
  have clean_iff := fileErrors_eq_nil_iff
    ((results_eq_ok_iff (collect_of_single single leads)).mp goes)
  obtain ⟨errors, errorsShown, first⟩ := exists_errors_of_lines shows
  have each := mapM_eq_ok_iff.mp errorsShown
  refine ⟨?_, errors, first, ?_, fun line mem => ?_⟩
  · rw [status, ofResults_eq_failed_iff, ne_eq, clean_iff,
      ← exists_not_isJudged_iff proper leads normal]
    simp only [not_forall, exists_prop]
  · rw [status, ofResults_eq_failed_iff, ← List.length_pos_iff, ← each.length_eq,
      List.length_pos_iff]
  · obtain ⟨failed, -, shown⟩ := (mem_outcomes_iff each line).mp mem
    exact prefix_errorLine shown

/-- If all that is found are files that are judged, the run goes through, but for its table. -/
theorem goes_of_single (clean : ∀ parts entry, (FileTree.directory entries).Searched parts entry →
      (∃ content, entry = .file content) ∧ IsJudged root options.input (target.below parts)) :
    ∃ found, results root options = .ok found ∧ ((∃ outcome, runWith root options = .ok outcome) ↔
      (options.format = .table → ∀ row ∈ tableRows found, row.CanBeShown)) := by
  have judged : ∀ path ∈ (specsBelow (.directory entries)).map target.below,
      IsJudged root options.input (.ofString path.toString) := by
    refine fun path mem => by_contra fun spoiled => ?_
    obtain ⟨parts, inner, searched⟩ | ⟨parts, content, searched, spoiled⟩ :=
      (exists_not_isJudged_iff proper leads normal).mp ⟨path, mem, spoiled⟩
    · obtain ⟨⟨content, isFile⟩, -⟩ := clean parts _ searched
      cases isFile
    · exact spoiled (clean parts _ searched).2
  obtain ⟨found, outcomes⟩ := mapM_goes_iff.mpr fun path mem =>
    exists_result_of_isJudged (judged path mem)
  have each := mapM_eq_ok_iff.mp outcomes
  have goes := (results_eq_ok_iff (collect_of_single single leads)).mpr each
  refine ⟨found, goes, ?_⟩
  rw [← exists_lines_iff ((fileErrors_eq_nil_iff each).mpr judged)]
  constructor
  · rintro ⟨outcome, ran⟩
    obtain ⟨misses, -⟩ | ⟨-, foundToo, goesToo, -, shows⟩ := cases_of_runWith ran
    · exact absurd misses (not_misses_of_single single leads)
    · obtain rfl := Except.ok.inj (goes.symm.trans goesToo)
      exact ⟨_, shows⟩
  · rintro ⟨lines, shows⟩
    exact ⟨_, runWith_eq (missingTargets_of_single single leads) goes shows⟩

end

/-- **A run on a directory fails exactly for what it finds.** It finds all that stands below and has the
name of a spec. The run fails if something that is found is a directory, or a file that is not judged;
and exactly then it has lines of errors, which come first. If neither is found, the run goes through, but
for a table whose texts cannot be shown. -/
theorem run_directory_failed_iff {root : FileTree} (proper : root.IsProper) {arguments : List String}
    {options : Options} {target : Path} {entries : List (String × FileTree)}
    (asked : Options.parse arguments = .ok options) (single : options.targets = [target])
    (leads : root.find target = .ok (.directory entries)) :
    (∃ paths, collect root options.targets = .ok paths ∧ ∀ path, path ∈ paths ↔
      ∃ parts entry, (FileTree.directory entries).Searched parts entry ∧ target.below parts = path) ∧
    (∀ outcome, run root arguments = .ok outcome →
      (outcome.status = .failed ↔
        (∃ parts inner, (FileTree.directory entries).Searched parts (.directory inner)) ∨
        ∃ parts content, (FileTree.directory entries).Searched parts (.file content) ∧
          ¬ IsJudged root options.input (target.below parts)) ∧
      ∃ errors, errors <+: outcome.lines ∧ (errors ≠ [] ↔ outcome.status = .failed) ∧
        ∀ line ∈ errors, "Error analyzing ".toList <+: line.toList) ∧
    ((∀ parts entry, (FileTree.directory entries).Searched parts entry →
        (∃ content, entry = .file content) ∧ IsJudged root options.input (target.below parts)) →
      ∃ found, results root options = .ok found ∧
        ((∃ outcome, run root arguments = .ok outcome) ↔
          (options.format = .table → ∀ row ∈ tableRows found, row.CanBeShown))) := by
  have normal : target.IsNormal := isNormal_of_parse asked target (single ▸ List.mem_cons_self)
  have runs : run root arguments = runWith root options := by rw [run, asked]
  rw [runs]
  refine ⟨⟨_, collect_of_single single leads, fun path => ?_⟩,
    fun outcome => failed_iff_of_single single leads proper normal,
    goes_of_single single leads proper normal⟩
  rw [List.mem_map]
  simp only [mem_specsBelow_iff]
  constructor
  · rintro ⟨parts, ⟨⟨entry, below⟩, named⟩, same⟩
    exact ⟨parts, entry, ⟨below, named⟩, same⟩
  · rintro ⟨parts, entry, ⟨below, named⟩, same⟩
    exact ⟨parts, ⟨⟨entry, below⟩, named⟩, same⟩

/-- A dump, and a directory that is called like a spec. -/
def oldEntries : List (String × FileTree) :=
  [("a.json", plainFile "null".toList none), ("old_spec.rb", .directory [])]

/-- The directory of both. -/
def oldSpecs : FileTree :=
  .directory [("d", .directory oldEntries)]

theorem oldSpecs_isProper : oldSpecs.IsProper := by
  have empty : FileTree.IsProper (.directory []) := .directory List.nodup_nil nofun nofun
  have old : FileTree.IsProper (.directory oldEntries) := by
    refine .directory (by simp [oldEntries]) ?_ ?_
    · exact List.forall_mem_cons.mpr ⟨⟨by decide, by decide, by decide, by decide, by decide⟩,
        List.forall_mem_singleton.mpr ⟨by decide, by decide, by decide, by decide, by decide⟩⟩
    · exact List.forall_mem_cons.mpr ⟨.file _, List.forall_mem_singleton.mpr empty⟩
  refine .directory (by simp) ?_ (List.forall_mem_singleton.mpr old)
  exact List.forall_mem_singleton.mpr ⟨by decide, by decide, by decide, by decide, by decide⟩

theorem old_searched : (FileTree.directory oldEntries).Searched ["old_spec.rb"] (.directory []) :=
  ⟨.entry (List.mem_cons_of_mem _ List.mem_cons_self), by decide⟩

theorem collect_oldSpecs : collect oldSpecs [.ofString "d"] =
    .ok [.ofString "d/a.json", .ofString "d/old_spec.rb"] := by
  have sorted : specsBelow (.directory oldEntries) = [["a.json"], ["old_spec.rb"]] := by
    rw [specsBelow, List.mergeSort_of_pairwise (by decide +kernel)]
    decide +kernel
  rw [collect_directory rfl, sorted]
  decide +kernel

theorem run_oldSpecs : (run oldSpecs ["d"]).map Outcome.status = .ok .failed := by
  have asked : Options.parse ["d"] = .ok { targets := [.ofString "d"] } := rfl
  have looked : missingTargets oldSpecs [.ofString "d"] = .ok [] := by decide +kernel
  rw [run, asked]
  simp only [runWith, results, looked, collect_oldSpecs]
  decide +kernel

/-- The directory that is called like a spec is enough for the run to fail. -/
theorem run_directory_failed_iff_oldSpecs :
    ∃ outcome, run oldSpecs ["d"] = .ok outcome ∧ outcome.status = .failed ∧
      ∃ errors, errors <+: outcome.lines ∧ errors ≠ [] := by
  have asked : Options.parse ["d"] = .ok { targets := [.ofString "d"] } := rfl
  obtain ⟨outcome, ran, -⟩ := map_eq_ok_iff.mp run_oldSpecs
  obtain ⟨-, outcomes, -⟩ := run_directory_failed_iff oldSpecs_isProper asked rfl rfl
  obtain ⟨fails_iff, errors, first, some_iff, -⟩ := outcomes outcome ran
  have fails := fails_iff.mpr (.inl ⟨_, _, old_searched⟩)
  exact ⟨outcome, ran, fails, errors, first, some_iff.mpr fails⟩

/-- **All files that are found are judged, and yet the run fails.** -/
theorem run_failed_oldSpecs :
    (∀ parts content, (FileTree.directory oldEntries).Searched parts (.file content) →
        IsJudged oldSpecs .auto ((Path.ofString "d").below parts)) ∧
      (run oldSpecs ["d"]).map Outcome.status = .ok .failed := by
  refine ⟨fun parts content searched => ?_, run_oldSpecs⟩
  have judged : IsJudged oldSpecs .auto ((Path.ofString "d").below ["a.json"]) := by
    have opens : Opens oldSpecs ((Path.ofString "d").below ["a.json"]) _ "null".toList :=
      ⟨rfl, readText_asciiBytes rfl⟩
    have parsed : Json.parse "null".toList = .ok .null := by
      simp [Json.parse, Json.Reader.run, Json.Reader.isSpace, Json.Reader.step,
        Json.Reader.takeValue, Json.Reader.wordValues, Json.Reader.supply, Json.Reader.finish]
    have noGroups : (⟨0, .sequence [] none⟩ : Occurrence).groups = [] := rfl
    refine ⟨.sequence [] none, .dump opens rfl parsed rfl, fun group mem => ?_⟩
    rw [noGroups] at mem
    exact absurd mem List.not_mem_nil
  obtain ⟨mem | ⟨mem, below⟩, -⟩ := searched
  · obtain ⟨rfl, -⟩ : _ = "a.json" ∧ _ := by simpa [oldEntries, plainFile] using mem
    exact judged
  · -- Neither of the two has anything below it.
    simp only [oldEntries, plainFile, List.mem_cons, Prod.mk.injEq, List.not_mem_nil, or_false] at mem
    obtain ⟨-, rfl⟩ | ⟨-, rfl⟩ := mem
    · cases below
    · cases below <;> contradiction

end CommandLine

end LetShadow
