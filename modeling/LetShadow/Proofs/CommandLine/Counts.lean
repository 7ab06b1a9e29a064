/-
**Runs, counted.**

A report tells its numbers twice: by what it lists and in its summary, which leaves out what stands with
an error. The two agree because nothing does: the analysis of a file comes to an error or to offenses,
never to both, however far the check has come when a name is not resolved.

* `Result.IsWhole` — **an error stands alone.**
* `Summary.ofResults_offenses` — so the summary counts all offenses.
* `run_counts_agree` — **lists, numbers and exit code of a run agree.**
-/

import LetShadow.Proofs.CommandLine.Runs
import LetShadow.Proofs.Report.Numbers

namespace LetShadow

open CommandLine

/-! ### Results -/

/-- A result without an error, or with nothing but an error. -/
def Result.IsWhole (result : Result) : Prop :=
  result.error = none ∨ result.offenses = [] ∧ result.scopes = 0

theorem isWhole_of_analyzeFile {root : FileTree} {choice : InputChoice} {file : String}
    {result : Result} (outcome : analyzeFile root choice file = .ok result) : result.IsWhole := by
  obtain ⟨-, judged, spoiled⟩ := analyzeFile_eq_ok outcome
  by_cases isJudged : IsJudged root choice (.ofString file)
  · exact .inl (judged isJudged)
  · obtain ⟨error, rfl⟩ := spoiled isJudged
    exact .inr ⟨rfl, rfl⟩

/-- The number of offenses in some results. -/
def offenseCount (results : List Result) : Nat :=
  total (fun result => result.offenses.length) results

theorem length_flatMap_offenses {Image : Type} (image : Result → Offense → Image)
    (results : List Result) :
    (results.flatMap fun result => result.offenses.map (image result)).length =
      offenseCount results := by
  induction results with
  | nil => rfl
  | cons result results ih =>
    rw [List.flatMap_cons, List.length_append, List.length_map, ih]
    rfl

theorem length_tableRows (results : List Result) :
    (tableRows results).length = offenseCount results :=
  length_flatMap_offenses _ results

theorem length_offenseLines (results : List Result) :
    (offenseLines results).length = offenseCount results :=
  length_flatMap_offenses _ results

namespace Summary

/-- Files with errors have none of the offenses. -/
theorem ofResults_offenses {results : List Result} (whole : ∀ result ∈ results, result.IsWhole) :
    (ofResults results).offenses = offenseCount results := by
  show total _ (results.filter _) = _
  induction results with
  | nil => rfl
  | cons result results ih =>
    obtain ⟨here, later⟩ := List.forall_mem_cons.mp whole
    rw [List.filter_cons]
    split
    · rw [total_cons, ih later]
      rfl
    · rename_i error
      have none : result.offenses = [] := (here.resolve_left (by simpa using error)).1
      rw [ih later, offenseCount, offenseCount, total_cons, none]
      simp

theorem ofResults_failed (results : List Result) :
    (ofResults results).failed = (fileErrors results).length := by
  have split : (results.filter fun result => result.error.isNone).length +
      (fileErrors results).length = results.length := by
    induction results with
    | nil => rfl
    | cons result results ih =>
      cases error : result.error <;> simp [fileErrors, error] at ih ⊢ <;> omega
  show results.length - _ = _
  omega

theorem ofResults_analyzed (results : List Result) :
    (ofResults results).analyzed + (ofResults results).failed = results.length :=
  Nat.add_sub_of_le (List.length_filter_le _ results)

end Summary

/-! ### Runs -/

namespace CommandLine

theorem any_error_iff (results : List Result) :
    (results.any fun result => result.error.isSome) = true ↔ fileErrors results ≠ [] := by
  rw [ne_eq, fileErrors, List.filterMap_eq_nil_iff]
  simp [Option.isSome_iff_ne_none]

/-- Any error makes a run fail. -/
theorem ofResults_eq_failed_iff {results : List Result} :
    Status.ofResults results = .failed ↔ fileErrors results ≠ [] := by
  rw [← any_error_iff, Status.ofResults]
  split
  · next some => exact iff_of_true rfl some
  · next none => split <;> exact iff_of_false (by decide) none

/-- **The exit code is told by the numbers of errors and of offenses.** -/
theorem ofResults_code (results : List Result) : (Status.ofResults results).code =
    if 0 < (fileErrors results).length then 2 else if 0 < offenseCount results then 1 else 0 := by
  have offends : (results.any fun result => !result.offenses.isEmpty) = true ↔
      tableRows results ≠ [] := by
    rw [ne_eq, tableRows, List.flatMap_eq_nil_iff]
    simp
  rw [← length_tableRows]
  simp only [List.length_pos_iff, ← any_error_iff, ← offends]
  rw [Status.ofResults]
  split_ifs <;> rfl

variable {root : FileTree} {options : Options} {outcome : Outcome} {found : List Result}

/-- A run goes through if its targets exist, its files have results and its report can be made. -/
theorem runWith_eq {lines : List String} (looked : missingTargets root options.targets = .ok [])
    (goes : results root options = .ok found) (shows : options.format.lines found = .ok lines) :
    runWith root options = .ok { status := .ofResults found, lines } :=
  bind_eq_ok_iff.mpr ⟨[], mapError_eq_ok_iff.mpr looked, bind_eq_ok_iff.mpr ⟨found, goes,
    bind_eq_ok_iff.mpr ⟨lines, mapError_eq_ok_iff.mpr shows, rfl⟩⟩⟩

/-- The form of the report makes no difference to what is found. -/
theorem runWith_format {format : ReportForm} {lines : List String}
    (all : ¬ Misses root options.targets) (ran : runWith root options = .ok outcome)
    (goes : results root options = .ok found) (shows : format.lines found = .ok lines) :
    runWith root { options with format } = .ok { status := .ofResults found, lines } := by
  obtain ⟨missing, looked, -⟩ := bind_eq_ok_iff.mp ran
  replace looked := mapError_eq_ok_iff.mp looked
  obtain rfl := (missingTargets_eq_nil looked).mpr all
  exact runWith_eq looked goes shows

/-- **Lists, numbers and exit code of a run agree.** Each result is without an error, or with nothing
but an error. The numbers of files with and without an error come to the number of files, the number of
offenses is that of the rows of the table and that of the lines that a plain report has for them, and the
table is there if this number is not zero. The exit code is told by the numbers of errors and offenses. -/
theorem run_counts_agree {arguments : List String} (asked : Options.parse arguments = .ok options)
    (all : ¬ Misses root options.targets) (ran : run root arguments = .ok outcome) :
    ∃ paths found, collect root options.targets = .ok paths ∧
      List.Forall₂ (fun path result =>
        analyzeFile root options.input path.toString = .ok result ∧ result.IsWhole) paths found ∧
      ∃ analyzed failed offenses, analyzed + failed = paths.length ∧
        failed = (fileErrors found).length ∧ offenses = (tableRows found).length ∧
        outcome.status.code = (if 0 < failed then 2 else if 0 < offenses then 1 else 0) ∧
        (options.format = .table → Tally outcome.lines analyzed failed offenses ∧
          (drawnRows (tableRows found) ≠ [] ↔ 0 < offenses) ∧
          ∃ errors summary plain, outcome.lines =
              errors ++ (drawnRows (tableRows found)).map String.ofList ++ summary ∧
            runWith root { options with format := .plain } = .ok plain ∧
            plain.status = outcome.status ∧ plain.lines = errors ++ offenseLines found ∧
            (offenseLines found).length = offenses) := by
  rw [run, asked] at ran
  obtain ⟨misses, -⟩ | ⟨-, found, goes, status, shows⟩ := cases_of_runWith ran
  · exact absurd misses all
  obtain ⟨paths, collected, each⟩ := exists_of_results goes
  have wholes : List.Forall₂ (fun path result =>
      analyzeFile root options.input path.toString = .ok result ∧ result.IsWhole) paths found :=
    each.imp fun _ _ analyzed => ⟨analyzed, isWhole_of_analyzeFile analyzed⟩
  have whole : ∀ result ∈ found, result.IsWhole := by
    intro result mem
    obtain ⟨path, -, analyzed⟩ := (mem_outcomes_iff each result).mp mem
    exact isWhole_of_analyzeFile analyzed
  refine ⟨paths, found, collected, wholes, (Summary.ofResults found).analyzed,
    (Summary.ofResults found).failed, (Summary.ofResults found).offenses, ?_,
    Summary.ofResults_failed found, ?_, ?_, fun table => ?_⟩
  · rw [Summary.ofResults_analyzed, each.length_eq]
  · rw [Summary.ofResults_offenses whole, length_tableRows]
  · rw [status, ofResults_code, Summary.ofResults_failed, Summary.ofResults_offenses whole]
  · rw [table] at shows
    obtain ⟨errors, errorsShown, -, lines⟩ := tableReport_eq_ok_iff.mp shows
    have plainly : ReportForm.plain.lines found = .ok (errors ++ offenseLines found) :=
      plainReport_eq_ok_iff.mpr ⟨errors, errorsShown, rfl⟩
    refine ⟨tally_of_tableReport shows, ?_, errors, _, _, lines.symm,
      runWith_format all ran goes plainly, status.symm, rfl, ?_⟩
    · rw [Summary.ofResults_offenses whole, ← length_tableRows, List.length_pos_iff, ne_eq,
        drawnRows_eq_nil_iff]
    · rw [Summary.ofResults_offenses whole, length_offenseLines]

/-- Of the two files one has an offense and the other an error, so that the run fails. -/
theorem run_counts_agree_twoFiles :
    ∃ outcome analyzed failed offenses, run twoFiles ["a.rb", "b.rb"] = .ok outcome ∧
      Tally outcome.lines analyzed failed offenses ∧ analyzed + failed = 2 ∧ 0 < failed ∧
      outcome.status.code = 2 := by
  have targets : Options.parse ["a.rb", "b.rb"] =
      .ok { targets := [.ofString "a.rb", .ofString "b.rb"] } := rfl
  have all : ¬ Misses twoFiles [.ofString "a.rb", .ofString "b.rb"] := by
    unfold Misses
    decide +kernel
  have fails : (run twoFiles ["a.rb", "b.rb"]).map Outcome.status = .ok .failed := by
    decide +kernel
  obtain ⟨outcome, ran, status⟩ := map_eq_ok_iff.mp fails
  obtain ⟨paths, found, collected, -, analyzed, failed, offenses, sum, -, -, code, table⟩ :=
    run_counts_agree targets all ran
  obtain rfl : [.ofString "a.rb", .ofString "b.rb"] = paths := Except.ok.inj collected
  have two : outcome.status.code = 2 := by rw [status]; rfl
  refine ⟨outcome, analyzed, failed, offenses, ran, (table rfl).1, sum, ?_, two⟩
  by_contra none
  rw [two, if_neg none] at code
  split at code <;> cases code

end CommandLine

end LetShadow
