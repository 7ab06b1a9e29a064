/-
**Runs on targets side by side.**

A run on some targets followed by others says what the two runs say by themselves. Nothing is kept from
one file to the next, and what is wrong with one file does not hide what is found in another.

* `AreSettings` — the arguments in front of targets and behind them that set options.
* `parse_of_settings` — **between settings the targets are as they are given,** and the options do not
  depend on them.
* `Fails`, `Offends` — what a run may come to; its exit code tells no more (`code_of_runWith`).
* `run_targets_append` — **the exit code of a run on both is the greater of the two,** and a plain report
  has the lines of the one and then those of the other, first for the errors and then for the offenses.
-/

import LetShadow.CommandLine.Run
import LetShadow.Proofs.Files.Outcome
import LetShadow.Proofs.Report.Plain
import LetShadow.Proofs.Ruby.Spellings

namespace LetShadow.CommandLine

/-! ### Arguments that set options -/

/-- Words that set options, from some options to others. They add no target. -/
inductive Sets : Options → List Word → Options → Prop
  | nothing (options : Options) : Sets options [] options
  | debug {options last : Options} {words : List Word}
      (later : Sets { options with debug := true } words last) : Sets options (.debug :: words) last
  | format {options last : Options} {words : List Word} {value : String} {format : ReportForm}
      (means : ReportForm.ofString? value = some format)
      (later : Sets { options with format } words last) :
      Sets options (.format (some value) :: words) last
  | formatApart {options last : Options} {words : List Word} {value : String} {format : ReportForm}
      (means : ReportForm.ofString? value = some format)
      (later : Sets { options with format } words last) :
      Sets options (.format none :: .target value :: words) last
  | input {options last : Options} {words : List Word} {value : String} {input : InputChoice}
      (means : inputOfString? value = some input) (later : Sets { options with input } words last) :
      Sets options (.input (some value) :: words) last
  | inputApart {options last : Options} {words : List Word} {value : String} {input : InputChoice}
      (means : inputOfString? value = some input) (later : Sets { options with input } words last) :
      Sets options (.input none :: .target value :: words) last

/-- Arguments in front of targets and behind them that set options. -/
inductive AreSettings (before after : List String) (options : Options) : Prop
  | intro {first second : List Word} {middle : Options} (readsBefore : readWords before = some first)
      (readsAfter : readWords after = some second) (setsBefore : Sets {} first middle)
      (setsAfter : Sets middle second options)

theorem Sets.no_separator {options last : Options} {words : List Word}
    (sets : Sets options words last) : .separator ∉ words := by
  induction sets with
  | nothing => nofun
  | _ => simpa

/-- Settings take effect whatever the targets are. They may end the row of targets, if there are any. -/
theorem Sets.read {options last : Options} {words : List Word} (sets : Sets options words last)
    (targets : List Path) (closed surplus : Bool) (rest : List Word) :
    ∃ closed', (targets = [] → closed = false → closed' = false) ∧
      Reading.read ⟨{ options with targets }, closed, surplus⟩ (words ++ rest) =
        Reading.read ⟨{ last with targets }, closed', surplus⟩ rest := by
  induction sets generalizing closed with
  | nothing options => exact ⟨closed, fun _ same => same, rfl⟩
  | debug later ih =>
    obtain ⟨closed', stays, same⟩ := ih (!targets.isEmpty)
    exact ⟨closed', fun none _ => stays none (by simp [none]), same⟩
  | format means later ih | formatApart means later ih =>
    obtain ⟨closed', stays, same⟩ := ih (!targets.isEmpty)
    refine ⟨closed', fun none _ => stays none (by simp [none]), Eq.trans ?_ same⟩
    simp only [List.cons_append, Reading.read, Reading.setFormat, means]
    rfl
  | input means later ih | inputApart means later ih =>
    obtain ⟨closed', stays, same⟩ := ih (!targets.isEmpty)
    refine ⟨closed', fun none _ => stays none (by simp [none]), Eq.trans ?_ same⟩
    simp only [List.cons_append, Reading.read, Reading.setInput, means]
    rfl

theorem read_targets (options : Options) (texts : List String) (rest : List Word) :
    Reading.read ⟨options, false, false⟩ (texts.map .target ++ rest) =
      Reading.read
        ⟨{ options with targets := options.targets ++ texts.map Path.ofString }, false, false⟩
        rest := by
  induction texts generalizing options with
  | nil => simp
  | cons text texts ih =>
    rw [List.map_cons, List.cons_append, Reading.read]
    show Reading.read ⟨{ options with targets := options.targets ++ [_] }, false, false⟩ _ = _
    rw [ih, List.map_cons, List.append_assoc]
    rfl

/-- Arguments without a separator are read by themselves. -/
theorem readWords_append {first : List String} {words : List Word}
    (reads : readWords first = some words) (noSeparator : .separator ∉ words)
    (second : List String) :
    readWords (first ++ second) = (readWords second).map (words ++ ·) := by
  induction first generalizing words with
  | nil =>
    cases reads
    simp
  | cons argument rest ih =>
    rw [readWords] at reads
    split at reads
    · cases reads
      exact absurd List.mem_cons_self noSeparator
    · rename_i noDashes
      obtain ⟨word, ofArgument, goOn⟩ := Option.bind_eq_some_iff.mp reads
      obtain ⟨words, ofRest, same⟩ := Option.bind_eq_some_iff.mp goOn
      cases same
      have later := ih ofRest fun mem => noSeparator (List.mem_cons_of_mem _ mem)
      rw [List.cons_append, readWords, if_neg noDashes, ofArgument, later]
      cases readWords second <;> rfl

/-- Arguments that begin with no dash are targets. -/
theorem readWords_targets {texts : List String}
    (plain : ∀ text ∈ texts, text.toList.head? ≠ some '-') :
    readWords texts = some (texts.map .target) := by
  induction texts with
  | nil => rfl
  | cons text texts ih =>
    obtain ⟨here, later⟩ := List.forall_mem_cons.mp plain
    have noDashes : text ≠ "--" := by
      rintro rfl
      exact here rfl
    have isTarget : readWord text.toList = some (.target text) := by
      unfold readWord
      split
      · rename_i begins
        exact absurd (by rw [begins]; rfl) here
      · rename_i begins
        exact absurd (by rw [begins]; rfl) here
      · rename_i begins
        exact absurd (by rw [begins]; rfl) here
      · rw [String.ofList_toList]
    rw [readWords, if_neg noDashes, isTarget, ih later]
    rfl

/-- Options for the targets that texts name. -/
def Options.on (options : Options) (targets : List String) : Options :=
  { options with targets := targets.map Path.ofString }

/-- **Between settings targets are as they are given.** -/
theorem parse_of_settings {before after targets : List String} {options : Options}
    (settings : AreSettings before after options) (some : targets ≠ [])
    (plain : ∀ target ∈ targets, target.toList.head? ≠ Option.some '-') :
    Options.parse (before ++ (targets ++ after)) = .ok (options.on targets) := by
  obtain @⟨first, second, middle, readsBefore, readsAfter, setsBefore, setsAfter⟩ := settings
  have noSeparator : .separator ∉ targets.map Word.target := by simp
  have words : readWords (before ++ (targets ++ after)) =
      Option.some (first ++ (targets.map .target ++ second)) := by
    rw [readWords_append readsBefore setsBefore.no_separator,
      readWords_append (readWords_targets plain) noSeparator, readsAfter]
    rfl
  obtain ⟨closed, stays, front⟩ := setsBefore.read [] false false (targets.map .target ++ second)
  obtain rfl := stays rfl rfl
  have row := read_targets { middle with targets := [] } targets second
  obtain ⟨closed, -, back⟩ := setsAfter.read (targets.map Path.ofString) false false []
  rw [List.append_nil] at back
  have reading : Reading.read {} (first ++ (targets.map .target ++ second)) =
      .ok ⟨options.on targets, closed, false⟩ :=
    front.trans (row.trans back)
  rw [Options.parse, words]
  show (Reading.read {} _ >>= _) = _
  rw [reading]
  exact if_neg (by simpa [Options.on] using some)

theorem run_of_settings {root : FileTree} {before after targets : List String} {options : Options}
    (settings : AreSettings before after options) (some : targets ≠ [])
    (plain : ∀ target ∈ targets, target.toList.head? ≠ Option.some '-') :
    run root (before ++ (targets ++ after)) = runWith root (options.on targets) := by
  rw [run, parse_of_settings settings some plain]

/-! ### What runs come to -/

section

variable {root : FileTree}

/-- Some target does not exist. -/
def Misses (root : FileTree) (targets : List Path) : Prop :=
  ∃ target ∈ targets, root.holds target = .ok false

/-- The result for a file that the targets stand for. -/
def Finds (root : FileTree) (options : Options) (result : Result) : Prop :=
  ∃ target ∈ options.targets, ∃ paths, expand root target = .ok paths ∧
    ∃ path ∈ paths, analyzeFile root options.input path.toString = .ok result

/-- Some target is missing, or some file has an error. -/
def Fails (root : FileTree) (options : Options) : Prop :=
  Misses root options.targets ∨ ∃ result, Finds root options result ∧ result.error ≠ none

/-- Some file has an offense. -/
def Offends (root : FileTree) (options : Options) : Prop :=
  ∃ result, Finds root options result ∧ result.offenses ≠ []

open Classical in
/-- The exit code for what fails and for what offends: two if something fails, else one if something
offends, else zero. -/
noncomputable def codeFor (fails offends : Prop) : Nat :=
  if fails then 2 else if offends then 1 else 0

/-- The exit code for both of two cases is the greater of their codes. -/
theorem codeFor_or (fails failsToo offends offendsToo : Prop) :
    codeFor (fails ∨ failsToo) (offends ∨ offendsToo) =
      max (codeFor fails offends) (codeFor failsToo offendsToo) := by
  unfold codeFor
  by_cases fails
  · by_cases failsToo <;> by_cases offendsToo <;> simp [*]
  · by_cases failsToo <;> by_cases offends <;> by_cases offendsToo <;> simp [*]

theorem mem_filterAuxM {Item Error : Type} {test : Item → Except Error Bool}
    {items kept found : List Item} (goes : items.filterAuxM test kept = .ok found) (item : Item) :
    item ∈ found ↔ item ∈ kept ∨ item ∈ items ∧ test item = .ok true := by
  induction items generalizing kept with
  | nil =>
    cases goes
    simp
  | cons first rest ih =>
    rw [List.filterAuxM] at goes
    obtain ⟨verdict, judged, goOn⟩ := bind_eq_ok_iff.mp goes
    rw [ih goOn, List.mem_cons]
    cases verdict with
    | true =>
      rw [cond_true, List.mem_cons]
      constructor
      · rintro ((rfl | before) | ⟨mem, holds⟩)
        · exact .inr ⟨.inl rfl, judged⟩
        · exact .inl before
        · exact .inr ⟨.inr mem, holds⟩
      · rintro (before | ⟨rfl | mem, holds⟩)
        · exact .inl (.inr before)
        · exact .inl (.inl rfl)
        · exact .inr ⟨mem, holds⟩
    | false =>
      rw [cond_false]
      constructor
      · rintro (before | ⟨mem, holds⟩)
        · exact .inl before
        · exact .inr ⟨.inr mem, holds⟩
      · rintro (before | ⟨rfl | mem, holds⟩)
        · exact .inl before
        · cases judged.symm.trans holds
        · exact .inr ⟨mem, holds⟩

/-- The targets that are missing, if all can be looked up. -/
theorem mem_missingTargets {targets missing : List Path}
    (goes : missingTargets root targets = .ok missing) (target : Path) :
    target ∈ missing ↔ target ∈ targets ∧ root.holds target = .ok false := by
  rw [missingTargets, List.filterM] at goes
  obtain ⟨reversed, found, same⟩ := bind_eq_ok_iff.mp goes
  cases same
  rw [List.mem_reverse, mem_filterAuxM found]
  have looked : (do return !(← root.holds target) : Except LongPath Bool) = .ok true ↔
      root.holds target = .ok false := by
    cases root.holds target with
    | error long => exact ⟨nofun, nofun⟩
    | ok there =>
      cases there with
      | true => exact ⟨nofun, nofun⟩
      | false => exact ⟨fun _ => rfl, fun _ => rfl⟩
  rw [looked]
  simp

theorem missingTargets_eq_nil {targets missing : List Path}
    (goes : missingTargets root targets = .ok missing) : missing = [] ↔ ¬ Misses root targets := by
  rw [List.eq_nil_iff_forall_not_mem]
  simp only [mem_missingTargets goes, Misses, not_exists]

theorem collect_eq_ok_iff {targets paths : List Path} :
    collect root targets = .ok paths ↔ ∃ groups,
      List.Forall₂ (fun target group => expand root target = .ok group) targets groups ∧
        groups.flatten = paths := by
  rw [collect, bind_eq_ok_iff]
  simp only [mapM_eq_ok_iff]
  exact exists_congr fun groups => and_congr_right fun _ =>
    ⟨fun same => Except.ok.inj same, fun same => congrArg Except.ok same⟩

theorem exists_of_results {options : Options} {found : List Result}
    (goes : results root options = .ok found) : ∃ paths, collect root options.targets = .ok paths ∧
      List.Forall₂ (fun path result => analyzeFile root options.input path.toString = .ok result)
        paths found := by
  obtain ⟨paths, collected, -⟩ := bind_eq_ok_iff.mp goes
  replace collected := mapError_eq_ok_iff.mp collected
  exact ⟨paths, collected, (results_eq_ok_iff collected).mp goes⟩

/-- **The results are those of the files that the targets stand for.** -/
theorem mem_results {options : Options} {found : List Result}
    (goes : results root options = .ok found) (result : Result) :
    result ∈ found ↔ Finds root options result := by
  obtain ⟨paths, collected, each⟩ := exists_of_results goes
  obtain ⟨groups, expanded, rfl⟩ := collect_eq_ok_iff.mp collected
  rw [mem_outcomes_iff each, Finds]
  simp only [List.mem_flatten, mem_outcomes_iff expanded]
  constructor
  · rintro ⟨path, ⟨group, ⟨target, mem, expands⟩, inGroup⟩, judged⟩
    exact ⟨target, mem, group, expands, path, inGroup, judged⟩
  · rintro ⟨target, mem, group, expands, path, inGroup, judged⟩
    exact ⟨path, ⟨group, ⟨target, mem, expands⟩, inGroup⟩, judged⟩

/-- **A run ends at the missing targets,** or tells the results of all files. -/
theorem cases_of_runWith {options : Options} {outcome : Outcome}
    (ran : runWith root options = .ok outcome) :
    (Misses root options.targets ∧ outcome.status = .failed) ∨
      ¬ Misses root options.targets ∧ ∃ found, results root options = .ok found ∧
        outcome.status = .ofResults found ∧ options.format.lines found = .ok outcome.lines := by
  obtain ⟨missing, looked, goOn⟩ := bind_eq_ok_iff.mp ran
  have none := missingTargets_eq_nil (mapError_eq_ok_iff.mp looked)
  cases missing with
  | nil =>
    obtain ⟨found, goes, goOn⟩ := bind_eq_ok_iff.mp goOn
    obtain ⟨lines, shows, same⟩ := bind_eq_ok_iff.mp goOn
    cases same
    exact .inr ⟨none.mp rfl, found, goes, rfl, mapError_eq_ok_iff.mp shows⟩
  | cons target others =>
    obtain ⟨lines, -, same⟩ := bind_eq_ok_iff.mp goOn
    cases same
    have misses : Misses root options.targets := by_contra fun all => by cases none.mpr all
    exact .inl ⟨misses, rfl⟩

/-- **A run ends with the exit code for what fails and offends.** -/
theorem code_of_runWith {options : Options} {outcome : Outcome}
    (ran : runWith root options = .ok outcome) :
    outcome.status.code = codeFor (Fails root options) (Offends root options) := by
  unfold codeFor
  rcases cases_of_runWith ran with ⟨misses, failed⟩ | ⟨all, found, goes, status, -⟩
  · rw [if_pos (.inl misses), failed]
    rfl
  · have fails : (found.any fun result => result.error.isSome) = true ↔ Fails root options := by
      simp [Fails, all, ← mem_results goes, Option.isSome_iff_ne_none]
    have offends : (found.any fun result => !result.offenses.isEmpty) = true ↔
        Offends root options := by
      simp [Offends, ← mem_results goes]
    simp only [← fails, ← offends]
    rw [status, Status.ofResults]
    split_ifs <;> rfl

/-! ### Runs on targets side by side -/

theorem misses_append {first second : List Path} :
    Misses root (first ++ second) ↔ Misses root first ∨ Misses root second := by
  simp only [Misses, List.mem_append, or_and_right, exists_or]

variable {options : Options} {first second : List Path}

theorem finds_append {result : Result} :
    Finds root { options with targets := first ++ second } result ↔
      Finds root { options with targets := first } result ∨
        Finds root { options with targets := second } result := by
  simp only [Finds, List.mem_append, or_and_right, exists_or]

theorem fails_append :
    Fails root { options with targets := first ++ second } ↔
      Fails root { options with targets := first } ∨
        Fails root { options with targets := second } := by
  simp only [Fails, misses_append, finds_append, or_and_right, exists_or]
  exact or_or_or_comm

theorem offends_append :
    Offends root { options with targets := first ++ second } ↔
      Offends root { options with targets := first } ∨
        Offends root { options with targets := second } := by
  simp only [Offends, finds_append, or_and_right, exists_or]

theorem results_append {found foundToo : List Result}
    (here : results root { options with targets := first } = .ok found)
    (there : results root { options with targets := second } = .ok foundToo) :
    results root { options with targets := first ++ second } = .ok (found ++ foundToo) := by
  obtain ⟨paths, collected, each⟩ := exists_of_results here
  obtain ⟨others, collectedToo, eachToo⟩ := exists_of_results there
  obtain ⟨groups, expanded, rfl⟩ := collect_eq_ok_iff.mp collected
  obtain ⟨groupsToo, expandedToo, rfl⟩ := collect_eq_ok_iff.mp collectedToo
  have both : collect root (first ++ second) = .ok (groups.flatten ++ groupsToo.flatten) :=
    collect_eq_ok_iff.mpr ⟨groups ++ groupsToo, List.rel_append expanded expandedToo,
      List.flatten_append⟩
  exact (results_eq_ok_iff both).mpr (List.rel_append each eachToo)

/-- A plain report of all files has their errors and then their offenses. -/
theorem plain_of_runWith {outcome : Outcome} (plain : options.format = .plain)
    (all : ¬ Misses root options.targets) (ran : runWith root options = .ok outcome) :
    ∃ found errors, results root options = .ok found ∧ errorLines found = .ok errors ∧
      outcome.lines = errors ++ offenseLines found := by
  rcases cases_of_runWith ran with ⟨misses, -⟩ | ⟨-, found, goes, -, shows⟩
  · exact absurd misses all
  · rw [plain] at shows
    obtain ⟨errors, shown, same⟩ := plainReport_eq_ok_iff.mp shows
    exact ⟨found, errors, goes, shown, same.symm⟩

end

/-- **Runs compose.** The exit code for targets side by side is the greater of those for either part:
two if a target is missing or a file fails, else one if a file has an offense, else zero. If no target
is missing, a plain report has the errors of the first part, those of the second, the offenses of the
first, and those of the second. -/
theorem run_targets_append {root : FileTree} {before after first second : List String}
    {options : Options} (settings : AreSettings before after options)
    (someFirst : first ≠ []) (someSecond : second ≠ [])
    (plain : ∀ target ∈ first ++ second, target.toList.head? ≠ some '-')
    {one other both : Outcome} (ranFirst : run root (before ++ (first ++ after)) = .ok one)
    (ranSecond : run root (before ++ (second ++ after)) = .ok other)
    (ranBoth : run root (before ++ (first ++ second ++ after)) = .ok both) :
    both.status.code = max one.status.code other.status.code ∧
      both.status.code =
        codeFor (Fails root (options.on (first ++ second)))
          (Offends root (options.on (first ++ second))) ∧
      (options.format = .plain → ¬ Misses root (options.on (first ++ second)).targets →
        ∃ found foundToo errors errorsToo,
          results root (options.on first) = .ok found ∧
          results root (options.on second) = .ok foundToo ∧
          results root (options.on (first ++ second)) = .ok (found ++ foundToo) ∧
          errorLines found = .ok errors ∧ errorLines foundToo = .ok errorsToo ∧
          one.lines = errors ++ offenseLines found ∧
          other.lines = errorsToo ++ offenseLines foundToo ∧
          both.lines =
            (errors ++ errorsToo) ++ (offenseLines found ++ offenseLines foundToo)) := by
  obtain ⟨plainFirst, plainSecond⟩ := List.forall_mem_append.mp plain
  have someBoth : first ++ second ≠ [] := fun none => someFirst (List.append_eq_nil_iff.mp none).1
  rw [run_of_settings settings someFirst plainFirst] at ranFirst
  rw [run_of_settings settings someSecond plainSecond] at ranSecond
  rw [run_of_settings settings someBoth plain] at ranBoth
  have together : options.on (first ++ second) =
      { options with targets := first.map Path.ofString ++ second.map Path.ofString } := by
    rw [Options.on, List.map_append]
  refine ⟨?_, code_of_runWith ranBoth, fun isPlain all => ?_⟩
  · rw [code_of_runWith ranFirst, code_of_runWith ranSecond, code_of_runWith ranBoth, together,
      ← codeFor_or, fails_append, offends_append]
    rfl
  · have apart := not_or.mp fun misses => all (together ▸ misses_append.mpr misses)
    have isPlainOn : ∀ targets, (options.on targets).format = .plain := fun _ => isPlain
    obtain ⟨found, errors, goes, shown, lines⟩ :=
      plain_of_runWith (isPlainOn first) apart.1 ranFirst
    obtain ⟨foundToo, errorsToo, goesToo, shownToo, linesToo⟩ :=
      plain_of_runWith (isPlainOn second) apart.2 ranSecond
    obtain ⟨foundBoth, errorsBoth, goesBoth, shownBoth, linesBoth⟩ :=
      plain_of_runWith (isPlainOn (first ++ second)) all ranBoth
    have found_eq : results root (options.on (first ++ second)) = .ok (found ++ foundToo) :=
      together ▸ results_append goes goesToo
    obtain rfl := Except.ok.inj (found_eq.symm.trans goesBoth)
    obtain rfl := Except.ok.inj ((errorLines_append shown shownToo).symm.trans shownBoth)
    refine ⟨found, foundToo, errors, errorsToo, goes, goesToo, goesBoth, shown, shownToo, lines,
      linesToo, ?_⟩
    rw [linesBoth, offenseLines, List.flatMap_append, offenseLines, offenseLines]

/-- A file with an offense, and one that is no text. -/
def twoFiles : FileTree :=
  .directory
    [ ("a.rb", .file { bytes := [], ruby := some Ruby.spelledTwice }),
      ("b.rb", .file { bytes := [0xFF], ruby := none }) ]

/-- The file that is no text does not hide the offense. -/
theorem run_targets_append_twoFiles :
    ∃ one other both, run twoFiles ["--format", "plain", "a.rb"] = .ok one ∧
      run twoFiles ["--format", "plain", "b.rb"] = .ok other ∧
      run twoFiles ["--format", "plain", "a.rb", "b.rb"] = .ok both ∧
      one.status = .offending ∧ other.status = .failed ∧
      both.status.code = max one.status.code other.status.code ∧
      ∃ found foundToo errors errorsToo,
        one.lines = errors ++ offenseLines found ∧
        other.lines = errorsToo ++ offenseLines foundToo ∧
        both.lines = (errors ++ errorsToo) ++ (offenseLines found ++ offenseLines foundToo) := by
  have settings : AreSettings ["--format", "plain"] [] { format := .plain } :=
    .intro rfl rfl (.formatApart rfl (.nothing _)) (.nothing _)
  have first : (run twoFiles ["--format", "plain", "a.rb"]).map Outcome.status = .ok .offending := by
    decide +kernel
  have second : (run twoFiles ["--format", "plain", "b.rb"]).map Outcome.status = .ok .failed := by
    decide +kernel
  have together :
      (run twoFiles ["--format", "plain", "a.rb", "b.rb"]).map Outcome.status = .ok .failed := by
    decide +kernel
  have all : ¬ Misses twoFiles (["a.rb", "b.rb"].map Path.ofString) := by
    unfold Misses
    decide +kernel
  obtain ⟨one, ranFirst, offends⟩ := map_eq_ok_iff.mp first
  obtain ⟨other, ranSecond, fails⟩ := map_eq_ok_iff.mp second
  obtain ⟨both, ranBoth, -⟩ := map_eq_ok_iff.mp together
  obtain ⟨code, -, composed⟩ := run_targets_append settings (List.cons_ne_nil "a.rb" [])
    (List.cons_ne_nil "b.rb" []) (by decide) ranFirst ranSecond ranBoth
  obtain ⟨found, foundToo, errors, errorsToo, -, -, -, -, -, lines⟩ := composed rfl all
  exact ⟨one, other, both, ranFirst, ranSecond, ranBoth, offends, fails, code, found, foundToo,
    errors, errorsToo, lines⟩

end LetShadow.CommandLine
