/-
**Numbers read off a report.**

Behind the table a report has its summary, with numbers behind labels. Paths and errors stand in front
of it, and hold any text, but no line in front begins with a label: the line of an error begins with
words of its own, and that of a table with a bar or with the title.

* `prefix_errorLine` — how the line of an error begins, whatever is said in it.
* `numberAfter?` — **the number behind a label,** in the lines of a report.
* `tally_of_tableReport` — **a report with a table counts what its summary does,** read off its lines.
-/

import LetShadow.Proofs.Report.Table

namespace LetShadow

open Report

namespace Report

/-! ### How texts begin -/

/-- Characters that begin a tag or a code or make a tag plain text, are changed, or end a line. -/
def specialChars : List Char :=
  ['[', '\\', ':', '\n'] ++ changedChars

/-- A text without such characters. -/
def IsQuiet (text : List Char) : Prop :=
  ∀ char ∈ text, char ∉ specialChars

instance (text : List Char) : Decidable (IsQuiet text) :=
  decidable_of_iff _ (List.all_iff_forall_prop (p := fun char => char ∉ specialChars))

theorem IsQuiet.not_mem {text : List Char} (quiet : IsQuiet text) {char : Char}
    (special : char ∈ specialChars) : char ∉ text :=
  fun mem => quiet char mem special

theorem dropBracketSlashes_append {front : List Char} (noSlash : '\\' ∉ front) (rest : List Char) :
    dropBracketSlashes (front ++ rest) = front ++ dropBracketSlashes rest := by
  induction front with
  | nil => rfl
  | cons char front ih =>
    obtain ⟨other, noSlash⟩ := not_or.mp (List.mem_cons.not.mp noSlash)
    have step (text : List Char) : dropBracketSlashes (char :: text) = char :: dropBracketSlashes text := by
      cases text with
      | nil => rfl
      | cons second text => rw [dropBracketSlashes, if_neg fun both => other both.1.symm]
    rw [List.cons_append, step, ih noSlash, List.cons_append]

theorem showEmoji_append {front : List Char} (noColon : ':' ∉ front) (rest : List Char) :
    showEmoji (front ++ rest) = front ++ showEmoji rest := by
  induction front with
  | nil => rfl
  | cons char front ih =>
    obtain ⟨other, noColon⟩ := not_or.mp (List.mem_cons.not.mp noColon)
    rw [List.cons_append, showEmoji_cons (Ne.symm other), ih noColon, List.cons_append]

theorem IsQuiet.shownPlain_append {front : List Char} (quiet : IsQuiet front) (rest : List Char) :
    shownPlain (front ++ rest) = front ++ shownPlain rest := by
  have kept : dropControls front = front :=
    dropControls_eq_self fun char drops => quiet.not_mem (by simp [specialChars, changedChars, drops])
  rw [shownPlain, dropBracketSlashes_append (quiet.not_mem (by decide)),
    showEmoji_append (quiet.not_mem (by decide)), dropControls, List.filter_append, ← dropControls, kept]
  rfl

theorem prefix_dropSlashes {front plain : List Char} (noSlash : '\\' ∉ front)
    (begins : front <+: plain.reverse) : front <+: (plain.dropWhile (· = '\\')).reverse := by
  obtain ⟨more, same⟩ := begins
  have kept : front.reverse.dropWhile (· = '\\') = front.reverse :=
    List.dropWhile_eq_self_iff.mpr fun _ slash =>
      noSlash (List.mem_reverse.mp (of_decide_eq_true slash ▸ List.getElem_mem _))
  rw [← List.reverse_reverse plain, ← same, List.reverse_append, List.dropWhile_append]
  split
  · rw [kept, List.reverse_reverse]
  · rw [List.reverse_append, List.reverse_reverse]
    exact List.prefix_append _ _

/-- What has been read of a text before a tag is found is shown first. -/
theorem IsQuiet.prefix_shown {front plain : List Char} (quiet : IsQuiet front)
    (begins : front <+: plain.reverse) (text : List Char) :
    front <+: (cutFrom plain text).1.flatMap Tagged.shown ++ shownPlain (cutFrom plain text).2 := by
  induction plain, text using tags_induction with
  | nil plain =>
    obtain ⟨more, same⟩ := begins
    rw [cutFrom, ← same, quiet.shownPlain_append]
    exact ⟨_, rfl⟩
  | tag plain rest name after found _ =>
    rw [cutFrom_tag found]
    obtain ⟨more, before⟩ := prefix_dropSlashes (quiet.not_mem (by decide)) begins
    rw [List.flatMap_cons, Tagged.shown, ← before, quiet.shownPlain_append]
    simp only [List.append_assoc]
    exact List.prefix_append _ _
  | plain plain char rest noTag ih =>
    rw [cutFrom_plain noTag]
    exact ih (begins.trans (List.reverse_cons ▸ List.prefix_append _ _))

theorem IsQuiet.prefix_shownText {front : List Char} (quiet : IsQuiet front) (rest : List Char) :
    front <+: shownText (front ++ rest) := by
  have begins : front <+: (front.reverse ++ []).reverse := by simp
  have shows := quiet.prefix_shown begins rest
  rw [← cutFrom_append (quiet.not_mem (by decide))] at shows
  exact shows

theorem shownText_red (text : List Char) :
    shownText (red text) = shownText (text ++ "[/red]".toList) := by
  have nothing : Tagged.shown ⟨[], 0, "red".toList⟩ = [] := by
    simp [Tagged.shown, Tagged.isPlain, shownPlain, dropBracketSlashes, showEmoji, dropControls]
  rw [shownText_eq, shownText_eq, cut_red_opening, List.flatMap_cons, nothing, List.nil_append]

theorem prefix_expandTabsFrom (column : Nat) (part text : List Char) :
    part.reverse <+: expandTabsFrom column part text := by
  induction text generalizing column part with
  | nil => exact List.prefix_refl _
  | cons char rest ih =>
    rw [expandTabsFrom]
    split
    · exact List.prefix_append _ _
    · split
      · simp only [List.append_assoc]
        exact List.prefix_append _ _
      · exact (List.reverse_cons ▸ List.prefix_append _ _ : part.reverse <+: (char :: part).reverse).trans
          (ih column _)

theorem IsQuiet.prefix_expandTabs {front text : List Char} (quiet : IsQuiet front)
    (begins : front <+: text) : front <+: expandTabs text := by
  obtain ⟨rest, rfl⟩ := begins
  have passed (column : Nat) (part : List Char) : expandTabsFrom column part (front ++ rest) =
      expandTabsFrom column (front.reverse ++ part) rest := by
    induction front generalizing part with
    | nil => rfl
    | cons char front ih =>
      obtain ⟨here, quiet⟩ := List.forall_mem_cons.mp quiet
      have apart : char ≠ '\n' ∧ char ≠ '\t' :=
        ⟨fun same => here (same ▸ by decide), fun same => here (same ▸ by decide)⟩
      rw [List.cons_append, expandTabsFrom, if_neg apart.1, if_neg apart.2, ih quiet]
      simp
  have shows := prefix_expandTabsFrom 0 (front.reverse ++ []) rest
  rw [expandTabs, passed]
  simpa using shows

end Report

/-- **The line of an error begins with words of its own.** -/
theorem prefix_errorLine {file error line : String} (shows : errorLine file error = .ok line) :
    "Error analyzing ".toList <+: line.toList := by
  obtain ⟨text, showsText, same⟩ := bind_eq_ok_iff.mp shows
  obtain rfl := Except.ok.inj same
  have quiet : IsQuiet "Error analyzing ".toList := by decide
  rw [String.toList_ofList (l := expandTabs text), eq_shownText_of_shown showsText, shownText_red]
  refine quiet.prefix_expandTabs ?_
  simp only [List.append_assoc]
  exact quiet.prefix_shownText _

/-! ### Lines of a table -/

namespace Report.Grid

theorem head?_of_mem_rowLines {bar : Char} {widths : List Nat} {cells : List (List Char)}
    {line : List Char} (mem : line ∈ rowLines bar widths cells) : line.head? = some bar := by
  obtain ⟨level, -, rfl⟩ := List.mem_map.mp mem
  rfl

/-- The characters that the lines of a table begin with, but for its title. -/
def bars : List Char :=
  ['┏', '┃', '┡', '│', '└']

theorem prefix_centre (width : Nat) (line : List Char) :
    ∃ before, List.replicate before ' ' ++ line <+: centre width line := by
  refine ⟨_, List.IsPrefix.trans (List.prefix_append _ _) (List.prefix_append _ _)⟩

/-- **How the lines of a table begin.** -/
theorem begins_of_mem_drawn {grid : Grid} {line : List Char} (mem : line ∈ grid.drawn) :
    (∃ before, List.replicate before ' ' ++ grid.title <+: line) ∨
      ∃ bar ∈ bars, line.head? = some bar := by
  unfold drawn at mem
  simp only [List.mem_append, List.mem_cons, List.not_mem_nil, or_false, List.mem_flatMap] at mem
  obtain ((((rfl | rfl) | heading) | rfl) | ⟨row, -, mem⟩) | rfl := mem
  · exact .inl (prefix_centre _ _)
  · exact .inr ⟨'┏', by decide, rfl⟩
  · exact .inr ⟨'┃', by decide, head?_of_mem_rowLines heading⟩
  · exact .inr ⟨'┡', by decide, rfl⟩
  · exact .inr ⟨'│', by decide, head?_of_mem_rowLines mem⟩
  · exact .inr ⟨'└', by decide, rfl⟩

end Report.Grid

/-! ### Labels -/

/-- What the lines of a summary begin with, if they are read. -/
def labels : List String :=
  ["Files analyzed: ", "Overridden let declarations: ", "Files with errors: ",
    "No overridden let declarations found."]

/-- No line of a text begins with a label. -/
def HasNoLabels (lines : List String) : Prop :=
  ∀ line ∈ lines, ∀ label ∈ labels, ¬ label.toList <+: line.toList

theorem hasNoLabels_errorLines {results : List Result} {errors : List String}
    (shows : errorLines results = .ok errors) : HasNoLabels errors := by
  have others : ∀ label ∈ labels, ¬ label.toList <+: "Error analyzing ".toList ∧
    ¬ "Error analyzing ".toList <+: label.toList := by decide
  intro line mem label isLabel begins
  obtain ⟨failed, -, line⟩ := (mem_outcomes_iff (mapM_eq_ok_iff.mp shows) line).mp mem
  obtain ⟨noLabel, noError⟩ := others label isLabel
  obtain inside | inside := List.prefix_or_prefix_of_prefix begins (prefix_errorLine line)
  · exact noLabel inside
  · exact noError inside

theorem head?_eq_of_begins {front text : List Char} (some : front ≠ []) (begins : front <+: text) :
    front.head? = text.head? := by
  obtain ⟨rest, rfl⟩ := begins
  rw [List.head?_append_of_ne_nil _ some]

theorem hasNoLabels_drawnRows (rows : List TableRow) :
    HasNoLabels ((drawnRows rows).map String.ofList) := by
  have apart : ∀ label ∈ labels, label.toList ≠ [] ∧
      ((' ' :: Grid.bars).all fun char => label.toList.head? ≠ some char) = true := by decide
  have title : ∀ label ∈ labels, ¬ label.toList <+: tableTitle.toList ∧
      ¬ tableTitle.toList <+: label.toList := by decide
  refine List.forall_mem_map.mpr fun line mem label isLabel begins => ?_
  rw [String.toList_ofList (l := line)] at begins
  obtain ⟨some, others⟩ := apart label isLabel
  have head := List.all_iff_forall_prop.mp others
  rw [head?_eq_of_begins some begins] at head
  have drawn : line ∈ (gridOf rows).drawn := by
    unfold drawnRows at mem
    split at mem
    · cases mem
    · exact mem
  obtain ⟨before, middle⟩ | ⟨bar, isBar, here⟩ := Grid.begins_of_mem_drawn drawn
  · cases before with
    | zero =>
      obtain inside | inside := List.prefix_or_prefix_of_prefix begins middle
      · exact (title label isLabel).1 inside
      · exact (title label isLabel).2 inside
    | succ before =>
      exact head ' ' List.mem_cons_self (head?_eq_of_begins (by simp) middle).symm
  · exact head bar (List.mem_cons_of_mem _ isBar) here

/-- The number that is spelled behind a label, in the first line that begins with it. -/
def numberAfter? (label : String) (lines : List String) : Option Nat :=
  (lines.find? fun line => label.toList.isPrefixOf line.toList).map fun line =>
    Nat.ofDigitChars 10 (line.toList.drop label.toList.length) 0

section

variable {label : String}

theorem numberAfter?_cons_of_other {line : String} (other : ¬ label.toList <+: line.toList)
    (lines : List String) : numberAfter? label (line :: lines) = numberAfter? label lines := by
  rw [numberAfter?, List.find?_cons_of_neg (by simpa using other), ← numberAfter?]

theorem numberAfter?_cons_self (number : Nat) (lines : List String) :
    numberAfter? label ((label ++ toString number) :: lines) = some number := by
  rw [numberAfter?, List.find?_cons_of_pos (by simp)]
  change some (Nat.ofDigitChars 10 ((label ++ number.repr).toList.drop label.toList.length) 0) = _
  rw [String.toList_append, List.drop_left, Nat.toList_repr, Nat.ofDigitChars_ten_toDigits]

theorem numberAfter?_append {front : List String} (isLabel : label ∈ labels)
    (noLabels : HasNoLabels front) (lines : List String) :
    numberAfter? label (front ++ lines) = numberAfter? label lines := by
  induction front with
  | nil => rfl
  | cons line front ih =>
    obtain ⟨here, later⟩ := List.forall_mem_cons.mp noLabels
    rw [List.cons_append, numberAfter?_cons_of_other (here label isLabel), ih later]

end

/-! ### Summaries -/

namespace Summary

/-- What the last line of a summary says begins with a number, unless it is that nothing was found. -/
theorem not_prefix_attention {label : String} (isLabel : label ∈ labels) (number : Nat) :
    ¬ label.toList <+: (toString number ++ " file(s) need attention.").toList := by
  have apart : ∀ label ∈ labels, label.toList ≠ [] ∧
      ((Emoji.numeralChars ++ [' ']).all fun char => label.toList.head? ≠ some char) = true := by
    decide
  obtain ⟨some, others⟩ := apart label isLabel
  have head := List.all_iff_forall_prop.mp others
  intro begins
  rw [head?_eq_of_begins some begins, String.toList_append] at head
  cases digits : (toString number).toList with
  | nil => exact head ' ' (by decide) (by rw [digits]; rfl)
  | cons digit rest =>
    have isDigit := Emoji.repr_numeral number digit (digits ▸ List.mem_cons_self)
    exact head digit (List.mem_append_left _ isDigit) (by rw [digits]; rfl)

variable (summary : Summary)

theorem numberAfter?_analyzed :
    numberAfter? "Files analyzed: " summary.lines = some summary.analyzed := by
  rw [lines, List.append_assoc]
  simp only [List.cons_append]
  rw [numberAfter?_cons_of_other (by decide), numberAfter?_cons_of_other (by decide)]
  exact numberAfter?_cons_self _ _

theorem numberAfter?_offenses :
    numberAfter? "Overridden let declarations: " summary.lines = some summary.offenses := by
  rw [lines, List.append_assoc]
  simp only [List.cons_append]
  rw [numberAfter?_cons_of_other (by decide), numberAfter?_cons_of_other (by decide),
    numberAfter?_cons_of_other (by simp)]
  exact numberAfter?_cons_self _ _

theorem numberAfter?_failed :
    (numberAfter? "Files with errors: " summary.lines).getD 0 = summary.failed := by
  have last : numberAfter? "Files with errors: "
      [ if summary.offenses = 0 then "No overridden let declarations found."
        else toString summary.offending ++ " file(s) need attention." ] = none := by
    split
    · decide
    · exact numberAfter?_cons_of_other (not_prefix_attention (by decide) _) []
  rw [lines, List.append_assoc]
  simp only [List.cons_append]
  rw [numberAfter?_cons_of_other (by decide), numberAfter?_cons_of_other (by decide),
    numberAfter?_cons_of_other (by simp), numberAfter?_cons_of_other (by simp)]
  split
  · next none =>
    rw [List.nil_append, List.nil_append, last, none]
    rfl
  · rw [List.nil_append, List.singleton_append, numberAfter?_cons_self]
    rfl

/-- Nothing is said to be found exactly if there are no offenses. -/
theorem mem_lines_iff :
    "No overridden let declarations found." ∈ summary.lines ↔ summary.offenses = 0 := by
  have counts {label : String} (number : Nat)
      (other : ¬ label.toList <+: "No overridden let declarations found.".toList) :
      "No overridden let declarations found." ≠ label ++ toString number := by
    intro same
    rw [same, String.toList_append] at other
    exact other (List.prefix_append _ _)
  have attention (number : Nat) :
      "No overridden let declarations found." ≠ toString number ++ " file(s) need attention." := by
    intro same
    have other := not_prefix_attention (List.getLast_mem (l := labels) nofun) number
    exact other (same ▸ List.prefix_refl _)
  have failures : "No overridden let declarations found." ∉ (if summary.failed = 0 then []
      else ["Files with errors: " ++ toString summary.failed]) := by
    split
    · exact List.not_mem_nil
    · exact List.mem_singleton.not.mpr (counts _ (by decide))
  have front : "No overridden let declarations found." ∉ [ "", "Summary:",
      "Files analyzed: " ++ toString summary.analyzed,
      "Overridden let declarations: " ++ toString summary.offenses ] := by
    simp only [List.mem_cons, List.not_mem_nil, or_false, not_or]
    exact ⟨by decide, by decide, counts _ (by decide), counts _ (by decide)⟩
  rw [lines, List.mem_append, List.mem_append, or_iff_right (not_or.mpr ⟨front, failures⟩),
    List.mem_singleton]
  split
  · next none => exact iff_of_true rfl none
  · next some => exact iff_of_false (attention _) some

end Summary

/-- What the lines of a report count. -/
structure Tally (lines : List String) (analyzed failed offenses : Nat) : Prop where
  saysAnalyzed : numberAfter? "Files analyzed: " lines = some analyzed
  /-- The line is left out if there is nothing to count. -/
  saysFailed : (numberAfter? "Files with errors: " lines).getD 0 = failed
  saysOffenses : numberAfter? "Overridden let declarations: " lines = some offenses
  saysNothing : "No overridden let declarations found." ∈ lines ↔ offenses = 0

/-- **A report with a table counts what its summary does,** whatever its errors and its table say. -/
theorem tally_of_tableReport {results : List Result} {lines : List String}
    (shows : tableReport results = .ok lines) : Tally lines (Summary.ofResults results).analyzed
      (Summary.ofResults results).failed (Summary.ofResults results).offenses := by
  obtain ⟨errors, errorsShown, -, rfl⟩ := tableReport_eq_ok_iff.mp shows
  have noLabels : HasNoLabels (errors ++ (drawnRows (tableRows results)).map String.ofList) :=
    List.forall_mem_append.mpr ⟨hasNoLabels_errorLines errorsShown, hasNoLabels_drawnRows _⟩
  refine ⟨?_, ?_, ?_, ?_⟩
  · rw [numberAfter?_append (by decide) noLabels, Summary.numberAfter?_analyzed]
  · rw [numberAfter?_append (by decide) noLabels, Summary.numberAfter?_failed]
  · rw [numberAfter?_append (by decide) noLabels, Summary.numberAfter?_offenses]
  · rw [List.mem_append, Summary.mem_lines_iff]
    exact or_iff_right fun mem => noLabels _ mem _ (by decide) (List.prefix_refl _)

end LetShadow
