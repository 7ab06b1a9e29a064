/-
**Plain reports, line by line.**

A plain report is meant to be read by other programs: each offense is a line with its path, its line
number, its column and its name. What is printed may say something else, because the lines still go
through what is done to all texts.

* `printed_shownLine_eq_iff` — **lines are printed as they stand if all of them are verbatim,** and only
  then: what one line loses no other can make up for.
* `isVerbatim_line_iff` — the lines of offenses that are verbatim, told by path, line number and name.
* `plainReport_of_noTags` — **a report can be made** if no file with an error looks like a tag.
* `plainReport_faithful_iff` — **what a plain report prints,** and when it says what was found.
-/

import LetShadow.Report.Plain
import LetShadow.Proofs.Report.Tags
import Mathlib.Data.List.TakeWhile

namespace LetShadow

open Report

/-! ### Lines as they are printed -/

/-- A line of an offense as it is printed. -/
def shownLine (line : String) : String :=
  String.ofList (printable (showEmoji line.toList))

/-- The lines of all offenses, in the order of the results. -/
def reportedLines (results : List Result) : List String :=
  results.flatMap fun result => result.offenses.map fun offense => offense.line result.file

theorem offenseLines_eq (results : List Result) :
    offenseLines results = (reportedLines results).map shownLine := by
  rw [offenseLines, reportedLines, List.map_flatMap]
  simp only [List.map_map]
  rfl

@[simp]
theorem toList_shownLine (line : String) :
    (shownLine line).toList = printable (showEmoji line.toList) :=
  String.toList_ofList

theorem shownLine_eq_self_iff {line : String} : shownLine line = line ↔ IsVerbatim line.toList := by
  rw [← String.toList_inj, toList_shownLine, printable_showEmoji_eq_self_iff]

theorem printed_append (lines others : List String) :
    printed (lines ++ others) = printed lines ++ printed others := by
  rw [printed, printed, printed, List.map_append, String.join_append]

theorem toList_printed (lines : List String) :
    (printed lines).toList = lines.flatMap fun line => line.toList ++ ['\n'] := by
  rw [printed, String.toList_join, List.flatMap_map]
  simp only [String.toList_append]
  rfl

theorem mem_printed {lines : List String} {char : Char} (noLineFeed : char ≠ '\n') :
    char ∈ (printed lines).toList ↔ ∃ line ∈ lines, char ∈ line.toList := by
  simp [toList_printed, noLineFeed]

theorem count_printed_cons {char : Char} (noLineFeed : char ≠ '\n') (line : String)
    (lines : List String) :
    (printed (line :: lines)).toList.count char =
      line.toList.count char + (printed lines).toList.count char := by
  simp [toList_printed, List.count_cons_of_ne noLineFeed.symm]

theorem count_printed_shownLine_le (lines : List String) :
    (printed (lines.map shownLine)).toList.count ':' ≤ (printed lines).toList.count ':' := by
  induction lines with
  | nil => exact Nat.le_refl _
  | cons line lines ih =>
    have here := count_printable_showEmoji_colon_le line.toList
    rw [List.map_cons, count_printed_cons (by decide), count_printed_cons (by decide),
      toList_shownLine]
    omega

/-- A line that loses colons cannot get them back from another one. -/
theorem count_shownLine_of_printed {lines : List String}
    (same : (printed (lines.map shownLine)).toList.count ':' = (printed lines).toList.count ':') :
    ∀ line ∈ lines, (printable (showEmoji line.toList)).count ':' = line.toList.count ':' := by
  induction lines with
  | nil => exact List.forall_mem_nil _
  | cons line lines ih =>
    have here := count_printable_showEmoji_colon_le line.toList
    have others := count_printed_shownLine_le lines
    rw [List.map_cons, count_printed_cons (by decide), count_printed_cons (by decide),
      toList_shownLine] at same
    exact List.forall_mem_cons.mpr ⟨by omega, ih (by omega)⟩

/-- **What is printed as it stands, line by line.** -/
theorem printed_shownLine_eq_iff {lines : List String} :
    printed (lines.map shownLine) = printed lines ↔ ∀ line ∈ lines, IsVerbatim line.toList := by
  refine ⟨fun same line mem => ?_, fun verbatim => ?_⟩
  · refine isVerbatim_of_count ?_ fun char changed inLine => ?_
    · exact count_shownLine_of_printed (congrArg (fun text => text.toList.count ':') same) line mem
    · have noLineFeed : char ≠ '\n' := fun lineFeed => absurd (lineFeed ▸ changed) (by decide)
      obtain ⟨_, shown, inShown⟩ :=
        (mem_printed noLineFeed).mp (same ▸ (mem_printed noLineFeed).mpr ⟨line, mem, inLine⟩)
      obtain ⟨other, -, rfl⟩ := List.mem_map.mp shown
      exact not_mem_printable _ char changed (toList_shownLine other ▸ inShown)
  · rw [List.map_congr_left fun line mem => shownLine_eq_self_iff.mpr (verbatim line mem), List.map_id']

/-! ### Lines of errors -/

/-- A text without brackets and backslashes, in which no tag is found. -/
def HasNoTags (text : List Char) : Prop :=
  '[' ∉ text ∧ '\\' ∉ text

theorem HasNoTags.append {text rest : List Char} (noTags : HasNoTags text)
    (noTagsToo : HasNoTags rest) : HasNoTags (text ++ rest) :=
  ⟨List.not_mem_append noTags.1 noTagsToo.1, List.not_mem_append noTags.2 noTagsToo.2⟩

theorem cutFrom_append {text : List Char} (noBracket : '[' ∉ text) (plain rest : List Char) :
    cutFrom plain (text ++ rest) = cutFrom (text.reverse ++ plain) rest := by
  induction text generalizing plain with
  | nil => rfl
  | cons char text ih =>
    obtain ⟨other, noBracket⟩ := not_or.mp (List.mem_cons.not.mp noBracket)
    rw [List.cons_append, cutFrom, if_neg (Ne.symm other), ih noBracket]
    simp

theorem HasNoTags.doubleLastSlash_eq {text : List Char} (noTags : HasNoTags text) :
    doubleLastSlash text = text := by
  have noSlash : '\\' ∉ text.reverse := fun mem => noTags.2 (List.mem_reverse.mp mem)
  unfold doubleLastSlash
  split
  · next ends => simp [ends] at noSlash
  · next ends => simp [ends] at noSlash
  · rfl

theorem HasNoTags.escape_eq {text : List Char} (noTags : HasNoTags text) : escape text = text := by
  have plain : cut text = ([], text) := by
    have := cutFrom_append noTags.1 [] []
    simpa [cut, cutFrom] using this
  rw [escape, plain]
  exact noTags.doubleLastSlash_eq

/-- The tags around a text that is coloured red. -/
theorem cut_red {text : List Char} (noTags : HasNoTags text) :
    cut (red text) = ([⟨[], 0, "red".toList⟩, ⟨text, 0, "/red".toList⟩], []) := by
  have noSlash : ∀ char ∈ text.reverse, ¬ decide (char = '\\') = true := by
    intro char mem same
    rw [decide_eq_true_iff] at same
    exact noTags.2 (same ▸ List.mem_reverse.mp mem)
  have closes : tagName? "/red]".toList = some ("/red".toList, []) := by decide
  have before : text.reverse.dropWhile (· = '\\') = text.reverse :=
    List.dropWhile_eq_self_iff.mpr fun _ => noSlash _ (List.getElem_mem _)
  have slashes : text.reverse.takeWhile (· = '\\') = [] :=
    List.takeWhile_eq_nil_iff.mpr fun _ => noSlash _ (List.getElem_mem _)
  have last : "[/red]".toList = '[' :: "/red]".toList := rfl
  rw [cut_red_opening, cut, cutFrom_append noTags.1, last, cutFrom_tag closes, List.append_nil, before,
    slashes, cutFrom]
  simp

theorem HasNoTags.shownPlain_eq {text : List Char} (noTags : HasNoTags text) :
    shownPlain text = dropControls (showEmoji text) := by
  have kept : dropBracketSlashes text = text :=
    dropBracketSlashes_eq_self_iff.mpr fun inside => noTags.2 (inside.subset List.mem_cons_self)
  rw [shownPlain, kept]

/-- Tags are compared by their names in normal form. -/
theorem nameOf_red : Marks.nameOf "red".toList = .ok "red".toList := by
  decide +kernel

theorem read_opening_red (position offset : Nat) : Marks.read {} position offset "red".toList =
    .ok { opened := [⟨"red".toList, none, offset⟩] } := by
  change Marks.opening {} offset "red".toList none = _
  rw [Marks.opening, nameOf_red]
  rfl

theorem read_closing_red (position offset start : Nat) :
    Marks.read { opened := [⟨"red".toList, none, start⟩] } position offset "/red".toList =
      .ok { spans := [⟨start, offset, "red".toList⟩] } := by
  change (do let name ← Marks.nameOf "red".toList; _) = _
  rw [nameOf_red]
  simp [Marks.closing, OpenTag.isAction, OpenTag.span, OpenTag.words, Bind.bind, Except.bind]
  rfl

/-- A text without tags that is coloured red is one red part. -/
theorem readMarkup_red {text : List Char} (noTags : HasNoTags text) :
    ∃ start stop, readMarkup (red text) =
      .ok ⟨dropControls (showEmoji text), [⟨start, stop, "red".toList⟩]⟩ := by
  have takesEffect (before name : List Char) : Tagged.isPlain ⟨before, 0, name⟩ = false := rfl
  have nothing : shownPlain [] = [] := by
    simp [shownPlain, dropBracketSlashes, showEmoji, dropControls]
  have shows : shownText (red text) = dropControls (showEmoji text) := by
    rw [shownText, cut_red noTags]
    simp [Tagged.shown, takesEffect, nothing, noTags.shownPlain_eq]
  have single (part : Span) (length : Nat) : Marks.allSpans { spans := [part] } length = [part] := by
    simp [Marks.allSpans]
  rw [readMarkup, cut_red noTags, shows]
  simp only [Marks.readAll, takesEffect, Bool.false_eq_true, if_false, read_opening_red,
    read_closing_red, Bind.bind, Except.bind, single]
  exact ⟨_, _, rfl⟩

theorem shown_red {text : List Char} (noTags : HasNoTags text) :
    shown (red text) = .ok (dropControls (showEmoji text)) := by
  have style : checkStyle "red".toList = .ok () := by decide +kernel
  obtain ⟨start, stop, reads⟩ := readMarkup_red noTags
  have check : Marked.check ⟨dropControls (showEmoji text), [⟨start, stop, "red".toList⟩]⟩ =
      .ok () := by
    rw [Marked.check, List.filter_cons]
    split
    · change (checkStyle "red".toList >>= fun _ => pure ()) = _
      rw [style]
      rfl
    · rfl
  rw [shown, reads]
  change Marked.shown _ = _
  rw [Marked.shown, check]
  rfl

/-- What is said about a file with an error. -/
def errorText (file error : String) : String :=
  "Error analyzing " ++ file ++ ": " ++ error

theorem toList_errorText (file error : String) :
    (errorText file error).toList =
      "Error analyzing ".toList ++ file.toList ++ ": ".toList ++ error.toList := by
  unfold errorText
  simp only [String.toList_append]

/-- **The line of an error can be shown** if neither the file nor the error looks like a tag. -/
theorem errorLine_of_noTags {file error : String} (plainFile : HasNoTags file.toList)
    (plainError : HasNoTags error.toList) :
    errorLine file error = .ok (shownLine (errorText file error)) := by
  have words : HasNoTags "Error analyzing ".toList ∧ HasNoTags ": ".toList :=
    ⟨⟨by decide, by decide⟩, by decide, by decide⟩
  have noTags : HasNoTags (errorText file error).toList := by
    rw [toList_errorText]
    exact ((words.1.append plainFile).append words.2).append plainError
  have shows := shown_red noTags
  rw [toList_errorText] at shows
  unfold errorLine
  rw [plainFile.escape_eq, plainError.escape_eq, shows, shownLine, toList_errorText]
  rfl

/-! ### Lines of offenses -/

/-- What the line of an offense says behind its place. -/
def remark (offense : Offense) : List Char :=
  ": ".toList ++ (offense.message.toList ++ (" (".toList ++ (':' :: offense.name.toList ++ [')'])))

theorem toList_line_of_none {offense : Offense} (place : offense.location = none) (file : String) :
    (offense.line file).toList = file.toList ++ remark offense := by
  simp [Offense.line, Offense.place, place, Offense.shownName, Name.shown, remark]

theorem toList_line_of_some {offense : Offense} {location : Location}
    (place : offense.location = some location) (file : String) :
    (offense.line file).toList =
      file.toList ++ (':' :: ((toString location.line).toList ++
        ':' :: ((toString (location.column + 1)).toList ++ remark offense))) := by
  simp [Offense.line, Offense.place, place, Offense.shownName, Name.shown, remark]

/-- The remark has no codes but those that begin at its name. -/
theorem hasCode_remark_iff {offense : Offense} {code : List Char}
    (standard : offense.message = offenseMessage) :
    HasCode code (remark offense) ↔ HasCode code (':' :: offense.name.toList ++ [')']) := by
  have blank : remark offense = ':' :: ' ' ::
      (offenseMessage.toList ++ (" (".toList ++ (':' :: offense.name.toList ++ [')']))) := by
    simp [remark, standard]
  rw [blank, hasCode_colon_blank_iff (by decide) (by decide), hasCode_append_iff (by decide),
    hasCode_append_iff (by decide)]

/-- **The codes in the line of an offense** are its line number and those that begin at its name, if
the path has no colon. -/
theorem hasCode_line_iff {file : String} {offense : Offense} {code : List Char}
    (noColon : ':' ∉ file.toList) (standard : offense.message = offenseMessage) :
    HasCode code (offense.line file).toList ↔
      (∃ location, offense.location = some location ∧ code = (toString location.line).toList) ∨
        HasCode code (':' :: offense.name.toList ++ [')']) := by
  rw [← hasCode_remark_iff standard]
  cases place : offense.location with
  | none =>
    rw [toList_line_of_none place, hasCode_append_iff noColon]
    simp
  | some location =>
    rw [toList_line_of_some place, hasCode_append_iff noColon,
      Closes.hasCode_iff ⟨toString_no_colon location.line, rfl⟩,
      hasCode_append_iff fun colon => (toString_no_colon _ _ colon).1 rfl]
    simp

/-- A control character stands in the line of an offense only if it stands in its path or its name. -/
theorem mem_line_iff {file : String} {offense : Offense} {char : Char} (control : char.toNat < 0x20)
    (standard : offense.message = offenseMessage) :
    char ∈ (offense.line file).toList ↔ char ∈ file.toList ∨ char ∈ offense.name.toList := by
  have isFar {text : List Char} (far : (text.all fun char => 0x20 ≤ char.toNat) = true) :
      char ∉ text := fun mem =>
    absurd (List.all_iff_forall_prop.mp far char mem) (Nat.not_le_of_lt control)
  have number (number : Int) : char ∉ (toString number).toList := fun mem =>
    isFar (by decide) (Emoji.toString_numeral number char mem)
  have signs : char ≠ ':' ∧ char ≠ ')' := by
    constructor <;> rintro rfl <;> exact absurd control (by decide)
  have words : char ∉ ": ".toList ∧ char ∉ offenseMessage.toList ∧ char ∉ " (".toList :=
    ⟨isFar (by decide), isFar (by decide), isFar (by decide)⟩
  have inRemark : char ∈ remark offense ↔ char ∈ offense.name.toList := by
    simp only [remark, standard, List.mem_append, List.mem_cons, List.not_mem_nil, signs, words,
      false_or, or_false]
  cases place : offense.location with
  | none => rw [toList_line_of_none place, List.mem_append, inRemark]
  | some location =>
    rw [toList_line_of_some place]
    simp only [List.mem_append, List.mem_cons, signs, number, inRemark, false_or]

/-- **Which offenses are printed as they are reported,** if the path has no colon: the line number is
none of the three that name emoji, and nothing in the path or the name is changed. -/
theorem isVerbatim_line_iff {file : String} {offense : Offense} (noColon : ':' ∉ file.toList)
    (standard : offense.message = offenseMessage) :
    IsVerbatim (offense.line file).toList ↔
      (∀ location, offense.location = some location → toString location.line ∉ Emoji.numerals) ∧
      (∀ char ∈ changedChars, char ∉ file.toList) ∧
      IsVerbatim (':' :: offense.name.toList ++ [')']) := by
  have inLine : ∀ char ∈ changedChars, (char ∈ (offense.line file).toList ↔
      char ∈ file.toList ∨ char ∈ ':' :: offense.name.toList ++ [')']) := by
    have controls : ∀ char ∈ changedChars, char.toNat < 0x20 ∧ char ≠ ':' ∧ char ≠ ')' :=
      List.all_iff_forall_prop.mp (by decide)
    intro char changed
    obtain ⟨control, noSigns⟩ := controls char changed
    simp [mem_line_iff control standard, noSigns]
  constructor
  · intro verbatim
    refine ⟨fun location place names => ?_, fun char changed inFile => ?_, fun code inName => ?_,
      fun char changed inName => ?_⟩
    · exact verbatim.noEmoji _ ((hasCode_line_iff noColon standard).mpr (.inl ⟨location, place, rfl⟩))
        ((namesEmoji_toString_iff _).mpr names)
    · exact verbatim.unchanged char changed ((inLine char changed).mpr (.inl inFile))
    · exact verbatim.noEmoji code ((hasCode_line_iff noColon standard).mpr (.inr inName))
    · exact verbatim.unchanged char changed ((inLine char changed).mpr (.inr inName))
  · rintro ⟨numbers, noChange, name⟩
    refine ⟨fun code has names => ?_, fun char changed mem => ?_⟩
    · obtain ⟨location, place, rfl⟩ | inName := (hasCode_line_iff noColon standard).mp has
      · exact numbers location place ((namesEmoji_toString_iff _).mp names)
      · exact name.noEmoji code inName names
    · exact ((inLine char changed).mp mem).elim (noChange char changed) (name.unchanged char changed)

/-! ### Reports -/

theorem errorLines_append {found foundToo : List Result} {errors errorsToo : List String}
    (here : errorLines found = .ok errors) (there : errorLines foundToo = .ok errorsToo) :
    errorLines (found ++ foundToo) = .ok (errors ++ errorsToo) := by
  unfold errorLines at here there ⊢
  rw [fileErrors, List.filterMap_append]
  exact mapM_eq_ok_iff.mpr (List.rel_append (mapM_eq_ok_iff.mp here) (mapM_eq_ok_iff.mp there))

theorem plainReport_eq_ok_iff {found : List Result} {lines : List String} :
    plainReport found = .ok lines ↔
      ∃ errors, errorLines found = .ok errors ∧ errors ++ offenseLines found = lines := by
  rw [plainReport, bind_eq_ok_iff]
  exact exists_congr fun errors => and_congr_right fun _ =>
    ⟨fun same => Except.ok.inj same, fun same => congrArg Except.ok same⟩

/-- What is said about the files with errors, in the order of the results. -/
def errorTexts (results : List Result) : List String :=
  (fileErrors results).map fun failed => errorText failed.1 failed.2

/-- **A report can be made** if no file with an error and no error looks like a tag. -/
theorem plainReport_of_noTags {results : List Result}
    (noTags : ∀ failed ∈ fileErrors results,
      HasNoTags failed.1.toList ∧ HasNoTags failed.2.toList) :
    plainReport results =
      .ok ((errorTexts results ++ reportedLines results).map shownLine) := by
  refine plainReport_eq_ok_iff.mpr ⟨(errorTexts results).map shownLine, mapM_eq_ok_iff.mpr ?_, ?_⟩
  · rw [errorTexts, List.map_map, List.forall₂_map_right_iff, List.forall₂_same]
    exact fun failed mem => errorLine_of_noTags (noTags failed mem).1 (noTags failed mem).2
  · rw [List.map_append, offenseLines_eq]

/-- A tag may begin in the path and end in the error, though neither has one by itself. -/
example : plainReport [.failed "a[/x" "y]"] = .error (.notOpen "/x: y".toList 22) := by
  decide +kernel

/-- **What a plain report prints.** It has a line for each error and then one for each offense, in the
order of the results, if the errors can be shown. Exactly the verbatim lines of offenses are printed as
they stand. A line feed in one breaks it, and none is added. So the report says what was found exactly
if all lines of offenses are verbatim. -/
theorem plainReport_faithful_iff (results : List Result) :
    (∀ lines, plainReport results = .ok lines ↔ ∃ errors,
      List.Forall₂ (fun failed line => errorLine failed.1 failed.2 = .ok line) (fileErrors results)
        errors ∧ errors ++ offenseLines results = lines) ∧
    List.Forall₂ (fun line shown => (shown = line ↔ IsVerbatim line.toList) ∧
        shown.toList.count '\n' = line.toList.count '\n')
      (reportedLines results) (offenseLines results) ∧
    ∀ errors, printed (errors ++ offenseLines results) = printed (errors ++ reportedLines results) ↔
      ∀ line ∈ reportedLines results, IsVerbatim line.toList := by
  refine ⟨fun lines => ?_, ?_, fun errors => ?_⟩
  · simp only [plainReport_eq_ok_iff, errorLines, mapM_eq_ok_iff]
  · rw [offenseLines_eq, List.forall₂_map_right_iff, List.forall₂_same]
    intro line _
    exact ⟨shownLine_eq_self_iff, toList_shownLine line ▸ count_printable_showEmoji_lineFeed _⟩
  · rw [printed_append, printed_append, String.append_right_inj, offenseLines_eq,
      printed_shownLine_eq_iff]

/-- A file with an offense on its hundredth line. -/
def hundredth : Result where
  file := "a.rb"
  offenses :=
    [{ declaration := ⟨0, .call { method := "let", location := some ⟨100, 4⟩ }⟩, name := "foo" }]

/-- **A line number can be lost:** on the hundredth line it is taken for the name of an emoji. -/
theorem plainReport_not_faithful_hundredth :
    reportedLines [hundredth] = ["a.rb:100:5: Do not override let. (:foo)"] ∧
      plainReport [hundredth] = .ok ["a.rb💯5: Do not override let. (:foo)"] := by
  decide +kernel

end LetShadow
