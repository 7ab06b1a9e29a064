/-
**Texts that are shown as they stand.**

Three things happen to a text before it is printed: emoji take the place of codes, some control
characters are dropped, and blanks take the place of tabs.

* `HasCode` — the codes of a text, told by its colons and its white space; `NamesEmoji` tells which of
  them are replaced.
* `count_showEmoji_colon_lt` — **a code that names an emoji takes its colons with it:** no emoji has a
  colon in it (`emoji?_no_mark`), and nothing that happens later brings one back.
* `count_printable_showEmoji_lineFeed` — line feeds are neither dropped nor added.
* `printable_showEmoji_eq_self_iff` — **exactly the verbatim texts are printed as they stand:** those
  that hold no such code, no tab and no character that is dropped.
-/

import LetShadow.Report.Control
import LetShadow.Report.Emoji
import LetShadow.Proofs.Emoji.Tables
import Mathlib.Data.List.Basic

namespace LetShadow.Report

/-! ### What a code is shown as -/

/-- A code names an emoji, after the word for its form is cut off. -/
def NamesEmoji (code : List Char) : Prop :=
  (Emoji.emoji? (Text.lowered (cutForm code).1)).isSome

/-- Only the selectors of forms are added to an emoji. -/
theorem cutForm_no_mark (code : List Char) : ∀ char ∈ (cutForm code).2, Emoji.isMark char = false := by
  have selectors : ∀ form ∈ forms, Emoji.isMark form.2 = false := by decide
  unfold cutForm
  split
  · next word selector found =>
    exact List.forall_mem_singleton.mpr (selectors _ (List.mem_of_find?_eq_some found))
  · exact List.forall_mem_nil _

/-- A code that names no emoji is shown as it stands. -/
theorem shownCode_of_not_namesEmoji {code : List Char} (names : ¬ NamesEmoji code) :
    shownCode code = ':' :: code ++ [':'] := by
  rw [NamesEmoji, Option.not_isSome_iff_eq_none] at names
  simp only [shownCode, names]

/-- What an emoji is shown as has no marks. -/
theorem shownCode_no_mark {code : List Char} (names : NamesEmoji code) :
    ∀ char ∈ shownCode code, Emoji.isMark char = false := by
  obtain ⟨emoji, named⟩ := Option.isSome_iff_exists.mp names
  simp only [shownCode, named]
  exact List.forall_mem_append.mpr ⟨Emoji.emoji?_no_mark named, cutForm_no_mark code⟩

/-- Numerals are in small letters, and ask for no form. -/
theorem loweredAfter_numeral {code : List Char}
    (numeral : ∀ char ∈ code, char ∈ Emoji.numeralChars) (before : List Char) :
    Text.loweredAfter before code = code := by
  have small : ∀ char ∈ Emoji.numeralChars,
      char ≠ 'Σ' ∧ char ≠ 'İ' ∧ Text.smallLetter char = char :=
    List.all_iff_forall_prop.mp (by decide)
  induction code generalizing before with
  | nil => rfl
  | cons char code ih =>
    obtain ⟨head, tail⟩ := List.forall_mem_cons.mp numeral
    obtain ⟨noSigma, noDottedI, same⟩ := small char head
    rw [Text.loweredAfter, if_neg noSigma, if_neg noDottedI, ih tail, same]
    rfl

theorem cutForm_numeral {code : List Char} (numeral : ∀ char ∈ code, char ∈ Emoji.numeralChars) :
    cutForm code = (code, []) := by
  have letters : ∀ form ∈ forms, (form.1.any fun char => char ∉ Emoji.numeralChars) = true := by
    decide
  have noWord : forms.find? (fun form => form.1.isSuffixOf code) = none := by
    refine List.find?_eq_none.mpr fun form mem ends => ?_
    obtain ⟨letter, inWord, other⟩ := List.any_eq_true.mp (letters form mem)
    exact of_decide_eq_true other (numeral letter ((List.isSuffixOf_iff_suffix.mp ends).mem inWord))
  rw [cutForm, noWord]

/-- **An integer names an emoji only if it is one of three.** -/
theorem namesEmoji_iff_of_numeral {code : List Char}
    (numeral : ∀ char ∈ code, char ∈ Emoji.numeralChars) :
    NamesEmoji code ↔ String.ofList code ∈ Emoji.numerals := by
  rw [NamesEmoji, cutForm_numeral numeral, Text.lowered, loweredAfter_numeral numeral,
    Emoji.emoji?_isSome_iff_of_numeral numeral]

theorem namesEmoji_toString_iff (number : Int) :
    NamesEmoji (toString number).toList ↔ toString number ∈ Emoji.numerals := by
  rw [namesEmoji_iff_of_numeral (Emoji.toString_numeral number), String.ofList_toList]

/-- A number can stand in a code. -/
theorem toString_no_colon (number : Int) :
    ∀ char ∈ (toString number).toList, char ≠ ':' ∧ Text.isBlank char = false := by
  have signs : ∀ char ∈ Emoji.numeralChars, char ≠ ':' ∧ Text.isBlank char = false :=
    List.all_iff_forall_prop.mp (by decide)
  exact fun char mem => signs char (Emoji.toString_numeral number char mem)

/-! ### The codes of a text -/

/-- What stands behind a colon closes a code: a name without colons and white space, another colon, and
what comes after the code. -/
structure Closes (name after rest : List Char) : Prop where
  isName : ∀ char ∈ name, char ≠ ':' ∧ Text.isBlank char = false
  isText : rest = name ++ ':' :: after

/-- The codes of a text, by their names. They are found from the left, and the second colon of a code
begins no other. -/
inductive HasCode (name : List Char) : List Char → Prop
  | here {after rest : List Char} (closes : Closes name after rest) : HasCode name (':' :: rest)
  | behindCode {other after rest : List Char} (closes : Closes other after rest)
      (code : HasCode name after) : HasCode name (':' :: rest)
  | behindColon {rest : List Char} (alone : ∀ other after, ¬ Closes other after rest)
      (code : HasCode name rest) : HasCode name (':' :: rest)
  | behind {char : Char} {rest : List Char} (noColon : char ≠ ':') (code : HasCode name rest) :
      HasCode name (char :: rest)

theorem Closes.cutAtColon?_eq {name after rest : List Char} (closes : Closes name after rest) :
    cutAtColon? rest = some (name, after) := by
  obtain ⟨isName, rfl⟩ := closes
  induction name with
  | nil => simp [cutAtColon?]
  | cons char name ih =>
    obtain ⟨⟨noColon, noBlank⟩, isName⟩ := List.forall_mem_cons.mp isName
    simp [cutAtColon?, noColon, noBlank, ih isName]

theorem closes_of_cutAtColon? {name after rest : List Char}
    (cut : cutAtColon? rest = some (name, after)) : Closes name after rest := by
  induction rest generalizing name with
  | nil => cases cut
  | cons char rest ih =>
    rw [cutAtColon?] at cut
    split at cut
    · next colon =>
      cases cut
      exact ⟨List.forall_mem_nil _, congrArg (· :: after) colon⟩
    · next noColon =>
      split at cut
      · cases cut
      · next noBlank =>
        obtain ⟨⟨inner, _⟩, found, same⟩ := Option.map_eq_some_iff.mp cut
        cases same
        obtain ⟨isName, rfl⟩ := ih found
        exact ⟨List.forall_mem_cons.mpr ⟨⟨noColon, eq_false_of_ne_true noBlank⟩, isName⟩, rfl⟩

theorem cutAtColon?_eq_none_iff {rest : List Char} :
    cutAtColon? rest = none ↔ ∀ name after, ¬ Closes name after rest := by
  refine ⟨fun none name after closes => ?_, fun alone => ?_⟩
  · rw [closes.cutAtColon?_eq] at none
    cases none
  · exact Option.eq_none_iff_forall_ne_some.mpr fun parts cut =>
      alone parts.1 parts.2 (closes_of_cutAtColon? cut)

/-- A text closes one code at most. -/
theorem Closes.unique {name other after afterToo rest : List Char} (closes : Closes name after rest)
    (closesToo : Closes other afterToo rest) : name = other ∧ after = afterToo := by
  have same := closes.cutAtColon?_eq.symm.trans closesToo.cutAtColon?_eq
  simpa using same

/-- A text is read from the left, code by code. What is no part of a code is passed over by single
characters. -/
@[elab_as_elim]
theorem codes_induction {motive : List Char → Prop} (nil : motive [])
    (code : ∀ name after rest, Closes name after rest → motive after → motive (':' :: rest))
    (colon : ∀ rest, (∀ name after, ¬ Closes name after rest) → motive rest → motive (':' :: rest))
    (plain : ∀ char rest, char ≠ ':' → motive rest → motive (char :: rest)) (text : List Char) :
    motive text := by
  induction text using showEmoji.induct with
  | case1 => exact nil
  | case2 rest name after cut ih => exact code name after rest (closes_of_cutAtColon? cut) ih
  | case3 rest cut ih => exact colon rest (cutAtColon?_eq_none_iff.mp cut) ih
  | case4 char rest noColon ih => exact plain char rest noColon ih

theorem hasCode_cons_iff {name rest : List Char} {char : Char} (noColon : char ≠ ':') :
    HasCode name (char :: rest) ↔ HasCode name rest := by
  refine ⟨fun code => ?_, .behind noColon⟩
  cases code with
  | behind _ code => exact code
  | _ => exact absurd rfl noColon

theorem hasCode_append_iff {plain name rest : List Char} (noColon : ':' ∉ plain) :
    HasCode name (plain ++ rest) ↔ HasCode name rest := by
  induction plain with
  | nil => rfl
  | cons char plain ih =>
    obtain ⟨other, noColon⟩ := not_or.mp (List.mem_cons.not.mp noColon)
    rw [List.cons_append, hasCode_cons_iff (Ne.symm other), ih noColon]

theorem Closes.hasCode_iff {name other after rest : List Char} (closes : Closes other after rest) :
    HasCode name (':' :: rest) ↔ name = other ∨ HasCode name after := by
  refine ⟨fun code => ?_, ?_⟩
  · cases code with
    | here closesToo => exact .inl (closesToo.unique closes).1
    | behindCode closesToo code => exact .inr ((closesToo.unique closes).2 ▸ code)
    | behindColon alone => exact absurd closes (alone _ _)
    | behind noColon => exact absurd rfl noColon
  · rintro (rfl | code)
    · exact .here closes
    · exact .behindCode closes code

/-- A colon that is followed by white space begins no code. -/
theorem hasCode_colon_blank_iff {name rest : List Char} {blank : Char}
    (isBlank : Text.isBlank blank = true) (noColon : blank ≠ ':') :
    HasCode name (':' :: blank :: rest) ↔ HasCode name rest := by
  have alone : ∀ other after, ¬ Closes other after (blank :: rest) :=
    cutAtColon?_eq_none_iff.mp (by simp [cutAtColon?, noColon, isBlank])
  have skip : HasCode name (blank :: rest) ↔ HasCode name rest := hasCode_cons_iff noColon
  rw [← skip]
  refine ⟨fun code => ?_, .behindColon alone⟩
  cases code with
  | here closes => exact absurd closes (alone _ _)
  | behindCode closes => exact absurd closes (alone _ _)
  | behindColon _ code => exact code
  | behind noColon => exact absurd rfl noColon

/-! ### Emoji in the place of codes -/

theorem showEmoji_cons {char : Char} (noColon : char ≠ ':') (rest : List Char) :
    showEmoji (char :: rest) = char :: showEmoji rest := by
  rw [showEmoji, if_neg noColon]

theorem Closes.showEmoji_eq {name after rest : List Char} (closes : Closes name after rest) :
    showEmoji (':' :: rest) = shownCode name ++ showEmoji after := by
  rw [showEmoji, if_pos rfl]
  split
  · next cut =>
    obtain ⟨rfl, rfl⟩ := closes.unique (closes_of_cutAtColon? cut)
    rfl
  · next cut => exact absurd closes (cutAtColon?_eq_none_iff.mp cut _ _)

theorem showEmoji_colon {rest : List Char} (alone : ∀ name after, ¬ Closes name after rest) :
    showEmoji (':' :: rest) = ':' :: showEmoji rest := by
  rw [showEmoji, if_pos rfl]
  split
  · next cut => exact absurd (closes_of_cutAtColon? cut) (alone _ _)
  · rfl

/-- A text without a code that names an emoji is shown as it stands. -/
theorem showEmoji_eq_self {text : List Char} (plain : ∀ name, HasCode name text → ¬ NamesEmoji name) :
    showEmoji text = text := by
  induction text using codes_induction with
  | nil => rw [showEmoji]
  | code name after rest closes ih =>
    rw [closes.showEmoji_eq, shownCode_of_not_namesEmoji (plain name (.here closes)),
      ih fun other code => plain other (.behindCode closes code), closes.isText]
    simp
  | colon rest alone ih =>
    rw [showEmoji_colon alone, ih fun other code => plain other (.behindColon alone code)]
  | plain char rest noColon ih =>
    rw [showEmoji_cons noColon, ih fun other code => plain other (.behind noColon code)]

/-! ### Marks that remain -/

/-- A code has no colons but its own. -/
theorem Closes.count_colon {name after rest : List Char} (closes : Closes name after rest) :
    (':' :: rest).count ':' = after.count ':' + 2 := by
  have none : name.count ':' = 0 :=
    List.count_eq_zero.mpr fun mem => (closes.isName ':' mem).1 rfl
  rw [closes.isText, List.count_cons_self, List.count_append, List.count_cons_self, none]
  omega

theorem Closes.count_lineFeed {name after rest : List Char} (closes : Closes name after rest) :
    (':' :: rest).count '\n' = after.count '\n' := by
  have none : name.count '\n' = 0 :=
    List.count_eq_zero.mpr fun mem => absurd (closes.isName '\n' mem).2 (by decide)
  rw [closes.isText, List.count_cons_of_ne (by decide), List.count_append,
    List.count_cons_of_ne (by decide), none, Nat.zero_add]

theorem count_shownCode_of_namesEmoji {code : List Char} (names : NamesEmoji code) {mark : Char}
    (isMark : Emoji.isMark mark = true) : (shownCode code).count mark = 0 :=
  List.count_eq_zero.mpr fun mem => absurd isMark (by simp [shownCode_no_mark names mark mem])

theorem Closes.count_shownCode_colon_le {name after rest : List Char}
    (closes : Closes name after rest) : (shownCode name).count ':' ≤ 2 := by
  by_cases names : NamesEmoji name
  · rw [count_shownCode_of_namesEmoji names rfl]
    exact Nat.zero_le 2
  · rw [shownCode_of_not_namesEmoji names]
    have own : Closes name [] (name ++ [':']) := ⟨closes.isName, rfl⟩
    exact Nat.le_of_eq own.count_colon

theorem Closes.count_shownCode_lineFeed {name after rest : List Char}
    (closes : Closes name after rest) : (shownCode name).count '\n' = 0 := by
  by_cases names : NamesEmoji name
  · exact count_shownCode_of_namesEmoji names rfl
  · rw [shownCode_of_not_namesEmoji names]
    have own : Closes name [] (name ++ [':']) := ⟨closes.isName, rfl⟩
    exact own.count_lineFeed

theorem count_showEmoji_colon_le (text : List Char) :
    (showEmoji text).count ':' ≤ text.count ':' := by
  induction text using codes_induction with
  | nil => simp [showEmoji]
  | code name after rest closes ih =>
    have shown := closes.count_shownCode_colon_le
    rw [closes.showEmoji_eq, closes.count_colon, List.count_append]
    omega
  | colon rest alone ih =>
    rw [showEmoji_colon alone, List.count_cons_self, List.count_cons_self]
    exact Nat.succ_le_succ ih
  | plain char rest noColon ih =>
    rw [showEmoji_cons noColon, List.count_cons_of_ne noColon, List.count_cons_of_ne noColon]
    exact ih

/-- **A code that names an emoji takes its colons with it.** -/
theorem count_showEmoji_colon_lt {name text : List Char} (code : HasCode name text)
    (names : NamesEmoji name) : (showEmoji text).count ':' < text.count ':' := by
  induction code with
  | @here after rest closes =>
    -- The two colons of the code are lost, and behind it there cannot be more than there were.
    have others := count_showEmoji_colon_le after
    rw [closes.showEmoji_eq, closes.count_colon, List.count_append,
      count_shownCode_of_namesEmoji names rfl]
    omega
  | behindCode closes _ ih =>
    have shown := closes.count_shownCode_colon_le
    rw [closes.showEmoji_eq, closes.count_colon, List.count_append]
    omega
  | behindColon alone _ ih =>
    rw [showEmoji_colon alone, List.count_cons_self, List.count_cons_self]
    exact Nat.succ_lt_succ ih
  | behind noColon _ ih =>
    rw [showEmoji_cons noColon, List.count_cons_of_ne noColon, List.count_cons_of_ne noColon]
    exact ih

/-- **Line feeds stay.** No code reaches over one. -/
theorem count_showEmoji_lineFeed (text : List Char) :
    (showEmoji text).count '\n' = text.count '\n' := by
  induction text using codes_induction with
  | nil => rw [showEmoji]
  | code name after rest closes ih =>
    rw [closes.showEmoji_eq, List.count_append, closes.count_shownCode_lineFeed, ih, Nat.zero_add,
      closes.count_lineFeed]
  | colon rest alone ih => rw [showEmoji_colon alone, List.count_cons, List.count_cons, ih]
  | plain char rest noColon ih =>
    rw [showEmoji_cons noColon, List.count_cons, List.count_cons, ih]

/-! ### Control characters and tabs -/

theorem count_expandTabsFrom {char : Char} (noTab : char ≠ '\t') (noBlank : char ≠ ' ')
    (column : Nat) (part text : List Char) :
    (expandTabsFrom column part text).count char = part.count char + text.count char := by
  induction text generalizing column part with
  | nil => simp [expandTabsFrom]
  | cons first rest ih =>
    rw [expandTabsFrom]
    split
    · next lineFeed =>
      subst lineFeed
      simp [List.count_cons, ih]
    · split
      · next tab =>
        subst tab
        have blanks (number : Nat) : (List.replicate number ' ').count char = 0 :=
          List.count_eq_zero.mpr fun mem => noBlank (List.eq_of_mem_replicate mem)
        simp [ih, blanks, List.count_cons_of_ne noTab.symm, noBlank.symm]
      · rw [ih, List.count_cons, List.count_cons]
        omega

theorem expandTabsFrom_eq_self {text : List Char} (noTab : '\t' ∉ text) (column : Nat)
    (part : List Char) : expandTabsFrom column part text = part.reverse ++ text := by
  induction text generalizing column part with
  | nil => simp [expandTabsFrom]
  | cons first rest ih =>
    obtain ⟨other, noTab⟩ := not_or.mp (List.mem_cons.not.mp noTab)
    rw [expandTabsFrom]
    split
    · next lineFeed => rw [ih noTab, lineFeed, List.reverse_nil, List.nil_append]
    · rw [if_neg (Ne.symm other), ih noTab, List.reverse_cons, List.append_assoc]
      rfl

theorem no_tab_expandTabsFrom {part : List Char} (noTab : '\t' ∉ part) (column : Nat)
    (text : List Char) : '\t' ∉ expandTabsFrom column part text := by
  induction text generalizing column part with
  | nil => simpa [expandTabsFrom]
  | cons first rest ih =>
    rw [expandTabsFrom]
    split
    · simp [noTab, ih]
    · split
      · simp [noTab, ih]
      · next noTabHere => exact ih (by simp [noTab, Ne.symm noTabHere]) column

/-- Whatever is neither dropped nor a tab nor a blank stays. -/
theorem count_printable {char : Char} (stays : char ∉ droppedControls) (noTab : char ≠ '\t')
    (noBlank : char ≠ ' ') (text : List Char) : (printable text).count char = text.count char := by
  rw [printable, expandTabs, count_expandTabsFrom noTab noBlank, List.count_nil, Nat.zero_add,
    dropControls, List.count_filter (by simpa using stays)]

/-- The characters that are not printed as they stand: some are dropped, and a tab becomes blanks. -/
def changedChars : List Char :=
  '\t' :: droppedControls

theorem dropControls_eq_self {text : List Char} (noControl : ∀ char ∈ droppedControls, char ∉ text) :
    dropControls text = text :=
  List.filter_eq_self.mpr fun char mem => by simpa using fun drops => noControl char drops mem

theorem printable_eq_self {text : List Char} (unchanged : ∀ char ∈ changedChars, char ∉ text) :
    printable text = text := by
  obtain ⟨noTab, noControl⟩ := List.forall_mem_cons.mp unchanged
  rw [printable, dropControls_eq_self noControl, expandTabs, expandTabsFrom_eq_self noTab,
    List.reverse_nil, List.nil_append]

/-- What is printed has none of them left. -/
theorem not_mem_printable (text : List Char) : ∀ char ∈ changedChars, char ∉ printable text := by
  refine List.forall_mem_cons.mpr ⟨no_tab_expandTabsFrom List.not_mem_nil 0 _, fun char drops => ?_⟩
  have apart : ∀ char ∈ droppedControls, char ≠ '\t' ∧ char ≠ ' ' :=
    List.all_iff_forall_prop.mp (by decide)
  rw [← List.count_eq_zero, printable, expandTabs,
    count_expandTabsFrom (apart char drops).1 (apart char drops).2, List.count_nil, Nat.zero_add,
    List.count_eq_zero]
  exact fun mem => by simp [dropControls, drops] at mem

/-! ### Verbatim texts -/

/-- A text that holds no code for an emoji, and no character that is not printed as it stands. -/
structure IsVerbatim (text : List Char) : Prop where
  noEmoji : ∀ name, HasCode name text → ¬ NamesEmoji name
  unchanged : ∀ char ∈ changedChars, char ∉ text

theorem count_printable_showEmoji_colon_le (text : List Char) :
    (printable (showEmoji text)).count ':' ≤ text.count ':' := by
  rw [count_printable (by decide) (by decide) (by decide)]
  exact count_showEmoji_colon_le text

/-- **A line is printed with as many line feeds as it has.** -/
theorem count_printable_showEmoji_lineFeed (text : List Char) :
    (printable (showEmoji text)).count '\n' = text.count '\n' := by
  rw [count_printable (by decide) (by decide) (by decide), count_showEmoji_lineFeed]

theorem IsVerbatim.printable_showEmoji {text : List Char} (verbatim : IsVerbatim text) :
    printable (showEmoji text) = text := by
  rw [showEmoji_eq_self verbatim.noEmoji, printable_eq_self verbatim.unchanged]

/-- A text that keeps all its colons is verbatim, unless it has characters that are changed. -/
theorem isVerbatim_of_count {text : List Char}
    (colons : (printable (showEmoji text)).count ':' = text.count ':')
    (unchanged : ∀ char ∈ changedChars, char ∉ text) : IsVerbatim text := by
  refine ⟨fun name code names => ?_, unchanged⟩
  rw [count_printable (by decide) (by decide) (by decide)] at colons
  exact absurd colons (Nat.ne_of_lt (count_showEmoji_colon_lt code names))

/-- **Exactly the verbatim texts are printed as they stand.** -/
theorem printable_showEmoji_eq_self_iff {text : List Char} :
    printable (showEmoji text) = text ↔ IsVerbatim text :=
  ⟨fun same => isVerbatim_of_count (congrArg _ same) fun char changed mem =>
    not_mem_printable _ char changed (same.symm ▸ mem), IsVerbatim.printable_showEmoji⟩

end LetShadow.Report
