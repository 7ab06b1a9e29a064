/-
**Texts with tags that are shown as they stand.**

A tag is not shown, and backslashes before brackets are lost with it, whatever else happens to the text
around them. Blanks for tabs cannot make up for that: a text that is left has no tab.

* `HasTag` — a text holds a tag somewhere, whether backslashes make it plain text or not.
* `cutFrom_source` — the tags of a text, with the text before each and behind the last, are the text.
* `IsLeftOf` — what is shown of a text is left of it, unless colons are lost.
* `expandTabs_shownText_eq_self_iff` — **exactly the verbatim texts are shown as they stand:** those
  without a tag, without a backslash before a bracket, and with nothing that is changed in any text.
-/

import LetShadow.Proofs.Report.Shown
import LetShadow.Proofs.Traversal
import LetShadow.Report.Markup
import Mathlib.Data.List.Infix

namespace LetShadow.Report

/-! ### Finding tags -/

/-- The name of a tag. -/
structure IsTagName (name : List Char) : Prop where
  begins : name.head?.any beginsTag = true
  noOpening : '[' ∉ name
  noClosing : ']' ∉ name

/-- A text holds a tag. -/
def HasTag (text : List Char) : Prop :=
  ∃ name, IsTagName name ∧ bracketed name <:+: text

theorem cutAtBracket?_eq_some_iff {text before after : List Char} :
    cutAtBracket? text = some (before, after) ↔
      text = before ++ ']' :: after ∧ '[' ∉ before ∧ ']' ∉ before := by
  induction text generalizing before with
  | nil => simp [cutAtBracket?]
  | cons char rest ih =>
    rw [cutAtBracket?]
    split
    · next closing =>
      subst closing
      cases before with
      | nil => simp [eq_comm]
      | cons first before => simp +contextual [eq_comm]
    · next noClosing =>
      split
      · next opening =>
        subst opening
        cases before with
        | nil => simp
        | cons first before => simp +contextual [eq_comm]
      · next noOpening =>
        rw [Option.map_eq_some_iff]
        constructor
        · rintro ⟨⟨inner, _⟩, found, ⟨⟩⟩
          obtain ⟨rfl, opening, closing⟩ := ih.mp found
          simp [opening, closing, Ne.symm noOpening, Ne.symm noClosing]
        · rintro ⟨same, opening, closing⟩
          cases before with
          | nil => exact absurd (List.cons.inj same).1 noClosing
          | cons first before =>
            obtain ⟨rfl, rfl⟩ := List.cons.inj same
            exact ⟨(before, after), ih.mpr ⟨rfl, fun mem => opening (List.mem_cons_of_mem _ mem),
              fun mem => closing (List.mem_cons_of_mem _ mem)⟩, rfl⟩

/-- **What begins with a tag.** -/
theorem tagName?_eq_some_iff {text name after : List Char} :
    tagName? text = some (name, after) ↔ IsTagName name ∧ text = name ++ ']' :: after := by
  have brackets : beginsTag '[' = false ∧ beginsTag ']' = false := by decide
  cases text with
  | nil => simp [tagName?]
  | cons char rest =>
    rw [tagName?]
    constructor
    · intro found
      split at found
      · next begins =>
        obtain ⟨⟨inner, _⟩, cutOff, ⟨⟩⟩ := Option.map_eq_some_iff.mp found
        obtain ⟨rfl, opening, closing⟩ := cutAtBracket?_eq_some_iff.mp cutOff
        have noOpening : '[' ≠ char := fun same => by simp [← same, brackets] at begins
        have noClosing : ']' ≠ char := fun same => by simp [← same, brackets] at begins
        exact ⟨⟨begins, by simp [opening, noOpening], by simp [closing, noClosing]⟩, rfl⟩
      · cases found
    · rintro ⟨⟨begins, opening, closing⟩, same⟩
      cases name with
      | nil => cases begins
      | cons first name =>
        obtain ⟨rfl, rfl⟩ := List.cons.inj same
        have cutOff : cutAtBracket? (name ++ ']' :: after) = some (name, after) :=
          cutAtBracket?_eq_some_iff.mpr ⟨rfl, fun mem => opening (List.mem_cons_of_mem _ mem),
            fun mem => closing (List.mem_cons_of_mem _ mem)⟩
        rw [if_pos (by simpa using begins)]
        exact congrArg (Option.map _) cutOff

theorem hasTag_of_tagName? {rest name after : List Char} (found : tagName? rest = some (name, after)) :
    HasTag ('[' :: rest) := by
  obtain ⟨isName, rfl⟩ := tagName?_eq_some_iff.mp found
  exact ⟨name, isName, ⟨[], after, by simp [bracketed]⟩⟩

/-- A tag begins at once or later. -/
theorem hasTag_cons_iff {char : Char} {rest : List Char} (noTag : char = '[' → tagName? rest = none) :
    HasTag (char :: rest) ↔ HasTag rest := by
  constructor
  · rintro ⟨name, isName, inside⟩
    obtain begins | later := List.infix_cons_iff.mp inside
    · obtain ⟨rfl, after, rfl⟩ := List.cons_prefix_cons.mp begins
      have found : tagName? (name ++ [']'] ++ after) = some (name, after) :=
        tagName?_eq_some_iff.mpr ⟨isName, by simp⟩
      cases (noTag rfl).symm.trans found
    · exact ⟨name, isName, later⟩
  · rintro ⟨name, isName, inside⟩
    exact ⟨name, isName, inside.trans (List.suffix_cons char rest).isInfix⟩

/-- What ends in a character that is not in the rest of a text stands in front of the rest. -/
theorem infix_append_iff {part front rest : List Char} {last : Char} (noLast : last ∉ rest) :
    part ++ [last] <:+: front ++ rest ↔ part ++ [last] <:+: front := by
  refine ⟨?_, fun inside => inside.trans (List.prefix_append front rest).isInfix⟩
  rintro ⟨before, after, same⟩
  have split : (before ++ part) ++ last :: after = front ++ rest := by simpa using same
  obtain ⟨inner, inFront, inRest⟩ | ⟨inner, -, inRest⟩ := List.append_eq_append_iff.mp split
  · cases inner with
    | nil => exact absurd (show last ∈ [] ++ rest from inRest ▸ List.mem_cons_self) noLast
    | cons first inner =>
      obtain ⟨rfl, rfl⟩ := List.cons.inj inRest
      exact ⟨before, inner, by simp [inFront]⟩
  · exact absurd (inRest ▸ List.mem_append_right _ List.mem_cons_self) noLast

theorem hasTag_append_iff {front rest : List Char} (noClosing : ']' ∉ rest) :
    HasTag (front ++ rest) ↔ HasTag front := by
  have inside (name : List Char) : bracketed name <:+: front ++ rest ↔ bracketed name <:+: front :=
    infix_append_iff noClosing
  simp only [HasTag, inside]

/-- A tag that is found is cut off with the text before it. -/
theorem cutFrom_tag {plain rest name after : List Char} (found : tagName? rest = some (name, after)) :
    cutFrom plain ('[' :: rest) =
      (⟨(plain.dropWhile (· = '\\')).reverse, (plain.takeWhile (· = '\\')).length, name⟩ ::
        (cutFrom [] after).1, (cutFrom [] after).2) := by
  rw [cutFrom, if_pos rfl]
  split
  · next foundToo =>
    obtain ⟨rfl, rfl⟩ := Prod.mk.inj (Option.some.inj (found.symm.trans foundToo))
    rfl
  · next none =>
    rw [found] at none
    cases none

/-- A character that no tag begins with is plain text. -/
theorem cutFrom_plain {char : Char} {rest : List Char} (noTag : char = '[' → tagName? rest = none)
    (plain : List Char) : cutFrom plain (char :: rest) = cutFrom (char :: plain) rest := by
  rw [cutFrom]
  split
  · next opening =>
    split
    · next found => cases (noTag opening).symm.trans found
    · rfl
  · rfl

/-- A text that is coloured red begins with a tag. -/
theorem cut_red_opening (text : List Char) : cut (red text) =
    (⟨[], 0, "red".toList⟩ :: (cut (text ++ "[/red]".toList)).1,
      (cut (text ++ "[/red]".toList)).2) := by
  have opens : tagName? ("red]".toList ++ (text ++ "[/red]".toList)) =
      some ("red".toList, text ++ "[/red]".toList) :=
    tagName?_eq_some_iff.mpr ⟨⟨rfl, by decide, by decide⟩, rfl⟩
  have start : red text = '[' :: ("red]".toList ++ (text ++ "[/red]".toList)) := by
    unfold red
    rw [List.append_assoc]
    rfl
  rw [cut, start, cutFrom_tag opens]
  rfl

/-- A text is cut from the left, tag by tag. -/
@[elab_as_elim]
theorem tags_induction {motive : List Char → List Char → Prop} (nil : ∀ plain, motive plain [])
    (tag : ∀ plain rest name after, tagName? rest = some (name, after) → motive [] after →
      motive plain ('[' :: rest))
    (plain : ∀ plain char rest, (char = '[' → tagName? rest = none) → motive (char :: plain) rest →
      motive plain (char :: rest)) (before text : List Char) : motive before text := by
  induction before, text using cutFrom.induct with
  | case1 before => exact nil before
  | case2 before rest name after found _ _ _ ih => exact tag before rest name after found ih
  | case3 before rest none ih => exact plain before '[' rest (fun _ => none) ih
  | case4 before char rest noBracket ih =>
    exact plain before char rest (fun same => absurd same noBracket) ih

/-- **Tags are found exactly in the texts that hold one.** -/
theorem cutFrom_fst_eq_nil_iff (plain text : List Char) :
    (cutFrom plain text).1 = [] ↔ ¬ HasTag text := by
  induction plain, text using tags_induction with
  | nil plain =>
    rw [cutFrom]
    refine iff_of_true rfl ?_
    rintro ⟨name, -, inside⟩
    cases List.infix_nil.mp inside
  | tag plain rest name after found ih =>
    rw [cutFrom_tag found]
    exact iff_of_false (List.cons_ne_nil _ _) fun none => none (hasTag_of_tagName? found)
  | plain plain char rest noTag ih => rw [cutFrom_plain noTag, ih, hasTag_cons_iff noTag]

/-- A tag as it stands in its text, with the text before it. -/
def Tagged.source (tagged : Tagged) : List Char :=
  tagged.before ++ List.replicate tagged.slashes '\\' ++ bracketed tagged.name

/-- **Cutting loses nothing.** -/
theorem cutFrom_source (plain text : List Char) :
    (cutFrom plain text).1.flatMap Tagged.source ++ (cutFrom plain text).2 = plain.reverse ++ text := by
  induction plain, text using tags_induction with
  | nil plain => simp [cutFrom]
  | tag plain rest name after found ih =>
    obtain ⟨-, rfl⟩ := tagName?_eq_some_iff.mp found
    have slashes : List.replicate (plain.takeWhile (· = '\\')).length '\\' =
        (plain.takeWhile (· = '\\')).reverse := by
      refine (List.eq_replicate_iff.mpr ⟨List.length_reverse, fun char mem => ?_⟩).symm
      simpa using List.all_eq_true.mp List.all_takeWhile char (List.mem_reverse.mp mem)
    have split := congrArg List.reverse (List.takeWhile_append_dropWhile (p := (· = '\\')) (l := plain))
    rw [List.reverse_append] at split
    rw [cutFrom_tag found, List.flatMap_cons, List.append_assoc, ih, Tagged.source, slashes, split]
    simp [bracketed]
  | plain plain char rest noTag ih =>
    rw [cutFrom_plain noTag, ih]
    simp

theorem cut_of_not_hasTag {text : List Char} (noTag : ¬ HasTag text) : cut text = ([], text) := by
  have none := (cutFrom_fst_eq_nil_iff [] text).mpr noTag
  have whole := cutFrom_source [] text
  rw [none] at whole
  exact Prod.ext none whole

/-! ### What is left of a text -/

/-- What is left of a text: its characters in their order, though some may be missing. If colons are
lost as well, anything may stand there. -/
def IsLeftOf (shown text : List Char) : Prop :=
  shown.count ':' < text.count ':' ∨ shown.Sublist text

namespace IsLeftOf

variable {shown text : List Char}

theorem count_le (left : IsLeftOf shown text) : shown.count ':' ≤ text.count ':' :=
  left.elim Nat.le_of_lt fun sublist => sublist.count_le ':'

theorem trans {between : List Char} (left : IsLeftOf shown between) (leftToo : IsLeftOf between text) :
    IsLeftOf shown text := by
  obtain fewer | sublist := left
  · exact .inl (Nat.lt_of_lt_of_le fewer leftToo.count_le)
  · obtain fewer | sublistToo := leftToo
    · exact .inl (Nat.lt_of_le_of_lt (sublist.count_le ':') fewer)
    · exact .inr (sublist.trans sublistToo)

theorem append {shownToo textToo : List Char} (left : IsLeftOf shown text)
    (leftToo : IsLeftOf shownToo textToo) : IsLeftOf (shown ++ shownToo) (text ++ textToo) := by
  have counts := left.count_le
  have countsToo := leftToo.count_le
  unfold IsLeftOf
  rw [List.count_append, List.count_append]
  obtain fewer | sublist := left
  · exact .inl (by omega)
  · obtain fewer | sublistToo := leftToo
    · exact .inl (by omega)
    · exact .inr (sublist.append sublistToo)

/-- **If the blanks for tabs make a text what it was, nothing had been lost.** -/
theorem eq_of_expandTabs (left : IsLeftOf shown text) (same : expandTabs shown = text) :
    shown = text := by
  have sublist : shown.Sublist text := by
    refine left.resolve_left fun fewer => ?_
    rw [← same, expandTabs, count_expandTabsFrom (by decide) (by decide)] at fewer
    simp at fewer
  have noTab : '\t' ∉ expandTabs shown := no_tab_expandTabsFrom List.not_mem_nil 0 shown
  replace noTab : '\t' ∉ shown := fun mem => noTab (same.symm ▸ sublist.mem mem)
  rw [expandTabs, expandTabsFrom_eq_self noTab] at same
  exact same

/-- What is left of two parts is the whole only if it is the two parts. -/
theorem eq_of_append {shownToo textToo : List Char} (left : IsLeftOf shown text)
    (leftToo : IsLeftOf shownToo textToo) (same : shown ++ shownToo = text ++ textToo) :
    shown = text ∧ shownToo = textToo := by
  have counts := left.count_le
  have countsToo := leftToo.count_le
  have count := congrArg (List.count ':') same
  rw [List.count_append, List.count_append] at count
  have sublist : shown.Sublist text := left.resolve_left (by omega)
  have sublistToo : shownToo.Sublist textToo := leftToo.resolve_left (by omega)
  have length := congrArg List.length same
  rw [List.length_append, List.length_append] at length
  have short := sublist.length_le
  have shortToo := sublistToo.length_le
  exact ⟨sublist.eq_of_length (by omega), sublistToo.eq_of_length (by omega)⟩

end IsLeftOf

/-! ### What is shown of plain text and of tags -/

theorem dropBracketSlashes_sublist (text : List Char) : (dropBracketSlashes text).Sublist text := by
  induction text using dropBracketSlashes.induct with
  | case1 => exact .slnil
  | case2 char => exact .refl _
  | case3 first second rest escaped ih =>
    obtain ⟨rfl, rfl⟩ := escaped
    rw [dropBracketSlashes, if_pos ⟨rfl, rfl⟩]
    exact (ih.cons_cons '[').cons '\\'
  | case4 first second rest apart ih =>
    rw [dropBracketSlashes, if_neg apart]
    exact ih.cons_cons first

/-- **Only backslashes before brackets are dropped.** -/
theorem dropBracketSlashes_eq_self_iff {text : List Char} :
    dropBracketSlashes text = text ↔ ¬ ['\\', '['] <:+: text := by
  induction text using dropBracketSlashes.induct with
  | case1 => simp [dropBracketSlashes]
  | case2 char => simp [dropBracketSlashes, List.infix_cons_iff]
  | case3 first second rest escaped ih =>
    obtain ⟨rfl, rfl⟩ := escaped
    rw [dropBracketSlashes, if_pos ⟨rfl, rfl⟩]
    exact iff_of_false (by simp) fun none => none ⟨[], rest, rfl⟩
  | case4 first second rest apart ih =>
    rw [dropBracketSlashes, if_neg apart, List.cons_inj_right, ih, List.infix_cons_iff (a := first)]
    simp [List.cons_prefix_cons, eq_comm, apart]

theorem isLeftOf_shownPoints (text : List Char) : IsLeftOf (dropControls (showEmoji text)) text := by
  have controls : IsLeftOf (dropControls (showEmoji text)) (showEmoji text) :=
    .inr List.filter_sublist
  refine controls.trans ?_
  by_cases plain : ∀ name, HasCode name text → ¬ NamesEmoji name
  · rw [showEmoji_eq_self plain]
    exact .inr (.refl _)
  · simp only [not_forall, not_not] at plain
    obtain ⟨name, code, names⟩ := plain
    exact .inl (count_showEmoji_colon_lt code names)

theorem isLeftOf_shownPlain (text : List Char) : IsLeftOf (shownPlain text) text :=
  (isLeftOf_shownPoints _).trans (.inr (dropBracketSlashes_sublist text))

/-- **Plain text is kept only with its backslashes.** -/
theorem dropBracketSlashes_of_shownPlain {text : List Char} (same : shownPlain text = text) :
    dropBracketSlashes text = text := by
  have sublist := dropBracketSlashes_sublist text
  have left := isLeftOf_shownPoints (dropBracketSlashes text)
  rw [← shownPlain, same] at left
  have sublistToo := left.resolve_left (Nat.not_lt_of_le (sublist.count_le ':'))
  exact sublist.eq_of_length_le sublistToo.length_le

namespace Tagged

section

variable (tagged : Tagged)

theorem isLeftOf_slashes : IsLeftOf (List.replicate (tagged.slashes / 2) '\\')
    (List.replicate tagged.slashes '\\') :=
  .inr ((List.replicate_sublist_iff).mpr (by simpa using Nat.div_le_self _ _))

theorem isLeftOf_name :
    IsLeftOf (if tagged.isPlain then shownPlain (bracketed tagged.name) else [])
      (bracketed tagged.name) := by
  split
  · exact isLeftOf_shownPlain _
  · exact .inr (List.nil_sublist _)

theorem isLeftOf_shown : IsLeftOf tagged.shown tagged.source :=
  ((isLeftOf_shownPlain _).append tagged.isLeftOf_slashes).append tagged.isLeftOf_name

/-- **No tag is shown as it stands:** its name vanishes, or a backslash before it. -/
theorem shown_ne_source : tagged.shown ≠ tagged.source := by
  intro same
  obtain ⟨front, name⟩ := ((isLeftOf_shownPlain _).append tagged.isLeftOf_slashes).eq_of_append
    tagged.isLeftOf_name same
  obtain ⟨-, slashes⟩ := (isLeftOf_shownPlain _).eq_of_append tagged.isLeftOf_slashes front
  have none : tagged.slashes / 2 = tagged.slashes := by
    simpa using congrArg List.length slashes
  have takesEffect : ¬ tagged.isPlain = true := by
    rw [isPlain, decide_eq_true_iff]
    omega
  rw [if_neg takesEffect] at name
  cases name

end

end Tagged

theorem isLeftOf_flatMap_shown (tags : List Tagged) :
    IsLeftOf (tags.flatMap Tagged.shown) (tags.flatMap Tagged.source) := by
  induction tags with
  | nil => exact .inr .slnil
  | cons tagged tags ih =>
    rw [List.flatMap_cons, List.flatMap_cons]
    exact tagged.isLeftOf_shown.append ih

/-! ### Whole texts -/

theorem source_of_cut (text : List Char) : (cut text).1.flatMap Tagged.source ++ (cut text).2 = text :=
  cutFrom_source [] text

theorem shownText_eq (text : List Char) :
    shownText text = (cut text).1.flatMap Tagged.shown ++ shownPlain (cut text).2 :=
  rfl

/-- **What is shown of a text is left of it.** -/
theorem isLeftOf_shownText (text : List Char) : IsLeftOf (shownText text) text := by
  have parts := (isLeftOf_flatMap_shown (cut text).1).append (isLeftOf_shownPlain (cut text).2)
  rwa [source_of_cut, ← shownText_eq] at parts

/-- A text with a tag is not shown as it stands. -/
theorem not_hasTag_of_shownText {text : List Char} (same : shownText text = text) : ¬ HasTag text := by
  rw [← cutFrom_fst_eq_nil_iff [] text]
  have whole := source_of_cut text
  rw [shownText_eq] at same
  change (cut text).1 = []
  cases tags : (cut text).1 with
  | nil => rfl
  | cons tagged others =>
    rw [tags] at whole same
    have parts := (isLeftOf_flatMap_shown (tagged :: others)).eq_of_append
      (isLeftOf_shownPlain (cut text).2) (same.trans whole.symm)
    rw [List.flatMap_cons, List.flatMap_cons] at parts
    have here := tagged.isLeftOf_shown.eq_of_append (isLeftOf_flatMap_shown others) parts.1
    exact absurd here.1 tagged.shown_ne_source

theorem shownText_of_not_hasTag {text : List Char} (noTag : ¬ HasTag text) :
    shownText text = shownPlain text := by
  rw [shownText, cut_of_not_hasTag noTag]
  rfl

/-- A text that holds no tag, no backslash before a bracket, and nothing that is changed in any text. -/
structure IsVerbatimMarkup (text : List Char) : Prop where
  noTag : ¬ HasTag text
  noSlash : ¬ ['\\', '['] <:+: text
  verbatim : IsVerbatim text

/-- **Exactly these texts are shown as they stand.** -/
theorem expandTabs_shownText_eq_self_iff {text : List Char} :
    expandTabs (shownText text) = text ↔ IsVerbatimMarkup text := by
  constructor
  · intro same
    have kept := (isLeftOf_shownText text).eq_of_expandTabs same
    have noTag := not_hasTag_of_shownText kept
    have plain := shownText_of_not_hasTag noTag
    have noSlash := dropBracketSlashes_of_shownPlain (plain.symm.trans kept)
    refine ⟨noTag, dropBracketSlashes_eq_self_iff.mp noSlash, ?_⟩
    rw [plain, shownPlain, noSlash] at same
    exact printable_showEmoji_eq_self_iff.mp same
  · rintro ⟨noTag, noSlash, verbatim⟩
    rw [shownText_of_not_hasTag noTag, shownPlain, dropBracketSlashes_eq_self_iff.mpr noSlash]
    exact verbatim.printable_showEmoji

/-- What is shown is the text without its tags, if it can be shown. -/
theorem eq_shownText_of_shown {text line : List Char} (shows : shown text = .ok line) :
    line = shownText text := by
  obtain ⟨marked, reads, shows⟩ := bind_eq_ok_iff.mp shows
  obtain ⟨marks, -, same⟩ := bind_eq_ok_iff.mp reads
  obtain ⟨-, -, sameText⟩ := bind_eq_ok_iff.mp shows
  cases same
  cases sameText
  rfl

/-- **A text without tags can be shown.** -/
theorem shown_of_not_hasTag {text : List Char} (noTag : ¬ HasTag text) :
    shown text = .ok (shownText text) := by
  have noSpans (length : Nat) : Marks.allSpans {} length = [] := by simp [Marks.allSpans]
  have reads : readMarkup text = .ok ⟨shownText text, []⟩ := by
    rw [readMarkup, cut_of_not_hasTag noTag]
    exact congrArg (fun spans => Except.ok (Marked.mk (shownText text) spans)) (noSpans _)
  rw [shown, reads]
  rfl

end LetShadow.Report
