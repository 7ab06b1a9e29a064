/-
**Literals without interpolation, between any delimiters.**

Such a literal stands between single quotes, or behind `%q` or `%s` between delimiters of its own. A
backslash in it is dropped if it stands in front of a backslash or of one of these delimiters; any
other backslash is kept. The conversion goes by the beginning of the literal: it drops the backslash in
front of a backslash and of a single quote behind `%q`, and none at all behind `%s`.

* `unescape` — a text without the backslashes in front of some characters, and `escaped` the characters
  that stand behind a backslash.
* `unescape_eq_iff`, `unescape_eq_self_iff` — **two ways to drop backslashes give the same text exactly
  if they drop the same,** whatever runs of backslashes there are (`mem_escaped_iff`).
* `verbatim_value_iff` — so the value of a literal is right exactly if no backslash in it is misread.
* `verbatim_misread` — **some literals are misread.**
-/

import LetShadow.Proofs.Ruby.Spellings

namespace LetShadow.Ruby

open Conversion (convert)

/-! ### Backslashes -/

/-- A text without the backslashes in front of characters of some kind. Behind a backslash that is kept
the character is kept as it is. -/
def unescape (drops : Char → Bool) : List Char → List Char
  | [] => []
  | [char] => [char]
  | first :: second :: rest =>
    if first = '\\' then
      if drops second then second :: unescape drops rest
      else first :: second :: unescape drops rest
    else first :: unescape drops (second :: rest)

/-- The characters behind a backslash, where a backslash that stands behind one escapes nothing. -/
def escaped : List Char → List Char
  | [] => []
  | [_] => []
  | first :: second :: rest =>
    if first = '\\' then second :: escaped rest else escaped (second :: rest)

/-- A text that does not end behind the backslash of an escape. -/
inductive IsWhole : List Char → Prop
  | nil : IsWhole []
  | plain {char : Char} {rest : List Char} (noBackslash : char ≠ '\\') (later : IsWhole rest) :
    IsWhole (char :: rest)
  | escape {rest : List Char} (char : Char) (later : IsWhole rest) : IsWhole ('\\' :: char :: rest)

section Backslashes

variable {drops other : Char → Bool}

theorem unescape_plain {char : Char} (noBackslash : char ≠ '\\') (rest : List Char) :
    unescape drops (char :: rest) = char :: unescape drops rest := by
  cases rest with
  | nil => rfl
  | cons second rest => rw [unescape, if_neg noBackslash]

theorem unescape_escape (char : Char) (rest : List Char) :
    unescape drops ('\\' :: char :: rest) =
      (if drops char then [char] else ['\\', char]) ++ unescape drops rest := by
  rw [unescape, if_pos rfl]
  split <;> rfl

theorem escaped_plain {char : Char} (noBackslash : char ≠ '\\') (rest : List Char) :
    escaped (char :: rest) = escaped rest := by
  cases rest with
  | nil => rfl
  | cons second rest => rw [escaped, if_neg noBackslash]

theorem escaped_escape (char : Char) (rest : List Char) :
    escaped ('\\' :: char :: rest) = char :: escaped rest := by
  rw [escaped, if_pos rfl]

theorem IsWhole.append {first second : List Char} (whole : IsWhole first) (later : IsWhole second) :
    IsWhole (first ++ second) := by
  induction whole with
  | nil => exact later
  | plain noBackslash _ ih => exact .plain noBackslash ih
  | escape char _ ih => exact .escape char ih

theorem IsWhole.escaped_append {first : List Char} (whole : IsWhole first) (second : List Char) :
    escaped (first ++ second) = escaped first ++ escaped second := by
  induction whole with
  | nil => rfl
  | plain noBackslash _ ih =>
    rw [List.cons_append, escaped_plain noBackslash, escaped_plain noBackslash, ih]
  | escape char _ ih =>
    rw [List.cons_append, List.cons_append, escaped_escape, escaped_escape, ih, List.cons_append]

/-- Nothing is dropped across the end of a text that is whole. -/
theorem IsWhole.unescape_append {first : List Char} (whole : IsWhole first) (second : List Char) :
    unescape drops (first ++ second) = unescape drops first ++ unescape drops second := by
  induction whole with
  | nil => rfl
  | plain noBackslash _ ih =>
    rw [List.cons_append, unescape_plain noBackslash, unescape_plain noBackslash, ih,
      List.cons_append]
  | escape char _ ih =>
    rw [List.cons_append, List.cons_append, unescape_escape, unescape_escape, ih, List.append_assoc]

/-- **Two ways to drop backslashes that agree on a backslash give the same text exactly if they agree on
all characters behind one.** -/
theorem unescape_eq_iff (same : drops '\\' = other '\\') {text : List Char} (whole : IsWhole text) :
    unescape drops text = unescape other text ↔ ∀ char ∈ escaped text, drops char = other char := by
  induction whole with
  | nil => exact ⟨fun _ => nofun, fun _ => rfl⟩
  | plain noBackslash _ ih =>
    rw [unescape_plain noBackslash, unescape_plain noBackslash, escaped_plain noBackslash, ← ih,
      List.cons_inj_right]
  | @escape rest char _ ih =>
    rw [unescape_escape, unescape_escape, escaped_escape, List.forall_mem_cons, ← ih]
    by_cases agree : drops char = other char
    · rw [and_iff_right agree, agree, List.append_cancel_left_eq]
    · -- One of the texts goes on with the backslash, and the other with what is behind it.
      have noBackslash : char ≠ '\\' := by
        rintro rfl
        exact agree same
      refine iff_of_false (fun equal => ?_) fun both => agree both.1
      cases here : drops char with
      | true =>
        rw [here, Bool.eq_false_iff.mpr fun there => agree (here.trans there.symm)] at equal
        exact noBackslash (List.cons_eq_cons.mp equal).1
      | false =>
        rw [here, Bool.eq_true_of_not_eq_false fun there => agree (here.trans there.symm)] at equal
        exact noBackslash (List.cons_eq_cons.mp equal).1.symm

theorem length_unescape_le (text : List Char) : (unescape drops text).length ≤ text.length := by
  fun_induction unescape drops text with
  | case1 => exact le_rfl
  | case2 => exact le_rfl
  | case3 second rest dropped ih =>
    rw [List.length_cons, List.length_cons, List.length_cons]
    omega
  | case4 second rest kept ih =>
    rw [List.length_cons, List.length_cons, List.length_cons, List.length_cons]
    omega
  | case5 first second rest noBackslash ih =>
    rw [List.length_cons, List.length_cons]
    omega

/-- **A text stays as it is exactly if no backslash is dropped.** -/
theorem unescape_eq_self_iff {text : List Char} (whole : IsWhole text) :
    unescape drops text = text ↔ ∀ char ∈ escaped text, drops char = false := by
  induction whole with
  | nil => exact ⟨fun _ => nofun, fun _ => rfl⟩
  | plain noBackslash _ ih =>
    rw [unescape_plain noBackslash, escaped_plain noBackslash, ← ih, List.cons_inj_right]
  | @escape rest char _ ih =>
    rw [unescape_escape, escaped_escape, List.forall_mem_cons, ← ih]
    cases here : drops char with
    | false => simp
    | true =>
      refine iff_of_false (fun equal => ?_) fun both => nomatch both.1
      have shorter : (unescape drops rest).length ≤ rest.length := length_unescape_le rest
      have lengths := congrArg List.length equal
      simp only [if_true, List.singleton_append, List.length_cons] at lengths
      omega

end Backslashes

/-! ### Runs of backslashes -/

/-- A character stands behind a run of an odd number of backslashes. -/
def StandsBehindOddRun (char : Char) (text : List Char) : Prop :=
  ∃ before count after, text = before ++ (List.replicate (2 * count + 1) '\\' ++ char :: after) ∧
    before.getLast? ≠ some '\\'

theorem isWhole_of_getLast? (text : List Char) (ends : text.getLast? ≠ some '\\') : IsWhole text := by
  fun_induction escaped text with
  | case1 => exact .nil
  | case2 char => exact .plain (by simpa using ends) .nil
  | case3 second rest ih =>
    refine .escape second ?_
    cases rest with
    | nil => exact .nil
    | cons third rest => exact ih (by simpa using ends)
  | case4 first second rest noBackslash ih => exact .plain noBackslash (ih (by simpa using ends))

theorem mem_escaped_replicate (char : Char) (after : List Char) (count : Nat) :
    char ∈ escaped (List.replicate (2 * count + 1) '\\' ++ char :: after) := by
  induction count with
  | zero => exact List.mem_cons_self
  | succ count ih => exact List.mem_cons_of_mem _ ih

/-- **A character is escaped exactly if it stands behind an odd run of backslashes.** -/
theorem mem_escaped_iff {char : Char} {text : List Char} :
    char ∈ escaped text ↔ StandsBehindOddRun char text := by
  constructor
  · intro mem
    fun_induction escaped text with
    | case1 => cases mem
    | case2 => cases mem
    | case3 second rest ih =>
      rcases List.mem_cons.mp mem with rfl | later
      · exact ⟨[], 0, rest, rfl, nofun⟩
      · obtain ⟨before, count, after, rfl, ends⟩ := ih later
        -- A pair of backslashes right in front of the run makes it longer.
        by_cases joins : before = [] ∧ second = '\\'
        · obtain ⟨rfl, rfl⟩ := joins
          exact ⟨[], count + 1, after, rfl, nofun⟩
        · refine ⟨'\\' :: second :: before, count, after, rfl, ?_⟩
          cases before with
          | nil => simpa using joins
          | cons first before => simpa using ends
    | case4 first second rest plain ih =>
      obtain ⟨before, count, after, split, ends⟩ := ih mem
      refine ⟨first :: before, count, after, by rw [split, List.cons_append], ?_⟩
      cases before with
      | nil => simpa using plain
      | cons second before => simpa using ends
  · rintro ⟨before, count, after, rfl, ends⟩
    rw [(isWhole_of_getLast? before ends).escaped_append]
    exact List.mem_append_right _ (mem_escaped_replicate char after count)

/-- Of a backslash and the character behind it one is escaped. -/
theorem mem_escaped_of_behind (before after : List Char) (char : Char) :
    char ∈ escaped (before ++ '\\' :: char :: after) ∨
      '\\' ∈ escaped (before ++ '\\' :: char :: after) := by
  fun_induction escaped before with
  | case1 => exact .inl List.mem_cons_self
  | case2 first =>
    by_cases backslash : first = '\\'
    · subst backslash
      exact .inr List.mem_cons_self
    · rw [List.singleton_append, escaped_plain backslash]
      exact .inl List.mem_cons_self
  | case3 second rest ih =>
    exact ih.imp (List.mem_cons_of_mem _) (List.mem_cons_of_mem _)
  | case4 first second rest noBackslash ih =>
    rw [List.cons_append, escaped_plain noBackslash]
    exact ih

theorem exists_behind_of_mem_escaped {char : Char} {text : List Char} (mem : char ∈ escaped text) :
    ∃ before after, text = before ++ '\\' :: char :: after := by
  fun_induction escaped text with
  | case1 => cases mem
  | case2 => cases mem
  | case3 second rest ih =>
    rcases List.mem_cons.mp mem with rfl | later
    · exact ⟨[], rest, rfl⟩
    · obtain ⟨before, after, rfl⟩ := ih later
      exact ⟨'\\' :: second :: before, after, rfl⟩
  | case4 first second rest noBackslash ih =>
    obtain ⟨before, after, split⟩ := ih mem
    exact ⟨first :: before, after, by rw [split, List.cons_append]⟩

/-! ### Literals -/

/-- The ways to write a literal without interpolation: between single quotes, or between delimiters of
its own, behind `%q` for a string and `%s` for a symbol. -/
inductive Verbatim where
  | quotes
  | percent (opening closing : Char)

namespace Verbatim

def opening : Verbatim → Char
  | quotes => '\x27'
  | percent opening _ => opening

def closing : Verbatim → Char
  | quotes => '\x27'
  | percent _ closing => closing

/-- What stands in front of the content. -/
def head (isSymbol : Bool) : Verbatim → List Char
  | quotes => if isSymbol then [':', '\x27'] else ['\x27']
  | percent opening _ => ['%', if isSymbol then 's' else 'q', opening]

/-- A backslash is dropped in front of a backslash and of the delimiters. -/
def drops (style : Verbatim) (char : Char) : Bool :=
  char = '\\' || char = style.opening || char = style.closing

theorem drops_eq_true_iff {style : Verbatim} {char : Char} :
    style.drops char = true ↔ char = '\\' ∨ char = style.opening ∨ char = style.closing := by
  simp only [drops, Bool.or_eq_true, decide_eq_true_eq, or_assoc]

/-- The text that a content stands for. -/
def value (style : Verbatim) (content : List Char) : List Char :=
  unescape style.drops content

/-- The characters in front of which the conversion drops a backslash. -/
def taken (isSymbol : Bool) : Verbatim → Char → Bool
  | quotes, char => char = '\\' || char = '\x27'
  | percent _ _, char => !isSymbol && (char = '\\' || char = '\x27')

theorem taken_eq_drops_iff {opening closing char : Char} (noBackslash : char ≠ '\\') :
    (percent opening closing).taken false char = (percent opening closing).drops char ↔
      (char = '\x27' ↔ char = opening ∨ char = closing) := by
  have taken : (percent opening closing).taken false char = true ↔ char = '\x27' := by
    simp [Verbatim.taken, noBackslash]
  rw [Bool.eq_iff_iff, taken, drops_eq_true_iff, or_iff_right noBackslash]
  rfl

/-- The contents that are misread. -/
inductive Misreads : Verbatim → Bool → List Char → Prop
  /-- Behind `%q`, only a single quote is taken for a delimiter. -/
  | string {opening closing char : Char} {content : List Char} (noBackslash : char ≠ '\\')
      (behind : StandsBehindOddRun char content)
      (mistaken : ¬ (char = '\x27' ↔ char = opening ∨ char = closing)) :
      Misreads (percent opening closing) false content
  /-- Behind `%s`, no backslash is dropped. -/
  | symbol {opening closing char : Char} {before after : List Char}
      (dropped : (percent opening closing).drops char = true) :
      Misreads (percent opening closing) true (before ++ '\\' :: char :: after)

end Verbatim

/-- A literal with a content, a symbol or a string. It may be cut into parts anywhere but behind the
backslash of an escape. -/
structure IsVerbatim (isSymbol : Bool) (style : Verbatim) (content : List Char) (literal : Concrete) :
    Prop where
  type : literal.type = quotedType isSymbol
  written : literal.text.toList = style.head isSymbol ++ (content ++ [style.closing])
  known : ∀ part ∈ literal.code, part.type = "string_content"
  whole : ∀ part ∈ literal.code, IsWhole part.text.toList
  parts : literal.code.flatMap (fun part => part.text.toList) = content

open Verbatim (quotes percent taken_eq_drops_iff drops_eq_true_iff)

section Reading

variable {isSymbol : Bool} {style : Verbatim} {content : List Char} {literal : Concrete}

theorem dropBackslashes_eq_unescape (text : List Char) :
    dropBackslashes text = unescape (fun char => char = '\\' || char = '\x27') text := by
  fun_induction dropBackslashes text with
  | case1 => rfl
  | case2 => rfl
  | case3 first second rest dropped ih =>
    obtain ⟨rfl, marked⟩ := dropped
    rw [unescape_escape, if_pos (by simpa using marked), ih, List.singleton_append]
  | case4 first second rest kept ih =>
    rw [ih]
    by_cases backslash : first = '\\'
    · subst backslash
      have unmarked : ¬ (second = '\\' ∨ second = '\x27') := fun marked => kept ⟨rfl, marked⟩
      rw [unescape_escape, if_neg (by simpa using unmarked),
        unescape_plain fun backslash => unmarked (.inl backslash)]
      rfl
    · rw [unescape_plain backslash]

theorem isWhole_flatMap {parts : List Concrete} (whole : ∀ part ∈ parts, IsWhole part.text.toList) :
    IsWhole (parts.flatMap fun part => part.text.toList) := by
  induction parts with
  | nil => exact .nil
  | cons part rest ih =>
    obtain ⟨here, later⟩ := List.forall_mem_cons.mp whole
    exact here.append (ih later)

theorem unescape_flatMap {drops : Char → Bool} {parts : List Concrete}
    (whole : ∀ part ∈ parts, IsWhole part.text.toList) :
    unescape drops (parts.flatMap fun part => part.text.toList) =
      parts.flatMap fun part => unescape drops part.text.toList := by
  induction parts with
  | nil => rfl
  | cons part rest ih =>
    obtain ⟨here, later⟩ := List.forall_mem_cons.mp whole
    rw [List.flatMap_cons, List.flatMap_cons, here.unescape_append, ih later]

theorem IsVerbatim.isWhole (written : IsVerbatim isSymbol style content literal) : IsWhole content :=
  written.parts ▸ isWhole_flatMap written.whole

/-- Behind `%s`, the conversion takes a content as it stands. -/
theorem unescape_taken_symbol (opening closing : Char) (whole : IsWhole content) :
    unescape ((percent opening closing).taken true) content = content :=
  (unescape_eq_self_iff whole).mpr fun _ _ => rfl

/-- **The value of a literal is its content without the backslashes that are dropped.** -/
theorem literalValue_of_isVerbatim (written : IsVerbatim isSymbol style content literal) :
    literalValue (isSingleQuoted literal.text.toList) literal.code =
      .ok (String.ofList (unescape (style.taken isSymbol) content)) := by
  have single : isSingleQuoted literal.text.toList = true →
      literalValue (isSingleQuoted literal.text.toList) literal.code =
        .ok (String.ofList (unescape (fun char => char = '\\' || char = '\x27') content)) := by
    intro quoted
    rw [quoted, literalValue, if_pos rfl, ← written.parts, unescape_flatMap written.whole]
    simp only [dropBackslashes_eq_unescape]
  cases style with
  | quotes =>
    refine single ?_
    rw [written.written]
    cases isSymbol <;> rfl
  | percent opening closing =>
    cases isSymbol with
    | false =>
      refine single ?_
      rw [written.written]
      rfl
    | true =>
      have double : isSingleQuoted literal.text.toList = false := by
        rw [written.written]
        rfl
      rw [double, unescape_taken_symbol opening closing written.isWhole, ← written.parts,
        literalValue, if_neg Bool.false_ne_true, mapM_partValue written.known, List.flatMap_def]
      rfl

theorem convert_of_isVerbatim (written : IsVerbatim isSymbol style content literal) (bound : Names) :
    convert planner literal bound =
      .ok (if isSymbol then
          .symbol (String.ofList (unescape (style.taken isSymbol) content)) (some literal.location)
        else .string (String.ofList (unescape (style.taken isSymbol) content)) (some literal.location),
        bound) := by
  refine convert_of_literalValue written.type (fun part mem => ?_)
    (literalValue_of_isVerbatim written) bound
  simp [written.known part mem, partTypes]

theorem unescape_taken_string_iff {opening closing : Char} (whole : IsWhole content) :
    unescape ((percent opening closing).taken false) content =
        (percent opening closing).value content ↔
      ¬ (percent opening closing).Misreads false content := by
  have same : (percent opening closing).taken false '\\' =
      (percent opening closing).drops '\\' := rfl
  rw [Verbatim.value, unescape_eq_iff same whole]
  constructor
  · rintro agree ⟨noBackslash, behind, mistaken⟩
    exact mistaken ((taken_eq_drops_iff noBackslash).mp (agree _ (mem_escaped_iff.mpr behind)))
  · intro right char mem
    by_cases backslash : char = '\\'
    · rw [backslash]
      rfl
    · refine (taken_eq_drops_iff backslash).mpr (by_contra fun mistaken => ?_)
      exact right (.string backslash (mem_escaped_iff.mp mem) mistaken)

theorem unescape_taken_symbol_iff {opening closing : Char} (whole : IsWhole content) :
    unescape ((percent opening closing).taken true) content =
        (percent opening closing).value content ↔
      ¬ (percent opening closing).Misreads true content := by
  rw [unescape_taken_symbol opening closing whole, eq_comm, Verbatim.value,
    unescape_eq_self_iff whole]
  constructor
  · intro none misread
    cases misread with
    | @symbol _ _ char before after dropped =>
      rcases mem_escaped_of_behind before after char with mem | mem
      · exact Bool.false_ne_true ((none _ mem).symm.trans dropped)
      · exact Bool.false_ne_true ((none _ mem).symm.trans (drops_eq_true_iff.mpr (.inl rfl)))
  · intro right char mem
    obtain ⟨before, after, rfl⟩ := exists_behind_of_mem_escaped mem
    exact Bool.eq_false_iff.mpr fun dropped => right (.symbol dropped)

/-- **A content is read for what it stands for exactly if it is not misread.** -/
theorem unescape_taken_eq_value_iff (whole : IsWhole content) :
    unescape (style.taken isSymbol) content = style.value content ↔
      ¬ style.Misreads isSymbol content := by
  cases style with
  | quotes =>
    have same : quotes.taken isSymbol = quotes.drops := by
      funext char
      rw [Verbatim.drops, Bool.or_assoc]
      exact congrArg (decide (char = '\\') || ·) (Bool.or_self _).symm
    rw [Verbatim.value, same]
    exact iff_of_true rfl nofun
  | percent opening closing =>
    cases isSymbol with
    | false => exact unescape_taken_string_iff whole
    | true => exact unescape_taken_symbol_iff whole

end Reading

/-! ### Values -/

/-- **When the value of a literal is right.** A literal without interpolation always has a value. It
is the text that its content stands for exactly if the content is not misread: behind `%q`, no odd run
of backslashes stands in front of a single quote that is no delimiter, or of a delimiter that is no
single quote; behind `%s`, no backslash stands in front of a backslash or a delimiter. So literals of
the same text give the same name between any delimiters, if none of them is misread. -/
theorem verbatim_value_iff {isSymbol : Bool} {style : Verbatim} {content : List Char}
    {literal : Concrete} (written : IsVerbatim isSymbol style content literal) (bound : Names) :
    (∃ value : String, convert planner literal bound =
        .ok (if isSymbol then .symbol value (some literal.location)
          else .string value (some literal.location), bound) ∧
      (value.toList = style.value content ↔ ¬ style.Misreads isSymbol content)) ∧
    ∀ (isSymbol' : Bool) (style' : Verbatim) (content' : List Char) (literal' : Concrete),
      IsVerbatim isSymbol' style' content' literal' → style'.value content' = style.value content →
      ¬ style.Misreads isSymbol content → ¬ style'.Misreads isSymbol' content' →
      ∀ node node', Becomes literal node → Becomes literal' node' → ∀ pos pos',
        node.resolveAt pos = .ok (.known (String.ofList (style.value content))) ∧
        node'.resolveAt pos' = .ok (.known (String.ofList (style.value content))) := by
  have named {isSymbol : Bool} {style : Verbatim} {content : List Char} {literal : Concrete}
      (written : IsVerbatim isSymbol style content literal)
      (right : ¬ style.Misreads isSymbol content) {node : Node} (becomes : Becomes literal node)
      (pos : Nat) : node.resolveAt pos = .ok (.known (String.ofList (style.value content))) := by
    obtain ⟨bound, last, converts⟩ := becomes
    cases converts.symm.trans (convert_of_isVerbatim written bound)
    rw [(unescape_taken_eq_value_iff written.isWhole).mpr right]
    cases isSymbol <;> rfl
  refine ⟨⟨_, convert_of_isVerbatim written bound, ?_⟩, ?_⟩
  · rw [String.toList_ofList]
    exact unescape_taken_eq_value_iff written.isWhole
  · intro isSymbol' style' content' literal' written' sameText right right' node node' becomes becomes'
      pos pos'
    exact ⟨named written right becomes pos, sameText ▸ named written' right' becomes' pos'⟩

/-- A literal of the first line whose content is one part. -/
def verbatimLiteral (isSymbol : Bool) (style : Verbatim) (content : List Char) : Concrete :=
  let opening := style.head isSymbol
  onLine none (quotedType isSymbol) (String.ofList (opening ++ (content ++ [style.closing]))) 0
    [onLine none "string_content" (String.ofList content) opening.length []]

theorem isVerbatim_verbatimLiteral {isSymbol : Bool} {style : Verbatim} {content : List Char}
    (ends : content.getLast? ≠ some '\\') :
    IsVerbatim isSymbol style content (verbatimLiteral isSymbol style content) where
  type := rfl
  written := String.toList_ofList
  known := List.forall_mem_singleton.mpr rfl
  whole := by
    refine List.forall_mem_singleton.mpr ?_
    show IsWhole (String.ofList content).toList
    rw [String.toList_ofList]
    exact isWhole_of_getLast? content ends
  parts := by
    show (String.ofList content).toList ++ [] = content
    rw [String.toList_ofList, List.append_nil]

/-- The symbol `:'a\\\'s'`. -/
def apostropheSymbol : Concrete :=
  verbatimLiteral true quotes "a\\\\\\'s".toList

/-- The string `%q{a\\'s}`. -/
def apostropheString : Concrete :=
  verbatimLiteral false (percent '\x7b' '\x7d') "a\\\\'s".toList

/-- Both literals have the text `a\'s`: in either of them a backslash stands for itself. -/
theorem verbatim_value_apostrophe :
    IsVerbatim true quotes "a\\\\\\'s".toList apostropheSymbol ∧
      IsVerbatim false (percent '\x7b' '\x7d') "a\\\\'s".toList apostropheString ∧
      (∃ value : String, convert planner apostropheString [] =
        .ok (.string value (some ⟨1, 0⟩), []) ∧ value.toList = "a\\'s".toList) ∧
      ∀ node node', Becomes apostropheSymbol node → Becomes apostropheString node' → ∀ pos pos',
        node.resolveAt pos = .ok (.known "a\\'s") ∧ node'.resolveAt pos' = .ok (.known "a\\'s") := by
  have symbol : IsVerbatim true quotes "a\\\\\\'s".toList apostropheSymbol :=
    isVerbatim_verbatimLiteral (by decide)
  have string : IsVerbatim false (percent '\x7b' '\x7d') "a\\\\'s".toList apostropheString :=
    isVerbatim_verbatimLiteral (by decide)
  have symbolRight : ¬ quotes.Misreads true "a\\\\\\'s".toList := nofun
  have stringRight : ¬ (percent '\x7b' '\x7d').Misreads false "a\\\\'s".toList := by
    rw [← unescape_taken_eq_value_iff string.isWhole]
    decide
  obtain ⟨⟨value, converts, right⟩, -⟩ := verbatim_value_iff string []
  refine ⟨symbol, string, ⟨value, converts, right.mpr stringRight⟩, ?_⟩
  intro node node' becomes becomes' pos pos'
  exact (verbatim_value_iff symbol []).2 _ _ _ _ string (by decide) symbolRight stringRight node node'
    becomes becomes' pos pos'

/-- The string `%q(it\'s)`. -/
def keptApostrophe : Concrete :=
  verbatimLiteral false (percent '(' ')') "it\\'s".toList

/-- The string `%q(a\)b)`. -/
def escapedDelimiter : Concrete :=
  verbatimLiteral false (percent '(' ')') "a\\)b".toList

/-- The symbol `%s(a\\b)`. -/
def escapedBackslash : Concrete :=
  verbatimLiteral true (percent '(' ')') "a\\\\b".toList

/-- **Some literals are misread:** `keptApostrophe` without its backslash, and `escapedDelimiter` and
`escapedBackslash` with the backslash of an escape. -/
theorem verbatim_misread :
    (IsVerbatim false (percent '(' ')') "it\\'s".toList keptApostrophe ∧
      (percent '(' ')').value "it\\'s".toList = "it\\'s".toList ∧
      convert planner keptApostrophe [] = .ok (.string "it's" (some ⟨1, 0⟩), [])) ∧
    (IsVerbatim false (percent '(' ')') "a\\)b".toList escapedDelimiter ∧
      (percent '(' ')').value "a\\)b".toList = "a)b".toList ∧
      convert planner escapedDelimiter [] = .ok (.string "a\\)b" (some ⟨1, 0⟩), [])) ∧
    (IsVerbatim true (percent '(' ')') "a\\\\b".toList escapedBackslash ∧
      (percent '(' ')').value "a\\\\b".toList = "a\\b".toList ∧
      convert planner escapedBackslash [] = .ok (.symbol "a\\\\b" (some ⟨1, 0⟩), [])) := by
  have apostrophe : IsVerbatim false (percent '(' ')') "it\\'s".toList keptApostrophe :=
    isVerbatim_verbatimLiteral (by decide)
  have delimiter : IsVerbatim false (percent '(' ')') "a\\)b".toList escapedDelimiter :=
    isVerbatim_verbatimLiteral (by decide)
  have backslash : IsVerbatim true (percent '(' ')') "a\\\\b".toList escapedBackslash :=
    isVerbatim_verbatimLiteral (by decide)
  refine ⟨⟨apostrophe, by decide, ?_⟩, ⟨delimiter, by decide, ?_⟩, backslash, by decide, ?_⟩
  · exact (convert_of_isVerbatim apostrophe []).trans rfl
  · exact (convert_of_isVerbatim delimiter []).trans rfl
  · exact (convert_of_isVerbatim backslash []).trans rfl

end LetShadow.Ruby
