/-
**Tags in text.**

A tag is a name between square brackets that begins with a lower-case letter, `#`, `/` or `@`. Of
the backslashes before a tag every two stand for one; one that is left over makes the tag plain
text. Brackets of any other kind are plain text.

* `cut` — **the tags of a text,** each with the text before it.
* `escape` — a text in which no tag takes effect.
-/

namespace LetShadow.Report

/-! ### Finding tags -/

/-- May the name of a tag begin with the character? -/
def beginsTag (char : Char) : Bool :=
  char.isLower || char = '#' || char = '/' || char = '@'

/-- What stands before the first closing bracket of a text, and what stands after it. No opening
bracket may stand before it. -/
def cutAtBracket? : List Char → Option (List Char × List Char)
  | [] => none
  | char :: rest =>
    if char = ']' then some ([], rest)
    else if char = '[' then none
    else (cutAtBracket? rest).map fun (before, after) => (char :: before, after)

/-- The name of the tag whose opening bracket has been read, and the text after the tag. -/
def tagName? : List Char → Option (List Char × List Char)
  | [] => none
  | char :: rest =>
    if beginsTag char then (cutAtBracket? rest).map fun (before, after) => (char :: before, after)
    else none

theorem length_lt_of_cutAtBracket? {text before after : List Char}
    (found : cutAtBracket? text = some (before, after)) : after.length < text.length := by
  induction text generalizing before with
  | nil => cases found
  | cons char rest ih =>
    rw [cutAtBracket?] at found
    split at found
    · cases found; simp
    · split at found
      · cases found
      · obtain ⟨⟨inner, _⟩, found, same⟩ := Option.map_eq_some_iff.1 found
        cases same
        have := ih found
        simp only [List.length_cons]; omega

/-- A tag is shorter than the text that it is read from. -/
theorem length_lt_of_tagName? {text name after : List Char}
    (found : tagName? text = some (name, after)) : after.length < text.length := by
  cases text with
  | nil => cases found
  | cons char rest =>
    rw [tagName?] at found
    split at found
    · obtain ⟨⟨inner, _⟩, found, same⟩ := Option.map_eq_some_iff.1 found
      cases same
      have := length_lt_of_cutAtBracket? found
      simp only [List.length_cons]; omega
    · cases found

/-- A tag: the plain text before it, the number of the backslashes between the two, and its name. -/
structure Tagged where
  before : List Char
  slashes : Nat
  name : List Char
deriving DecidableEq, Repr

/-- The tags of a text, and the plain text after them; `plain` is the plain text so far, in reverse.
-/
def cutFrom (plain text : List Char) : List Tagged × List Char :=
  match text with
  | [] => ([], plain.reverse)
  | char :: rest =>
    if char = '[' then
      match _found : tagName? rest with
      | some (name, after) =>
        let before := (plain.dropWhile (· = '\\')).reverse
        let slashes := (plain.takeWhile (· = '\\')).length
        let (tags, last) := cutFrom [] after
        (⟨before, slashes, name⟩ :: tags, last)
      | none => cutFrom (char :: plain) rest
    else cutFrom (char :: plain) rest
termination_by text.length
decreasing_by
  · have := length_lt_of_tagName? _found; simp only [List.length_cons]; omega
  · simp
  · simp

/-- The tags of a text, and the plain text after them. -/
def cut (text : List Char) : List Tagged × List Char :=
  cutFrom [] text

/-! ### Escaping -/

/-- A tag as a text. -/
def bracketed (name : List Char) : List Char :=
  '[' :: name ++ [']']

/-- A tag that takes no effect, with the text before it. -/
def Tagged.escaped (tagged : Tagged) : List Char :=
  tagged.before ++ List.replicate (2 * tagged.slashes + 1) '\\' ++ bracketed tagged.name

/-- A text that does not end in a single backslash: such a backslash is doubled. -/
def doubleLastSlash (text : List Char) : List Char :=
  match text.reverse with
  | '\\' :: '\\' :: _ => text
  | '\\' :: _ => text ++ ['\\']
  | _ => text

/-- A text whose tags are plain text. -/
def escape (text : List Char) : List Char :=
  let (tags, last) := cut text
  tags.flatMap Tagged.escaped ++ doubleLastSlash last

end LetShadow.Report
