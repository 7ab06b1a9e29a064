/-
**Emoji codes.**

Wherever text is shown, a name between two colons is replaced by the emoji of that name.

* `shownCode` — what a code is shown as. Its last word can ask for one of the two forms of an emoji.
* `showEmoji` — **a text as it is shown.** Codes are found from the left and do not overlap: the
  colons of a code belong to no other code, even if there is no emoji of its name.
-/

import LetShadow.Emoji.Named
import LetShadow.Text.Blank
import LetShadow.Text.Lower

namespace LetShadow.Report

/-- What stands before the first colon of a text, and what stands after it. No white space may stand
before the colon. -/
def cutAtColon? : List Char → Option (List Char × List Char)
  | [] => none
  | char :: rest =>
    if char = ':' then some ([], rest)
    else if Text.isBlank char then none
    else (cutAtColon? rest).map fun (before, after) => (char :: before, after)

/-- Cutting at a colon takes at least the colon. -/
theorem length_lt_of_cutAtColon? {text before after : List Char}
    (cut : cutAtColon? text = some (before, after)) : after.length < text.length := by
  induction text generalizing before with
  | nil => cases cut
  | cons char rest ih =>
    rw [cutAtColon?] at cut
    split at cut
    · cases cut; simp
    · split at cut
      · cases cut
      · obtain ⟨⟨inner, _⟩, found, same⟩ := Option.map_eq_some_iff.1 cut
        cases same
        have := ih found
        simp only [List.length_cons]; omega

/-- The words for the two forms of an emoji, with the selectors for them. -/
def forms : List (List Char × Char) :=
  [("-emoji".toList, Text.emojiSelector), ("-text".toList, Text.textSelector)]

/-- The name in a code, and the selector for the form of the emoji, if the code asks for one. -/
def cutForm (code : List Char) : List Char × List Char :=
  match forms.find? fun form => form.1.isSuffixOf code with
  | some (word, selector) => (code.take (code.length - word.length), [selector])
  | none => (code, [])

/-- What a code is shown as. -/
def shownCode (code : List Char) : List Char :=
  let (name, selector) := cutForm code
  match Emoji.emoji? (Text.lowered name) with
  | some emoji => emoji ++ selector
  | none => ':' :: code ++ [':']

/-- A text with the emoji for its codes. -/
def showEmoji (text : List Char) : List Char :=
  match text with
  | [] => []
  | char :: rest =>
    if char = ':' then
      match _cut : cutAtColon? rest with
      | some (name, after) => shownCode name ++ showEmoji after
      | none => ':' :: showEmoji rest
    else char :: showEmoji rest
termination_by text.length
decreasing_by
  · have := length_lt_of_cutAtColon? _cut; simp only [List.length_cons]; omega
  · simp
  · simp

end LetShadow.Report
