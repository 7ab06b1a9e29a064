/-
**The width of text in terminal cells.**

* `charWidth` — the number of cells of a character by itself: none, one or two.
* `width` — **the number of cells of a text.** Characters count for themselves, but for two that act
  on their neighbours: a joiner hides the character after it, and the selector for emoji widens a
  narrow character before it, if that can be shown as an emoji.
-/

import LetShadow.Text.Presentation
import LetShadow.Text.Wide
import LetShadow.Text.ZeroWidth

namespace LetShadow.Text

/-- The number of cells of a character. -/
def charWidth (char : Char) : Nat :=
  if isZeroWidth char then 0 else if isWide char then 2 else 1

/-- The joiner of emoji. -/
def joiner : Char :=
  '\u200D'

/-- The characters of a text that are not hidden by a joiner, without the joiners. -/
def unjoined : List Char → List Char
  | [] => []
  | [char] => if char = joiner then [] else [char]
  | char :: next :: rest =>
    if char = joiner then unjoined rest else char :: unjoined (next :: rest)

/-- The cells that the selector for emoji adds to the character that it acts on, if any. -/
def gain : Option Char → Nat
  | none => 0
  | some base => if isNarrowBase base then 1 else 0

/-- The number of cells of a text without joiners; a selector at its begin acts on `base`. -/
def widthAfter (base : Option Char) : List Char → Nat
  | [] => 0
  | char :: rest =>
    if char = emojiSelector then gain base + widthAfter none rest
    else if charWidth char = 0 then widthAfter base rest
    else charWidth char + widthAfter (some char) rest

/-- The number of cells of a text. -/
def width (text : List Char) : Nat :=
  widthAfter none (unjoined text)

end LetShadow.Text
