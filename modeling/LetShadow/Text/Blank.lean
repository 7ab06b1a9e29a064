/-
**White space.**

* `isBlank` — white space between words: the white space of Unicode and the four separators of
  ASCII.
* `isNumeralBlank` — white space around a numeral, which among the ASCII characters is narrower.
* `words` — **the words of a text,** cut at white space.
-/

import LetShadow.Text.Ranges

namespace LetShadow.Text

/-- White space, of bidirectional type or separator class. -/
def blankRanges : Ranges :=
  [
    (0x9, 0xD), (0x1C, 0x20), (0x85, 0x85), (0xA0, 0xA0), (0x1680, 0x1680), (0x2000, 0x200A),
    (0x2028, 0x2029), (0x202F, 0x202F), (0x205F, 0x205F), (0x3000, 0x3000) ]

/-- Does the character separate words? -/
def isBlank (char : Char) : Bool :=
  blankRanges.holds char.toNat

/-- May the character stand around a numeral? The information separators of ASCII may not. -/
def isNumeralBlank (char : Char) : Bool :=
  isBlank char && !(0x1C ≤ char.toNat && char.toNat ≤ 0x1F)

/-- The words of a text; `word` is the word begun so far, in reverse. -/
def wordsFrom (word : List Char) : List Char → List (List Char)
  | [] => if word.isEmpty then [] else [word.reverse]
  | char :: rest =>
    if isBlank char then
      if word.isEmpty then wordsFrom [] rest else word.reverse :: wordsFrom [] rest
    else
      wordsFrom (char :: word) rest

/-- The words of a text, cut at white space; no word is empty. -/
def words (text : List Char) : List (List Char) :=
  wordsFrom [] text

/-- A text without what satisfies `drops` at both ends. -/
def trim (drops : Char → Bool) (text : List Char) : List Char :=
  ((text.dropWhile drops).reverse.dropWhile drops).reverse

end LetShadow.Text
