/-
**Colours.**

* `readColour` — **the colour that a word names:** a known name, `#` with six hexadecimal digits, a
  number after `color`, or three numbers after `rgb`. A number is at most 255. Capital letters count
  as small ones, and a colour is kept as it is written in small letters.
-/

import LetShadow.Text.Digit
import LetShadow.Text.DigitLimit
import LetShadow.Text.Lower

namespace LetShadow.Report

/-! ### Faults -/

/-- Why a number in a colour cannot be read. -/
inductive NumberFault where
  | missing
  | tooManyDigits (count : Nat)
deriving DecidableEq, Repr

/-- The report of a number that cannot be read. -/
def NumberFault.message : NumberFault → String
  | .missing => "invalid literal for int() with base 10: ''"
  | .tooManyDigits count => Text.tooManyDigitsMessage count

/-- Why a text names no style. -/
inductive StyleFault where
  /-- Some word has no meaning in its place. -/
  | unknownWord
  /-- One of the three numbers of a colour cannot be read. -/
  | badNumber (fault : NumberFault)
deriving DecidableEq, Repr

/-! ### Names -/

/-- The names of colours. -/
def colourNames : List String :=
  [
    "default",
    "black", "red", "green", "yellow", "blue", "magenta", "cyan", "white", "bright_black",
    "bright_red", "bright_green", "bright_yellow", "bright_blue", "bright_magenta", "bright_cyan",
    "bright_white", "grey0", "gray0", "navy_blue", "dark_blue", "blue3", "blue1", "dark_green",
    "deep_sky_blue4", "dodger_blue3", "dodger_blue2", "green4", "spring_green4", "turquoise4",
    "deep_sky_blue3", "dodger_blue1", "green3", "spring_green3", "dark_cyan", "light_sea_green",
    "deep_sky_blue2", "deep_sky_blue1", "spring_green2", "cyan3", "dark_turquoise", "turquoise2",
    "green1", "spring_green1", "medium_spring_green", "cyan2", "cyan1", "dark_red", "deep_pink4",
    "purple4", "purple3", "blue_violet", "orange4", "grey37", "gray37", "medium_purple4",
    "slate_blue3", "royal_blue1", "chartreuse4", "dark_sea_green4", "pale_turquoise4", "steel_blue",
    "steel_blue3", "cornflower_blue", "chartreuse3", "cadet_blue", "sky_blue3", "steel_blue1",
    "pale_green3", "sea_green3", "aquamarine3", "medium_turquoise", "chartreuse2", "sea_green2",
    "sea_green1", "aquamarine1", "dark_slate_gray2", "dark_magenta", "dark_violet", "purple",
    "light_pink4", "plum4", "medium_purple3", "slate_blue1", "yellow4", "wheat4", "grey53",
    "gray53", "light_slate_grey", "light_slate_gray", "medium_purple", "light_slate_blue",
    "dark_olive_green3", "dark_sea_green", "light_sky_blue3", "sky_blue2", "dark_sea_green3",
    "dark_slate_gray3", "sky_blue1", "chartreuse1", "light_green", "pale_green1",
    "dark_slate_gray1", "red3", "medium_violet_red", "magenta3", "dark_orange3", "indian_red",
    "hot_pink3", "medium_orchid3", "medium_orchid", "medium_purple2", "dark_goldenrod",
    "light_salmon3", "rosy_brown", "grey63", "gray63", "medium_purple1", "gold3", "dark_khaki",
    "navajo_white3", "grey69", "gray69", "light_steel_blue3", "light_steel_blue", "yellow3",
    "dark_sea_green2", "light_cyan3", "light_sky_blue1", "green_yellow", "dark_olive_green2",
    "dark_sea_green1", "pale_turquoise1", "deep_pink3", "magenta2", "hot_pink2", "orchid",
    "medium_orchid1", "orange3", "light_pink3", "pink3", "plum3", "violet", "light_goldenrod3",
    "tan", "misty_rose3", "thistle3", "plum2", "khaki3", "light_goldenrod2", "light_yellow3",
    "grey84", "gray84", "light_steel_blue1", "yellow2", "dark_olive_green1", "honeydew2",
    "light_cyan1", "red1", "deep_pink2", "deep_pink1", "magenta1", "orange_red1", "indian_red1",
    "hot_pink", "dark_orange", "salmon1", "light_coral", "pale_violet_red1", "orchid2", "orchid1",
    "orange1", "sandy_brown", "light_salmon1", "light_pink1", "pink1", "plum1", "gold1",
    "navajo_white1", "misty_rose1", "thistle1", "yellow1", "light_goldenrod1", "khaki1", "wheat1",
    "cornsilk1", "grey100", "gray100", "grey3", "gray3", "grey7", "gray7", "grey11", "gray11",
    "grey15", "gray15", "grey19", "gray19", "grey23", "gray23", "grey27", "gray27", "grey30",
    "gray30", "grey35", "gray35", "grey39", "gray39", "grey42", "gray42", "grey46", "gray46",
    "grey50", "gray50", "grey54", "gray54", "grey58", "gray58", "grey62", "gray62", "grey66",
    "gray66", "grey70", "gray70", "grey74", "gray74", "grey78", "gray78", "grey82", "gray82",
    "grey85", "gray85", "grey89", "gray89", "grey93", "gray93" ]

/-! ### Numbers -/

/-- What stands in a word between an opening and a closing parenthesis, after its first letters. -/
def inParentheses? (letters word : List Char) : Option (List Char) :=
  if (letters ++ ['(']).isPrefixOf word ∧ word.getLast? = some ')' then
    some ((word.drop (letters.length + 1)).dropLast)
  else none

/-- The number that some decimal digits spell, of any script. -/
def digitsValue (digits : List Char) : Nat :=
  digits.foldl (fun value digit => 10 * value + (Text.decimalValue? digit).getD 0) 0

/-- The largest number in a colour. -/
def largest : Nat :=
  255

/-- Is the text six hexadecimal digits, with small letters? -/
def isHexColour (digits : List Char) : Bool :=
  digits.length = 6 && digits.all fun digit => digit.isDigit || ('a' ≤ digit && digit ≤ 'f')

/-- Is the text a number of one to three plain digits that is not too large? -/
def isColourNumber (digits : List Char) : Bool :=
  digits ≠ [] && digits.length ≤ 3 && digits.all Char.isDigit && digitsValue digits ≤ largest

/-- The parts of a text between its commas; `part` is the part begun so far, in reverse. -/
def commaPartsFrom (part : List Char) : List Char → List (List Char)
  | [] => [part.reverse]
  | char :: rest =>
    if char = ',' then part.reverse :: commaPartsFrom [] rest
    else commaPartsFrom (char :: part) rest

/-- The number that a part of a colour spells. -/
def readNumber (digits : List Char) : Except StyleFault Nat :=
  if digits = [] then .error (.badNumber .missing)
  else if digits.length > Text.greatestDigitCount then
    .error (.badNumber (.tooManyDigits digits.length))
  else .ok (digitsValue digits)

/-- Checks the three numbers of a colour, which stand between commas. All of them are read before
any is found too large. -/
def checkNumbers (text : List Char) : Except StyleFault Unit :=
  let parts := commaPartsFrom [] text
  if text = [] ∨ !text.all (fun char => char = ',' || (Text.decimalValue? char).isSome) then
    .error .unknownWord
  else if parts.length ≠ 3 then .error .unknownWord
  else do
    let numbers ← parts.mapM readNumber
    if numbers.all (· ≤ largest) then return else throw .unknownWord

/-! ### Colours -/

/-- Checks a colour in small letters. -/
def checkColour (name : List Char) : Except StyleFault Unit :=
  if colourNames.contains (String.ofList name) then .ok ()
  else if name.head? = some '#' ∧ isHexColour (name.drop 1) then .ok ()
  else
    match inParentheses? "rgb".toList name with
    | some numbers => checkNumbers numbers
    | none =>
      match inParentheses? "color".toList name with
      | some number => if isColourNumber number then .ok () else .error .unknownWord
      | none => .error .unknownWord

/-- The colour that a word names. -/
def readColour (word : List Char) : Except StyleFault (List Char) := do
  let name := Text.lowered word
  checkColour name
  return name

end LetShadow.Report
