/-
**Styles.**

* `Style` — effects that are switched on or off, colours and a link.
* `Style.ofWords` — **the style that words describe,** read from the left; a later word outweighs an
  earlier one.
* `Style.description` — the words for a style in their normal order and form.
* `normalName` — **the name of a style in its normal form,** in which names are compared: the
  description of what it describes, or the name itself in small letters.
-/

import LetShadow.Report.Colour
import LetShadow.Text.Blank

namespace LetShadow.Report

/-! ### Effects -/

/-- The effects of text. -/
inductive Effect where
  | bold
  | dim
  | italic
  | underline
  | blink
  | blinkFast
  | reverse
  | conceal
  | strike
  | underlineTwice
  | frame
  | encircle
  | overline
deriving DecidableEq, Repr

/-- The effects. -/
def effects : List Effect :=
  [ .bold, .dim, .italic, .underline, .blink, .blinkFast, .reverse, .conceal, .strike,
    .underlineTwice, .frame, .encircle, .overline ]

/-- The word for an effect. -/
def Effect.word : Effect → String
  | .bold => "bold"
  | .dim => "dim"
  | .italic => "italic"
  | .underline => "underline"
  | .blink => "blink"
  | .blinkFast => "blink2"
  | .reverse => "reverse"
  | .conceal => "conceal"
  | .strike => "strike"
  | .underlineTwice => "underline2"
  | .frame => "frame"
  | .encircle => "encircle"
  | .overline => "overline"

/-- The short word for an effect, if it has one. -/
def Effect.shortWord? : Effect → Option String
  | .bold => some "b"
  | .dim => some "d"
  | .italic => some "i"
  | .underline => some "u"
  | .reverse => some "r"
  | .conceal => some "c"
  | .strike => some "s"
  | .underlineTwice => some "uu"
  | .overline => some "o"
  | .blink | .blinkFast | .frame | .encircle => none

/-- Does a word stand for an effect? -/
def Effect.answersTo (effect : Effect) (word : String) : Bool :=
  word = effect.word || effect.shortWord? = some word

/-- The effect of a word. -/
def Effect.ofWord? (word : List Char) : Option Effect :=
  effects.find? (·.answersTo (String.ofList word))

/-! ### Styles -/

/-- A style of text. What is not set is left as it is around the text. -/
structure Style where
  /-- The effects that are set, and whether they are on, each once and in a fixed order. -/
  settings : List (Effect × Bool) := []
  colour : Option (List Char) := none
  background : Option (List Char) := none
  link : Option (List Char) := none
deriving DecidableEq, Repr

namespace Style

/-- Switches an effect on or off. -/
def set (style : Style) (effect : Effect) (on : Bool) : Style :=
  let settings := (effect, on) :: style.settings
  { style with
    settings := effects.filterMap fun other =>
      (settings.lookup other).map fun on => (other, on) }

/-- Adds what a word describes by itself: an effect or a colour. -/
def add (style : Style) (word : List Char) : Except StyleFault Style :=
  match Effect.ofWord? (Text.lowered word) with
  | some effect => .ok (style.set effect true)
  | none => do return { style with colour := some (← readColour word) }

/-- Switches off the effect of a word. -/
def remove (style : Style) (word : List Char) : Except StyleFault Style :=
  match Effect.ofWord? word with
  | some effect => .ok (style.set effect false)
  | none => .error .unknownWord

/-- The style that words describe, on top of a style. -/
def addAll (style : Style) : List (List Char) → Except StyleFault Style
  | [] => .ok style
  | [word] => style.add word
  | word :: next :: rest => do
    let lead := String.ofList (Text.lowered word)
    if lead = "on" then addAll { style with background := some (← readColour next) } rest
    else if lead = "not" then addAll (← style.remove next) rest
    else if lead = "link" then addAll { style with link := some next } rest
    else addAll (← style.add word) (next :: rest)

/-- The style that words describe. The word `none` by itself describes the style that sets nothing.
-/
def ofWords (words : List (List Char)) : Except StyleFault Style :=
  if words = ["none".toList] then .ok {} else addAll {} words

/-- The style that a text describes. -/
def ofText (text : List Char) : Except StyleFault Style :=
  ofWords (Text.words text)

/-- The words for an effect that is switched on or off. -/
def settingWords (effect : Effect) (on : Bool) : List (List Char) :=
  if on then [effect.word.toList] else ["not".toList, effect.word.toList]

/-- The words for a style. -/
def words (style : Style) : List (List Char) :=
  style.settings.flatMap (fun (effect, on) => settingWords effect on) ++
    style.colour.toList ++
    (style.background.toList.flatMap fun colour => ["on".toList, colour]) ++
    (style.link.toList.flatMap fun link => ["link".toList, link])

/-- The words for a style, with blanks between them. -/
def description (style : Style) : List Char :=
  match style.words with
  | [] => "none".toList
  | words => [' '].intercalate words

end Style

/-! ### Normal names -/

/-- The name of a style in its normal form. -/
def normalName (name : List Char) : Except NumberFault (List Char) :=
  match Style.ofText name with
  | .ok style => .ok style.description
  | .error .unknownWord => .ok (Text.lowered (Text.trim Text.isBlank name))
  | .error (.badNumber fault) => .error fault

/-- Checks a text that may describe a style. Unknown words do no harm. -/
def checkStyle (text : List Char) : Except NumberFault Unit :=
  match Style.ofText text with
  | .error (.badNumber fault) => .error fault
  | _ => .ok ()

end LetShadow.Report
