/-
**Text with style tags.**

A tag sets the style of the text after it, up to the tag that closes it, and is not shown itself. A
closing tag begins with a slash. By itself it closes the innermost open tag; with a name it closes
the innermost open tag of that name. Open tags need not be closed.

* `shownText` — a text as it is shown, without styles: tags vanish, emoji codes are replaced in the
  plain text between them, and control characters are dropped.
* `readMarkup` — **the text with its styled parts.** A closing tag that closes nothing is a fault.
* `shown` — **the text alone,** once its styles have been checked as well.
-/

import LetShadow.Report.Action
import LetShadow.Report.Control
import LetShadow.Report.Emoji
import LetShadow.Report.Span
import LetShadow.Report.Tag

namespace LetShadow.Report

/-! ### Faults -/

/-- Why a text with tags cannot be shown. Positions are those of tags in the text. -/
inductive MarkupFault where
  /-- A closing tag without a name, and no tag is open. -/
  | nothingOpen (position : Nat)
  /-- A closing tag with a name, and no tag of that name is open. -/
  | notOpen (tag : List Char) (position : Nat)
  /-- A number cannot be read in a colour that a tag names. -/
  | badNumber (fault : NumberFault)
  /-- The parameters of an action are wrong. -/
  | badAction (fault : ActionFault)
deriving DecidableEq, Repr

/-- The report of a fault. -/
def MarkupFault.message : MarkupFault → String
  | .nothingOpen position =>
    "closing tag '[/]' at position " ++ toString position ++ " has nothing to close"
  | .notOpen tag position =>
    "closing tag '" ++ String.ofList (bracketed tag) ++ "' at position " ++ toString position ++
      " doesn't match any open tag"
  | .badNumber fault => fault.message
  | .badAction fault => fault.message

/-! ### Plain text -/

/-- A plain text without the backslash in front of an opening bracket. -/
def dropBracketSlashes : List Char → List Char
  | [] => []
  | [char] => [char]
  | first :: second :: rest =>
    if first = '\\' ∧ second = '[' then '[' :: dropBracketSlashes rest
    else first :: dropBracketSlashes (second :: rest)

/-- The plain text between two tags, as it is shown. -/
def shownPlain (text : List Char) : List Char :=
  dropControls (showEmoji (dropBracketSlashes text))

namespace Tagged

/-- Is the tag plain text? -/
def isPlain (tagged : Tagged) : Bool :=
  tagged.slashes % 2 = 1

/-- The number of characters of a tag with the text before it. -/
def length (tagged : Tagged) : Nat :=
  tagged.before.length + tagged.slashes + (bracketed tagged.name).length

/-- The position of a tag after its backslashes, if it stands with the text before it at `start`. -/
def position (tagged : Tagged) (start : Nat) : Nat :=
  start + tagged.before.length + tagged.slashes

/-- A tag with the text before it, as it is shown. -/
def shown (tagged : Tagged) : List Char :=
  shownPlain tagged.before ++ List.replicate (tagged.slashes / 2) '\\' ++
    if tagged.isPlain then shownPlain (bracketed tagged.name) else []

end Tagged

/-- A text with tags as it is shown. -/
def shownText (text : List Char) : List Char :=
  let (tags, last) := cut text
  tags.flatMap Tagged.shown ++ shownPlain last

/-! ### Opening and closing -/

/-- A tag that is open: its name in normal form, what follows an equals sign in it, and where the
text after it begins. -/
structure OpenTag where
  name : List Char
  parameters : Option (List Char)
  start : Nat
deriving DecidableEq, Repr

/-- Does the tag name an action? -/
def OpenTag.isAction (tag : OpenTag) : Bool :=
  tag.name.head? = some '@'

/-- The words that describe the style of a tag. -/
def OpenTag.words (tag : OpenTag) : List Char :=
  match tag.parameters with
  | none => tag.name
  | some parameters => tag.name ++ ' ' :: parameters

/-- The part of a text that a tag gives its style, up to `stop`. -/
def OpenTag.span (tag : OpenTag) (stop : Nat) : Span where
  start := tag.start
  stop
  words := tag.words

/-- The tags that are open, innermost first, and the parts of those that are closed, latest first.
-/
structure Marks where
  opened : List OpenTag := []
  spans : List Span := []
deriving DecidableEq, Repr

namespace Marks

/-- The normal form of a name. -/
def nameOf (name : List Char) : Except MarkupFault (List Char) :=
  (normalName name).mapError .badNumber

/-- The name of a tag and what follows the first equals sign in it. -/
def splitTag (tag : List Char) : List Char × Option (List Char) :=
  (tag.takeWhile (· ≠ '='), (tag.dropWhile (· ≠ '=')).tail?)

/-- Opens a tag. -/
def opening (marks : Marks) (offset : Nat) (name : List Char) (parameters : Option (List Char)) :
    Except MarkupFault Marks := do
  let tag : OpenTag := { name := ← nameOf name, parameters, start := offset }
  return { marks with opened := tag :: marks.opened }

/-- Closes an open tag. An action has no style, but its parameters are checked. -/
def closing (marks : Marks) (offset : Nat) (tag : OpenTag) : Except MarkupFault Marks := do
  let opened := marks.opened.erase tag
  if tag.isAction then
    (checkAction (tag.parameters.getD [])).mapError .badAction
    return { marks with opened }
  else return { opened, spans := tag.span offset :: marks.spans }

/-- Reads a tag at a position; what is shown before it has `offset` characters. -/
def read (marks : Marks) (position offset : Nat) (tag : List Char) : Except MarkupFault Marks :=
  match splitTag tag with
  | ('/' :: name, _) =>
    if (Text.words name).isEmpty then
      match marks.opened with
      | [] => .error (.nothingOpen position)
      | innermost :: _ => marks.closing offset innermost
    else do
      let name ← nameOf name
      match marks.opened.find? (·.name = name) with
      | none => throw (.notOpen tag position)
      | some found => marks.closing offset found
  | (name, parameters) => marks.opening offset name parameters

/-- Reads tags; the first stands at `position` with its text, after `offset` shown characters. -/
def readAll (marks : Marks) (position offset : Nat) : List Tagged → Except MarkupFault Marks
  | [] => .ok marks
  | tagged :: rest => do
    let stop := offset + tagged.shown.length
    let marks ←
      if tagged.isPlain then .ok marks
      else marks.read (tagged.position position) stop tagged.name
    marks.readAll (position + tagged.length) stop rest

/-- The styled parts of a text with `length` characters, in the order of their starts; of two with
one start the one that is closed last comes first. Open tags reach up to the end. -/
def allSpans (marks : Marks) (length : Nat) : List Span :=
  let spans := marks.opened.foldl (fun spans tag => tag.span length :: spans) marks.spans
  spans.mergeSort fun first second => first.start ≤ second.start

end Marks

/-! ### Showing -/

/-- A text with tags, with its styled parts. -/
def readMarkup (text : List Char) : Except MarkupFault Marked := do
  let marks ← Marks.readAll {} 0 0 (cut text).1
  let text := shownText text
  return { text, spans := marks.allSpans text.length }

/-- A text with styled parts as it is shown; the styles are checked. -/
def Marked.shown (marked : Marked) : Except MarkupFault (List Char) := do
  (marked.check).mapError .badNumber
  return marked.text

/-- A text with tags as it is shown. -/
def shown (text : List Char) : Except MarkupFault (List Char) := do
  (← readMarkup text).shown

/-- A text between two tags that colour it red. -/
def red (text : List Char) : List Char :=
  "[red]".toList ++ text ++ "[/red]".toList

end LetShadow.Report
