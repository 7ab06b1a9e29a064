/-
**String and symbol literals of Ruby.**

A literal whose parts are text and escape sequences only has a value that is known; any other part
is an interpolation, whose value only running the code would tell.

* `literalValue` — **the value of a literal:** escape sequences are decoded between double quotes,
  and only backslashes are dropped between single ones.
* `isSingleQuoted` — which of the two a literal is, by the characters it begins with.
-/

import LetShadow.Ruby.Concrete
import LetShadow.Ruby.Escape

namespace LetShadow.Ruby

/-- The types of the parts of a literal whose value is known. -/
def partTypes : List String :=
  ["string_content", "escape_sequence"]

/-- A text without one leading colon. -/
def dropColon : List Char → List Char
  | ':' :: rest => rest
  | text => text

/-- Does the literal begin with a single quote or with `%q`, after a colon or not? -/
def isSingleQuoted (text : List Char) : Bool :=
  match dropColon text with
  | '\x27' :: _ => true
  | '%' :: 'q' :: _ => true
  | _ => false

/-- The text that one part stands for between double quotes. -/
def partValue (part : Concrete) : Except OversizedCodePoint (List Char) :=
  if part.type = "escape_sequence" then decodeEscape part.text.toList
  else .ok part.text.toList

/-- The value of a literal with known parts. -/
def literalValue (singleQuoted : Bool) (parts : List Concrete) : Except OversizedCodePoint String :=
  if singleQuoted then
    .ok (String.ofList (parts.flatMap fun part => dropBackslashes part.text.toList))
  else
    (parts.mapM partValue).map fun texts => String.ofList texts.flatten

end LetShadow.Ruby
