/-
**Escape sequences of Ruby literals.**

* `decodeEscape` — **the text that one escape sequence of a double-quoted literal stands for.**
  Escapes by number give the character of a code point; what names no code point is kept as written,
  and so are control and meta escapes.
* `dropBackslashes` — a single-quoted text without the backslash in front of a backslash or a quote.
-/

import LetShadow.Text.Numeral
import LetShadow.Text.Point

namespace LetShadow.Ruby

/-- Why an escape by number gives no character. -/
inductive NoCharacter where
  /-- The escape is kept as it is written. -/
  | keptAsWritten
  /-- The code point does not even fit into a machine integer. -/
  | tooLarge
deriving DecidableEq, Repr

/-- The least number above the machine integers. -/
def machineLimit : Int :=
  0x80000000

/-- The character that a number stands for. -/
def numberedChar (number : Int) : Except NoCharacter Char :=
  if number < -machineLimit ∨ machineLimit ≤ number then .error .tooLarge
  else if 0 ≤ number ∧ number < Text.pointCount then .ok (Text.charOf number.toNat)
  else .error .keptAsWritten

/-- The character whose code point a text spells in hexadecimal. -/
def hexChar (code : List Char) : Except NoCharacter Char :=
  match Text.numeral? 16 'x' code with
  | some number => numberedChar number
  | none => .error .keptAsWritten

/-- The character whose code point a text spells in octal. -/
def octalChar (code : List Char) : Except NoCharacter Char :=
  match Text.numeral? 8 'o' code with
  | some number => numberedChar number
  | none => .error .keptAsWritten

/-- The escapes by one letter, and the continuation of a line. -/
def letterEscapes : List (Char × List Char) :=
  [ ('n', ['\n']), ('t', ['\t']), ('s', [' ']), ('r', ['\r']), ('e', ['\x1b']), ('a', ['\x07']),
    ('b', ['\x08']), ('f', ['\x0c']), ('v', ['\x0b']), ('\n', []) ]

/-- A brace around the code points of an escape. -/
def isBrace (char : Char) : Bool :=
  char = '\x7b' || char = '\x7d'

/-- The text that an escape by number stands for; none if the escape is of another form. -/
def numericEscape? : List Char → Option (Except NoCharacter (List Char))
  | 'u' :: codes => some ((Text.words (Text.trim isBrace codes)).mapM hexChar)
  | 'x' :: code => some ((hexChar code).map fun char => [char])
  | first :: rest =>
    if Text.isDigit first then some ((octalChar (first :: rest)).map fun char => [char]) else none
  | [] => none

/-- The text that an escape by one character stands for: the character itself, unless the escape has
a meaning of its own. -/
def letterEscape (char : Char) : List Char :=
  (letterEscapes.lookup char).getD [char]

/-- A number that does not fit into a machine integer. Unlike any other that is no code point, it
keeps the literal from having a value. -/
structure OversizedCodePoint where
deriving DecidableEq, Repr

/-- The text that an escape sequence stands for. -/
def decodeEscape (sequence : List Char) : Except OversizedCodePoint (List Char) :=
  let body := sequence.drop 1
  match numericEscape? body with
  | some (.ok text) => .ok text
  | some (.error .keptAsWritten) => .ok sequence
  | some (.error .tooLarge) => .error {}
  | none =>
    match body with
    | [char] => .ok (letterEscape char)
    | _ => .ok sequence

/-- A text without the backslash in front of a backslash or a single quote. -/
def dropBackslashes : List Char → List Char
  | [] => []
  | [char] => [char]
  | first :: second :: rest =>
    if first = '\\' ∧ (second = '\\' ∨ second = '\x27') then second :: dropBackslashes rest
    else first :: dropBackslashes (second :: rest)

end LetShadow.Ruby
