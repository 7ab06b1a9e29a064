/-
**Quoted texts in expressions.**

A text stands between single or double quotes, one or three of them at either end. Letters before it
tell how it is read: `b` as bytes, `r` without escapes, `f` with expressions inside.

* `skipQuoted` — **what follows a quoted text.** Only a long one may hold ends of lines without a
  backslash before them.
* `quotesFault?` — what is wrong with the content of quoted texts that follow each other.
-/

import LetShadow.Expression.Number
import LetShadow.Text.Digit

namespace LetShadow.Expression

/-! ### Ends -/

/-- The letters that may stand before a quoted text. -/
def quoteLetters : List String :=
  ["", "b", "r", "u", "f", "br", "rb", "fr", "rf"]

/-- May the letters stand before a quoted text? -/
def isQuoteLetters (letters : List Char) : Bool :=
  quoteLetters.contains (String.ofList (letters.map Char.toLower))

/-- Is the character a quote? -/
def isQuote (char : Char) : Bool :=
  char = '"' || char = '\x27'

/-- What follows a text between single quotes, which ends in its line; `line` is the line reached.
-/
def skipShort (quote : Char) (line : Nat) : List Char → Except ScanFault (List Char)
  | [] => .error (.unterminated false line)
  | ['\\'] => .error (.unterminated false line)
  | '\\' :: next :: rest => skipShort quote (if next = '\n' then line + 1 else line) rest
  | char :: rest =>
    if char = '\n' then .error (.unterminated false line)
    else if char = quote then .ok rest
    else skipShort quote line rest

/-- What follows a text between three quotes. -/
def skipLong (quote : Char) (line : Nat) : List Char → Except ScanFault (List Char)
  | [] => .error (.unterminated true line)
  | ['\\'] => .error (.unterminated true line)
  | '\\' :: next :: rest => skipLong quote (if next = '\n' then line + 1 else line) rest
  | char :: rest =>
    if char = quote ∧ rest.take 2 = [quote, quote] then .ok (rest.drop 2)
    else skipLong quote (if char = '\n' then line + 1 else line) rest

/-- What follows a quoted text, from the character after its first quote. -/
def skipQuoted (quote : Char) (line : Nat) (rest : List Char) : Except ScanFault (List Char) :=
  match rest with
  | first :: second :: after =>
    if first = quote ∧ second = quote then skipLong quote line after
    else if first = quote then .ok (second :: after)
    else skipShort quote line rest
  | _ => skipShort quote line rest

/-! ### Content -/

/-- A quoted text: the letters before it in small form, and what stands between its quotes. -/
structure Quoted where
  letters : List Char
  content : List Char
deriving DecidableEq, Repr

namespace Quoted

/-- A quoted text as it is written. -/
def ofText (text : List Char) : Quoted :=
  let letters := text.takeWhile fun char => !isQuote char
  let quoted := text.drop letters.length
  let marks := if quoted.length ≥ 6 ∧ (quoted.take 3).all (quoted.head? = some ·) then 3 else 1
  { letters := letters.map Char.toLower
    content := (quoted.drop marks).take (quoted.length - 2 * marks) }

/-- Is the text one of bytes? -/
def isBytes (quoted : Quoted) : Bool :=
  quoted.letters.contains 'b'

/-- Does the text hold expressions? -/
def isFormatted (quoted : Quoted) : Bool :=
  quoted.letters.contains 'f'

/-- Is every backslash in the text a plain character? -/
def isRaw (quoted : Quoted) : Bool :=
  quoted.letters.contains 'r'

end Quoted

/-- The number of hexadecimal digits after the letter of an escape. -/
def escapeDigits? : Char → Option Nat
  | 'x' => some 2
  | 'u' => some 4
  | 'U' => some 8
  | _ => none

/-- The width of a character where escapes count: one beyond ASCII counts as the longest escape. -/
def escapeWidth (char : Char) : Nat :=
  if char.toNat > 0x7F then 10 else 1

/-- The width of a backslash before a character. Before one beyond ASCII it counts as an escape. -/
def backslashWidth (next : Char) : Nat :=
  if next.toNat > 0x7F then 6 else 1

/-- The value of hexadecimal digits. -/
def hexValue (digits : List Char) : Nat :=
  digits.foldl (fun value digit => 16 * value + (Text.digitValue? 16 digit).getD 0) 0

/-- What is wrong with an escape of a code point, which begins at a position; `rest` stands after
its letter. -/
def codeEscapeFault? (position : Nat) (letter : Char) (digits : Nat) (rest : List Char) :
    Option QuoteFault :=
  let found := (rest.take digits).takeWhile isHexDigit
  let last := position + 1 + found.length
  if found.length < digits then some (.badEscape (.truncated letter digits) position last)
  else if hexValue found > 0x10FFFF then some (.badEscape .tooLarge position last)
  else none

/-- What is wrong with an escape that names a character. -/
def nameEscapeFault? (position : Nat) (rest : List Char) : Option QuoteFault :=
  match rest with
  | '{' :: after =>
    let name := after.takeWhile (· ≠ '}')
    let width := (name.map escapeWidth).foldl (· + ·) 0
    if name.length = after.length then
      some (.badEscape .namelessCharacter position (position + 2 + width))
    else if name = [] then some (.badEscape .namelessCharacter position (position + 2))
    else none
  | _ => some (.badEscape .namelessCharacter position (position + 1))

/-- The first fault of an escape in a text of characters, which begins at a position. -/
def escapeFault? (position : Nat) : List Char → Option QuoteFault
  | [] => none
  | ['\\'] => none
  | '\\' :: letter :: rest =>
    let fault :=
      if letter = 'N' then nameEscapeFault? position rest
      else (escapeDigits? letter).bind fun digits => codeEscapeFault? position letter digits rest
    fault <|> escapeFault? (position + backslashWidth letter + escapeWidth letter) rest
  | char :: rest => escapeFault? (position + escapeWidth char) rest

/-- The first fault of an escape in a text of bytes, which begins at a position. -/
def byteEscapeFault? (position : Nat) : List Char → Option QuoteFault
  | [] => none
  | ['\\'] => none
  | '\\' :: letter :: rest =>
    if letter = 'x' ∧ !((rest.take 2).all isHexDigit ∧ (rest.take 2).length = 2) then
      some (.badByteEscape position)
    else byteEscapeFault? (position + 2) rest
  | _ :: rest => byteEscapeFault? (position + 1) rest

/-- What is wrong with the content of a quoted text. -/
def Quoted.fault? (quoted : Quoted) : Option QuoteFault :=
  if quoted.isBytes ∧ quoted.content.any (·.toNat > 0x7F) then some .notAscii
  else if quoted.isRaw ∨ quoted.isFormatted then none
  else if quoted.isBytes then byteEscapeFault? 0 quoted.content
  else escapeFault? 0 quoted.content

/-- What is wrong with quoted texts that follow each other, the first perhaps after another one. What
is wrong with the expressions inside a text is for `format?` to tell. -/
def quotesFault? (format? : Quoted → Option Fault) (before : Option Quoted) :
    List Quoted → Option Fault
  | [] => none
  | quoted :: rest =>
    let mixed := before.any fun other => other.isBytes != quoted.isBytes
    quoted.fault?.map .quote <|>
      (if mixed then some (.quote .mixed) else none) <|>
      (if quoted.isFormatted then format? quoted else none) <|>
      quotesFault? format? (some quoted) rest

end LetShadow.Expression
