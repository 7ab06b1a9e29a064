/-
**Texts and numbers in JSON.**

A text or a number is read from the characters that follow its first one. Each reader tells how many
characters it took.

* `readText` — **a quoted text.** An escape of four hexadecimal digits must be followed by one more
  character, and two of them that form a surrogate pair are one code point.
* `readNumber?` — **a number:** an integer, unless a fraction or an exponent follows. A point
  without a digit after it, or an exponent without digits, does not belong to the number.
-/

import LetShadow.Json.Value
import LetShadow.Json.Fault
import LetShadow.Text.DigitLimit

namespace LetShadow.Json

/-! ### Texts -/

/-- The value of a hexadecimal digit. -/
def hexValue? (char : Char) : Option Nat :=
  if '0' ≤ char ∧ char ≤ '9' then some (char.toNat - '0'.toNat)
  else if 'a' ≤ char ∧ char ≤ 'f' then some (char.toNat - 'a'.toNat + 10)
  else if 'A' ≤ char ∧ char ≤ 'F' then some (char.toNat - 'A'.toNat + 10)
  else none

/-- The value of four hexadecimal digits. -/
def hexValue4? (first second third fourth : Char) : Option Nat := do
  let first ← hexValue? first
  let second ← hexValue? second
  let third ← hexValue? third
  let fourth ← hexValue? fourth
  return ((first * 16 + second) * 16 + third) * 16 + fourth

/-- The code point of an escape of one character. -/
def simpleEscape? : Char → Option Nat
  | '"' => some 0x22
  | '\\' => some 0x5C
  | '/' => some 0x2F
  | 'b' => some 0x08
  | 'f' => some 0x0C
  | 'n' => some 0x0A
  | 'r' => some 0x0D
  | 't' => some 0x09
  | _ => none

/-- Is the code point the first half of a surrogate pair? -/
def isHighSurrogate (point : Nat) : Bool :=
  0xD800 ≤ point && point ≤ 0xDBFF

/-- Is the code point the second half of a surrogate pair? -/
def isLowSurrogate (point : Nat) : Bool :=
  0xDC00 ≤ point && point ≤ 0xDFFF

/-- The code point of a surrogate pair. -/
def joinSurrogates (high low : Nat) : Nat :=
  0x10000 + (high - 0xD800) * 0x400 + (low - 0xDC00)

/-- The second half of a surrogate pair, if the characters after the first half escape one. One more
character must follow. An escape whose digits are wrong is a problem here. -/
def lowSurrogate? : List Char → Except Unit (Option Nat)
  | '\\' :: 'u' :: first :: second :: third :: fourth :: _ :: _ =>
    match hexValue4? first second third fourth with
    | none => .error ()
    | some point => .ok (if isLowSurrogate point then some point else none)
  | _ => .ok none

/-- Reads a text up to its closing quote. `taken` counts the characters after the opening quote,
`points` holds the code points read in reverse; a problem comes with its offset after the opening
quote, or none if it is to be reported at that quote. -/
def readTextFrom (taken : Nat) (points : List Nat) :
    List Char → Except (Problem × Option Nat) (RawText × Nat)
  | [] => .error (.unterminatedText, none)
  | ['\\'] => .error (.unterminatedText, none)
  | '"' :: _ => .ok (⟨points.reverse⟩, taken + 1)
  | '\\' :: 'u' :: first :: second :: third :: fourth :: next :: rest =>
    match hexValue4? first second third fourth with
    | none => .error (.badUnicodeEscape, some (taken + 1))
    | some point =>
      if isHighSurrogate point then
        match lowSurrogate? (next :: rest) with
        | .error () => .error (.badUnicodeEscape, some (taken + 7))
        | .ok none => readTextFrom (taken + 6) (point :: points) (next :: rest)
        | .ok (some low) =>
          readTextFrom (taken + 12) (joinSurrogates point low :: points) (rest.drop 5)
      else
        readTextFrom (taken + 6) (point :: points) (next :: rest)
  | '\\' :: 'u' :: _ => .error (.badUnicodeEscape, some (taken + 1))
  | '\\' :: escaped :: rest =>
    match simpleEscape? escaped with
    | some point => readTextFrom (taken + 2) (point :: points) rest
    | none => .error (.badEscape, some taken)
  | char :: rest =>
    if char.toNat < 0x20 then .error (.controlCharacter, some taken)
    else readTextFrom (taken + 1) (char.toNat :: points) rest
termination_by text => text.length
decreasing_by all_goals (simp only [List.length_cons, List.length_drop]; omega)

/-- Reads a text whose opening quote has been read. -/
def readText (text : List Char) : Except (Problem × Option Nat) (RawText × Nat) :=
  readTextFrom 0 [] text

/-! ### Numbers -/

/-- A decimal digit of ASCII. -/
def isNumeral (char : Char) : Bool :=
  '0' ≤ char && char ≤ '9'

/-- The value of a row of decimal digits. -/
def numeralValue (digits : List Char) : Nat :=
  digits.foldl (fun value digit => value * 10 + (digit.toNat - '0'.toNat)) 0

/-- The digits before the point: a single zero, or a row of digits that begins with another. -/
def wholeDigits : List Char → List Char
  | '0' :: _ => ['0']
  | text => text.takeWhile isNumeral

/-- The digits after the point, if the text begins with a point and a digit. -/
def fractionDigits? : List Char → Option (List Char)
  | '.' :: rest =>
    let digits := rest.takeWhile isNumeral
    if digits.isEmpty then none else some digits
  | _ => none

/-- The sign, as written, and the digits of an exponent, if the text begins with one. -/
def exponentParts? : List Char → Option (List Char × List Char)
  | mark :: rest =>
    if mark = 'e' ∨ mark = 'E' then
      let sign := rest.take 1 |>.filter fun char => char = '+' ∨ char = '-'
      let digits := (rest.drop sign.length).takeWhile isNumeral
      if digits.isEmpty then none else some (sign, digits)
    else none
  | [] => none

/-- A number as it is written. -/
structure Numeral where
  negative : Bool
  whole : List Char
  fraction : Option (List Char)
  exponent : Option (List Char × List Char)
deriving Repr

namespace Numeral

/-- The number of characters of a numeral. -/
def length (numeral : Numeral) : Nat :=
  (if numeral.negative then 1 else 0) + numeral.whole.length +
    (match numeral.fraction with
      | some digits => 1 + digits.length
      | none => 0) +
    (match numeral.exponent with
      | some (sign, digits) => 1 + sign.length + digits.length
      | none => 0)

/-- The value of a numeral: an integer if it has neither a fraction nor an exponent. -/
def value (numeral : Numeral) : Except ReadError Value :=
  if numeral.fraction.isNone ∧ numeral.exponent.isNone then
    if numeral.whole.length > Text.greatestDigitCount then
      .error (.tooManyDigits numeral.whole.length)
    else
      let magnitude : Int := numeralValue numeral.whole
      .ok (.integer (if numeral.negative then -magnitude else magnitude))
  else
    let fraction := numeral.fraction.getD []
    let power : Int :=
      match numeral.exponent with
      | some (['-'], digits) => -(numeralValue digits : Int)
      | some (_, digits) => numeralValue digits
      | none => 0
    .ok (.double (Double.ofDecimal numeral.negative (numeralValue (numeral.whole ++ fraction))
      (power - fraction.length)))

end Numeral

/-- Reads the number at the start of a text, if there is one. -/
def readNumber? (text : List Char) : Option Numeral :=
  let negative := text.head? = some '-'
  let unsigned := if negative then text.drop 1 else text
  let whole := wholeDigits unsigned
  if whole.isEmpty then none
  else
    let afterWhole := unsigned.drop whole.length
    let fraction := fractionDigits? afterWhole
    let afterFraction :=
      match fraction with
      | some digits => afterWhole.drop (1 + digits.length)
      | none => afterWhole
    some { negative, whole, fraction, exponent := exponentParts? afterFraction }

end LetShadow.Json
