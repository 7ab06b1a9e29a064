/-
**Quoted text.**

* `quoted` — **a text between single quotes,** or between double ones if it holds a single but no
  double quote. A backslash stands before backslashes and quotes; a character that cannot be printed
  is written by its number, an unpaired half of a surrogate pair as well.
-/

import LetShadow.Text.Printable

namespace LetShadow.Text

/-- A number in hexadecimal with at least `width` digits. -/
def hexadecimal (width value : Nat) : List Char :=
  let digits := Nat.toDigits 16 value
  List.replicate (width - digits.length) '0' ++ digits

/-- A code point inside quotes. -/
def quotedPoint (quote : Char) (point : Nat) : List Char :=
  if point = quote.toNat then ['\\', quote]
  else if point = 0x5C then ['\\', '\\']
  else if point = 0x09 then ['\\', 't']
  else if point = 0x0A then ['\\', 'n']
  else if point = 0x0D then ['\\', 'r']
  else if isPrintable point then [Char.ofNat point]
  else if point < 0x100 then '\\' :: 'x' :: hexadecimal 2 point
  else if point < 0x10000 then '\\' :: 'u' :: hexadecimal 4 point
  else '\\' :: 'U' :: hexadecimal 8 point

/-- The quote around a text. -/
def quoteMark (points : List Nat) : Char :=
  if points.contains 0x27 && !points.contains 0x22 then '"' else '\x27'

/-- A text, given by its code points, between quotes. -/
def quoted (points : List Nat) : String :=
  let quote := quoteMark points
  String.ofList (quote :: points.flatMap (quotedPoint quote) ++ [quote])

end LetShadow.Text
