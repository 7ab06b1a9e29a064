/-
**Numerals.**

* `numeral?` — **the integer that a text spells in a base:** white space around it, a sign, a mark
  of the base such as `0x`, and digits of any script, between which single underscores may stand.
-/

import LetShadow.Text.Blank
import LetShadow.Text.Digit

namespace LetShadow.Text

/-- The value of a row of digits. An underscore must stand after a digit and before another. -/
def digitsValue? (base : Nat) (value : Nat) (afterDigit : Bool) : List Char → Option Nat
  | [] => if afterDigit then some value else none
  | char :: rest =>
    if char = '_' then
      if afterDigit then digitsValue? base value false rest else none
    else
      match digitValue? base char with
      | some digit => digitsValue? base (value * base + digit) true rest
      | none => none

/-- A numeral without the mark of its base and an underscore after the mark. -/
def dropMark (mark : Char) : List Char → List Char
  | zero :: letter :: rest =>
    if decimalValue? zero = some 0 ∧ letter.toLower = mark then
      match rest with
      | '_' :: digits => digits
      | digits => digits
    else zero :: letter :: rest
  | digits => digits

/-- The number that digits spell in a base, which `mark` may announce after a zero. -/
def magnitude? (base : Nat) (mark : Char) (digits : List Char) : Option Nat :=
  digitsValue? base 0 false (dropMark mark digits)

/-- The integer that a text spells in a base. -/
def numeral? (base : Nat) (mark : Char) (text : List Char) : Option Int :=
  match trim isNumeralBlank text with
  | '-' :: digits => (magnitude? base mark digits).map fun value => -(value : Int)
  | '+' :: digits => (magnitude? base mark digits).map fun value => (value : Int)
  | digits => (magnitude? base mark digits).map fun value => (value : Int)

end LetShadow.Text
