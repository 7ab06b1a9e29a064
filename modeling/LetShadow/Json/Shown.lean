/-
**The shown form of JSON values.**

Where a dump has some other value in place of a text, the value is read as a text: its shown form.

* `Value.shown` — **the shown form:** a text shows itself; anything else shows its quoted form.
* `Value.quoted` — the form inside a list or an object: words for the constants, decimals for the
  numbers, brackets and braces around elements and entries, and texts between quotes.
* `Double.shown` — the shortest decimal that reads back, written with a point from `0.0001` up to
  `10 ^ 16` and with an exponent elsewhere.
-/

import LetShadow.Decimal.Shortest
import LetShadow.Json.Value
import LetShadow.Text.Quoted

namespace LetShadow

/-! ### Numbers -/

/-- A positive decimal `digits * 10 ^ scale` with a point, or with an exponent of at least two
digits. -/
def shownDecimal (digits : Nat) (scale : Int) : String :=
  let written := Nat.toDigits 10 digits
  let count : Int := written.length
  let leading := count - 1 + scale
  if -4 ≤ leading ∧ leading < 16 then
    if 0 ≤ scale then
      String.ofList (written ++ List.replicate scale.toNat '0' ++ ['.', '0'])
    else if 0 ≤ leading then
      let whole := (count + scale).toNat
      String.ofList (written.take whole ++ '.' :: written.drop whole)
    else
      String.ofList ('0' :: '.' :: List.replicate (-leading - 1).toNat '0' ++ written)
  else
    let fraction := if written.length = 1 then [] else '.' :: written.drop 1
    let power := Nat.toDigits 10 leading.natAbs
    let padding := List.replicate (2 - power.length) '0'
    String.ofList
      (written.take 1 ++ fraction ++ ['e', if leading < 0 then '-' else '+'] ++ padding ++ power)

/-- The shown form of a number. -/
def Double.shown : Double → String
  | .notANumber => "nan"
  | .infinite negative => if negative then "-inf" else "inf"
  | .finite negative mantissa exponent =>
    let magnitude :=
      if mantissa = 0 then "0.0"
      else
        let (digits, scale) := shortest mantissa exponent
        shownDecimal digits scale
    if negative then "-" ++ magnitude else magnitude

namespace Json

/-! ### Values -/

namespace Value

mutual

/-- The form of a value inside a list or an object. -/
def quoted : Value → String
  | .null => "None"
  | .bool true => "True"
  | .bool false => "False"
  | .integer value => toString value
  | .double value => value.shown
  | .text raw => Text.quoted raw.points
  | .list elements => "[" ++ ", ".intercalate (quotedElements elements) ++ "]"
  | .object entries => "\x7b" ++ ", ".intercalate (quotedEntries entries) ++ "\x7d"

/-- The forms of elements. -/
def quotedElements : List Value → List String
  | [] => []
  | value :: rest => value.quoted :: quotedElements rest

/-- The forms of entries. -/
def quotedEntries : List (RawText × Value) → List String
  | [] => []
  | (key, value) :: rest => (Text.quoted key.points ++ ": " ++ value.quoted) :: quotedEntries rest

end

/-- The shown form of a value. -/
def shown : Value → String
  | .text raw => raw.toString
  | value => value.quoted

end Value

end Json

end LetShadow
