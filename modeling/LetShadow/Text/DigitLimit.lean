/-
**The limit on the digits of an integer.**

* `greatestDigitCount` — the number of decimal digits that an integer may be written with.
* `tooManyDigitsMessage` — **the report of an integer with more.**
-/

namespace LetShadow.Text

/-- The greatest number of digits of an integer. -/
def greatestDigitCount : Nat :=
  4300

/-- The report of an integer with too many digits. -/
def tooManyDigitsMessage (count : Nat) : String :=
  "Exceeds the limit (" ++ toString greatestDigitCount ++
    " digits) for integer string conversion: value has " ++ toString count ++
    " digits; use sys.set_int_max_str_digits() to increase the limit"

end LetShadow.Text
