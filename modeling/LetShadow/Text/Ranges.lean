/-
**Sets of code points, as ranges.**

The tables of character properties are ascending lists of closed ranges.

* `Ranges.holds` — membership; the search ends at the first range that begins above the code point.
-/

namespace LetShadow.Text

/-- A set of code points: closed ranges in ascending order. -/
abbrev Ranges :=
  List (Nat × Nat)

/-- Is the code point in one of the ranges? -/
def Ranges.holds : Ranges → Nat → Bool
  | [], _ => false
  | (low, high) :: rest, point =>
    if point < low then false else if point ≤ high then true else holds rest point

end LetShadow.Text
