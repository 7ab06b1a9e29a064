/-
**The shortest decimal that reads back.**

The reals that round to a finite binary number form an interval, whose ends belong to it if the
mantissa is even. On the grid of decimals with a given count of digits only the two neighbours of
the number can be nearest to it; the first count for which one of them lies in the interval gives
the shortest decimal, and of two neighbours the nearer one is taken.

* `Double.shortest` — **the digits and the scale of the shortest decimal** of a positive number.
-/

import LetShadow.Decimal.Double

namespace LetShadow.Double

/-- `first * 10 ^ tens ≤ second * 2 ^ twos`, without fractions. -/
def decimalLe (first : Nat) (tens : Int) (second : Nat) (twos : Int) : Bool :=
  first * tenTo tens.toNat * twoTo (-twos).toNat ≤ second * twoTo twos.toNat * tenTo (-tens).toNat

/-- `first * 2 ^ twos ≤ second * 10 ^ tens`, without fractions. -/
def binaryLe (first : Nat) (twos : Int) (second : Nat) (tens : Int) : Bool :=
  first * twoTo twos.toNat * tenTo (-tens).toNat ≤ second * tenTo tens.toNat * twoTo (-twos).toNat

/-- Does `candidate * 10 ^ tens` round to `mantissa * 2 ^ exponent`? The ends of the interval are
counted in quarters of the last place, as the gap below a power of two is half as wide. -/
def readsBack (mantissa : Nat) (exponent : Int) (candidate : Nat) (tens : Int) : Bool :=
  let gap := if mantissa = twoTo 52 ∧ exponent > leastExponent then 1 else 2
  let low := 4 * mantissa - gap
  let high := 4 * mantissa + 2
  if mantissa % 2 = 0 then
    binaryLe low (exponent - 2) candidate tens && decimalLe candidate tens high (exponent - 2)
  else
    !decimalLe candidate tens low (exponent - 2) && !binaryLe high (exponent - 2) candidate tens

/-- The number of decimal digits of a natural number; zero has none. -/
def digitCount (value : Nat) : Nat :=
  if value = 0 then 0 else (Nat.toDigits 10 value).length

/-- The power of ten at the leading digit of `mantissa * 2 ^ exponent`. -/
def leadingPower (mantissa : Nat) (exponent : Int) : Int :=
  let (num, den) := timesTwoPow mantissa 1 exponent
  if num < den then -(digitCount ((den + num - 1) / num - 1) : Int)
  else (digitCount (num / den) : Int) - 1

/-- The shortest decimal on the grids of `count` digits and more. With 17 digits a neighbour always
reads back, so that the search ends there. -/
def shortestFrom (mantissa : Nat) (exponent : Int) (leading : Int) : Nat → Nat → Nat × Int
  | count, 0 => (0, leading - count)
  | count, more + 1 =>
    let tens := leading - count + 1
    let (num, den) := timesTwoPow mantissa 1 exponent
    let (num, den) :=
      if tens < 0 then (num * tenTo (-tens).toNat, den) else (num, den * tenTo tens.toNat)
    let below := num / den
    let nearBelow := decide (2 * num < (2 * below + 1) * den)
    let tie := decide (2 * num = (2 * below + 1) * den)
    let belowFits := readsBack mantissa exponent below tens
    let aboveFits := readsBack mantissa exponent (below + 1) tens
    if belowFits && (!aboveFits || nearBelow || (tie && below % 2 = 0)) then (below, tens)
    else if aboveFits then (below + 1, tens)
    else shortestFrom mantissa exponent leading (count + 1) more

/-- Moves the zeros at the end of a number into the scale. -/
def stripZeros : Nat → Nat → Int → Nat × Int
  | 0, digits, scale => (digits, scale)
  | fuel + 1, digits, scale =>
    if digits ≠ 0 ∧ digits % 10 = 0 then stripZeros fuel (digits / 10) (scale + 1)
    else (digits, scale)

/-- The shortest decimal `digits * 10 ^ scale` that reads back as `mantissa * 2 ^ exponent`, a
positive number; its last digit is not zero. -/
def shortest (mantissa : Nat) (exponent : Int) : Nat × Int :=
  let (digits, scale) :=
    shortestFrom mantissa exponent (leadingPower mantissa exponent) 1 17
  stripZeros 20 digits scale

end LetShadow.Double
