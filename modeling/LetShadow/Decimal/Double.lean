/-
**Binary numbers of 64 bits.**

A finite number is `mantissa * 2 ^ exponent`, with a mantissa below `2 ^ 53` and an exponent of at
least `-1074`; a mantissa below `2 ^ 52` has that least exponent. All of the arithmetic here is
exact, on natural numbers.

* `Double.ofDecimal` — **the nearest number to a decimal,** a tie going to the even mantissa.
-/

namespace LetShadow

/-- A power of two. -/
def twoTo (exponent : Nat) : Nat :=
  Nat.pow 2 exponent

/-- A power of ten. -/
def tenTo (exponent : Nat) : Nat :=
  Nat.pow 10 exponent

/-- A binary floating-point number of 64 bits. -/
inductive Double where
  | finite (negative : Bool) (mantissa : Nat) (exponent : Int)
  | infinite (negative : Bool)
  | notANumber
deriving DecidableEq, Repr

namespace Double

/-- The least exponent. -/
def leastExponent : Int :=
  -1074

/-- The greatest exponent of a finite number. -/
def greatestExponent : Int :=
  971

/-- A quotient rounded to the nearest natural number, a tie to the even one. -/
def roundDiv (num den : Nat) : Nat :=
  let quotient := num / den
  let twice := 2 * (num % den)
  if twice > den ∨ (twice = den ∧ quotient % 2 = 1) then quotient + 1 else quotient

/-- A ratio times a power of two, as a ratio. -/
def timesTwoPow (num den : Nat) (power : Int) : Nat × Nat :=
  if power < 0 then (num, den * twoTo (-power).toNat) else (num * twoTo power.toNat, den)

/-- The exponent at which a positive ratio has a mantissa of 53 bits, or else the least one. -/
def exponentOf (num den : Nat) : Int :=
  let bits : Int := (num.log2 : Int) - (den.log2 : Int)
  let (scaledNum, scaledDen) := timesTwoPow num den (-bits)
  max leastExponent (if scaledNum < scaledDen then bits - 53 else bits - 52)

/-- The nearest number to a ratio. -/
def ofRatio (negative : Bool) (num den : Nat) : Double :=
  let exponent := exponentOf num den
  let (scaledNum, scaledDen) := timesTwoPow num den (-exponent)
  let mantissa := roundDiv scaledNum scaledDen
  let (mantissa, exponent) :=
    if mantissa = twoTo 53 then (twoTo 52, exponent + 1) else (mantissa, exponent)
  if exponent > greatestExponent then .infinite negative else .finite negative mantissa exponent

/-- The nearest number to `digits * 10 ^ scale`. Beyond either end of the range the ratio is not
formed: it may have more digits than there is memory. -/
def ofDecimal (negative : Bool) (digits : Nat) (scale : Int) : Double :=
  if digits = 0 then .finite negative 0 leastExponent
  else if scale > 400 then .infinite negative
  else if (digits.log2 : Int) + 1 + 3 * scale < -1080 then .finite negative 0 leastExponent
  else if scale < 0 then ofRatio negative digits (tenTo (-scale).toNat)
  else ofRatio negative (digits * tenTo scale.toNat) 1

end Double

end LetShadow
