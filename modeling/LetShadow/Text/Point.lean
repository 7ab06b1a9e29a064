/-
**Code points.**

* `charOf` — **the character of a code point.** One half of a surrogate pair is a code point without
  a character; it is replaced.
-/

namespace LetShadow.Text

/-- The number of code points. -/
def pointCount : Nat :=
  0x110000

/-- The character of a code point. -/
def charOf (point : Nat) : Char :=
  if point.isValidChar then Char.ofNat point else '\uFFFD'

end LetShadow.Text
