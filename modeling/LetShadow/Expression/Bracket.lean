/-
**Brackets.**

* `isOpening` and `openingOf?` — what opens a bracket, and what a closing one closes.
* `deepest` — how many may be open at once.
-/

namespace LetShadow.Expression

/-- Does the character open a bracket? -/
def isOpening (char : Char) : Bool :=
  char = '(' || char = '[' || char = '{'

/-- The bracket that a closing bracket closes. -/
def openingOf? : Char → Option Char
  | ')' => some '('
  | ']' => some '['
  | '}' => some '{'
  | _ => none

/-- The greatest number of brackets that are open at once. -/
def deepest : Nat :=
  200

end LetShadow.Expression
