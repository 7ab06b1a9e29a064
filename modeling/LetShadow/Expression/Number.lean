/-
**Numbers in expressions.**

A number is read from the characters after its first one. No ASCII letter may follow it, unless that
begins a keyword that can stand after a number.

* `skipNumber` — **what follows a number.** Single underscores may stand between digits.
* `skipFraction` — what follows a number that begins with a point.
* `decimalCount?` — the number of digits of a decimal integer.
-/

import LetShadow.Expression.Fault

namespace LetShadow.Expression

/-! ### Ends of numbers -/

/-- May the character stand in a name? Those beyond ASCII are looked at later. -/
def isNameCharacter (char : Char) : Bool :=
  char.isAlphanum || char = '_' || char.toNat > 0x7F

/-- May the character begin a name? -/
def isNameStart (char : Char) : Bool :=
  isNameCharacter char && !char.isDigit

/-- The keywords that may follow a number at once. -/
def followers : List String :=
  ["and", "else", "for", "not", "or"]

/-- Does a text begin with a keyword that may follow a number? Of three keywords the first two
letters are enough. -/
def beginsFollower (text : List Char) : Bool :=
  followers.contains (String.ofList (text.takeWhile isNameCharacter)) ||
    ["if", "in", "is"].contains (String.ofList (text.take 2))

/-- The end of a number, if what follows may follow it. -/
def endNumber (form : NumberForm) (rest : List Char) : Except ScanFault (List Char) :=
  if beginsFollower rest then .ok rest
  else if rest.head?.any fun char => char.isAlphanum || char = '_' then .error (.badNumber form)
  else .ok rest

/-! ### Digits -/

/-- What follows further digits. A digit follows each underscore. -/
def skipDigits (isDigit : Char → Bool) (fault : Char → ScanFault) (none : ScanFault) :
    List Char → Except ScanFault (List Char)
  | [] => .ok []
  | ['_'] => .error none
  | '_' :: next :: rest =>
    if isDigit next then skipDigits isDigit fault none rest else .error (fault next)
  | char :: rest =>
    if isDigit char then skipDigits isDigit fault none rest else .ok (char :: rest)

/-- What follows further decimal digits. -/
def skipDecimals : List Char → Except ScanFault (List Char) :=
  skipDigits Char.isDigit (fun _ => .badNumber .decimal) (.badNumber .decimal)

/-- What follows the digits of a number with a mark; an underscore may stand before the first. -/
def skipMarked (form : NumberForm) (isDigit : Char → Bool) (rest : List Char) :
    Except ScanFault (List Char) := do
  let fault (char : Char) : ScanFault :=
    if char.isDigit then .badDigit char form else .badNumber form
  let digits := if rest.head? = some '_' then rest else '_' :: rest
  let rest ← skipDigits isDigit fault (.badNumber form) digits
  match rest with
  | char :: _ => if char.isDigit then throw (.badDigit char form)
  | [] => pure ()
  endNumber form rest

/-- Is the character a hexadecimal digit? -/
def isHexDigit (char : Char) : Bool :=
  char.isDigit || 'a' ≤ char.toLower && char.toLower ≤ 'f'

/-- Is the character an octal digit? -/
def isOctalDigit (char : Char) : Bool :=
  '0' ≤ char && char ≤ '7'

/-- Is the character a binary digit? -/
def isBinaryDigit (char : Char) : Bool :=
  char = '0' || char = '1'

/-! ### Fractions and exponents -/

/-- What follows the mark of an imaginary number, if it is one, and else the number. -/
def skipUnit (rest : List Char) : Except ScanFault (List Char) :=
  match rest with
  | char :: after =>
    if char.toLower = 'j' then endNumber .imaginary after else endNumber .decimal rest
  | [] => .ok []

/-- What follows the digits of an exponent. -/
def skipExponentDigits (rest : List Char) : Except ScanFault (List Char) := do
  skipUnit (← skipDecimals rest)

/-- What follows an exponent, whose letter is `mark`. Without digits it is none, and the letter must
begin a keyword. -/
def skipExponent (mark : Char) (rest : List Char) : Except ScanFault (List Char) :=
  match rest with
  | [] => endNumber .decimal [mark]
  | char :: after =>
    if char = '+' ∨ char = '-' then
      match after with
      | digit :: more =>
        if digit.isDigit then skipExponentDigits more else .error (.badNumber .decimal)
      | [] => .error (.badNumber .decimal)
    else if char.isDigit then skipExponentDigits after
    else endNumber .decimal (mark :: rest)

/-- What follows an exponent or the mark of an imaginary number, if there is any. -/
def skipScale (rest : List Char) : Except ScanFault (List Char) :=
  match rest with
  | [] => .ok []
  | mark :: after => if mark.toLower = 'e' then skipExponent mark after else skipUnit rest

/-- What follows a fraction, from the character after its point. -/
def skipFraction (rest : List Char) : Except ScanFault (List Char) := do
  match rest with
  | [] => return []
  | digit :: after => if digit.isDigit then skipScale (← skipDecimals after) else skipScale rest

/-! ### Numbers -/

/-- What follows a decimal number, from the character after its digits. -/
def skipDecimalRest (rest : List Char) : Except ScanFault (List Char) :=
  match rest with
  | '.' :: after => skipFraction after
  | _ => skipScale rest

/-- Does a decimal number go on after its digits? -/
def isScaled (rest : List Char) : Bool :=
  rest.head?.any fun char => char = '.' || char.toLower = 'e' || char.toLower = 'j'

/-- What follows a number that begins with a zero. An integer has no digits but zeros then. -/
def skipZero (rest : List Char) : Except ScanFault (List Char) := do
  let after ← skipDecimals rest
  let digits := rest.take (rest.length - after.length)
  if isScaled after then skipDecimalRest after
  else if digits.any fun char => char ≠ '0' && char ≠ '_' then throw .leadingZeros
  else endNumber .decimal after

/-- What follows a number, from the character after its first digit. -/
def skipNumber (first : Char) (rest : List Char) : Except ScanFault (List Char) := do
  if first ≠ '0' then skipDecimalRest (← skipDecimals rest)
  else
    match rest with
    | [] => return []
    | mark :: after =>
      match mark.toLower with
      | 'x' => skipMarked .hexadecimal isHexDigit after
      | 'o' => skipMarked .octal isOctalDigit after
      | 'b' => skipMarked .binary isBinaryDigit after
      | _ => skipZero rest

/-- The number of digits of a decimal integer. -/
def decimalCount? (number : List Char) : Option Nat :=
  if number.all fun char => char.isDigit || char = '_' then some (number.countP Char.isDigit)
  else none

/-- Is the number imaginary? -/
def isImaginary (number : List Char) : Bool :=
  number.getLast?.any fun char => char.toLower = 'j'

end LetShadow.Expression
