/-
**Faults of JSON texts.**

A text is read from its start, and the first fault that is met is reported, at its place in code
points.

* `Fault.message` — **the text of a fault:** what is wrong, the line and column counted from one,
  and the offset counted from zero.
* `ReadError` — what can keep a text from being read: a fault, nesting that is too deep, or an
  integer with too many digits.
-/

namespace LetShadow.Json

/-- What can be wrong at a place of a text. -/
inductive Problem where
  | expectingValue
  | expectingName
  | expectingColon
  | expectingComma
  | unterminatedText
  | controlCharacter
  | badEscape
  | badUnicodeEscape
  | extraData
  | byteOrderMark
deriving DecidableEq, Repr

/-- What a report says is wrong. -/
def Problem.message : Problem → String
  | .expectingValue => "Expecting value"
  | .expectingName => "Expecting property name enclosed in double quotes"
  | .expectingColon => "Expecting ':' delimiter"
  | .expectingComma => "Expecting ',' delimiter"
  | .unterminatedText => "Unterminated string starting at"
  | .controlCharacter => "Invalid control character at"
  | .badEscape => "Invalid \\escape"
  | .badUnicodeEscape => "Invalid \\uXXXX escape"
  | .extraData => "Extra data"
  | .byteOrderMark => "Unexpected UTF-8 BOM (decode using utf-8-sig)"

/-- A problem at a place, which is given by its line, its column and its offset. -/
structure Fault where
  problem : Problem
  line : Nat
  column : Nat
  offset : Nat
deriving DecidableEq, Repr

/-- The fault of a problem at an offset of a text. -/
def Fault.locate (text : List Char) (problem : Problem) (offset : Nat) : Fault :=
  let before := text.take offset
  { problem
    line := before.count '\n' + 1
    column := (before.reverse.takeWhile (· ≠ '\n')).length + 1
    offset }

/-- The report of a fault. -/
def Fault.message (fault : Fault) : String :=
  fault.problem.message ++
    ": line " ++ toString fault.line ++ " column " ++ toString fault.column ++
    " (char " ++ toString fault.offset ++ ")"

/-- The greatest depth of nesting. -/
def greatestDepth : Nat :=
  1000

/-- What keeps a text from being read. -/
inductive ReadError where
  | fault (fault : Fault)
  | tooDeep
  | tooManyDigits (count : Nat)
deriving DecidableEq, Repr

end LetShadow.Json
