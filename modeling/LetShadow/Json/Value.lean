/-
**JSON values.**

A text in a JSON document is a list of code points rather than of characters: an escape may name one
half of a surrogate pair without the other, and such a half is no character. Objects keep their
entries in the order in which the keys first appeared.

* `Value` — the values; integers are unbounded and kept apart from other numbers.
* `Value.size` — a measure that decreases from a list to its elements.
-/

import LetShadow.Decimal.Double
import LetShadow.Text.Point

namespace LetShadow.Json

/-- A text as it stands in a JSON document: code points, unpaired surrogates among them. -/
structure RawText where
  points : List Nat
deriving DecidableEq, Repr

namespace RawText

/-- The text of a string. -/
def ofString (string : String) : RawText :=
  ⟨string.toList.map Char.toNat⟩

/-- The text as a string. -/
def toString (text : RawText) : String :=
  String.ofList (text.points.map Text.charOf)

end RawText

/-- A JSON value. -/
inductive Value where
  | null
  | bool (value : Bool)
  | integer (value : Int)
  | double (value : Double)
  | text (value : RawText)
  | list (elements : List Value)
  | object (entries : List (RawText × Value))
deriving Repr, Inhabited

namespace Value

mutual

/-- One more than the sizes of the elements, for a list; one for anything else. -/
def size : Value → Nat
  | .list elements => 1 + listSize elements
  | .null | .bool _ | .integer _ | .double _ | .text _ | .object _ => 1

/-- The sizes of several values together. -/
def listSize : List Value → Nat
  | [] => 0
  | value :: rest => value.size + listSize rest

end

/-- The word for the type of a value, as reports on unexpected values use it. -/
def typeName : Value → String
  | .null => "NoneType"
  | .bool _ => "bool"
  | .integer _ => "int"
  | .double _ => "float"
  | .text _ => "str"
  | .list _ => "list"
  | .object _ => "dict"

/-- The value of a key of an object. -/
def get? (key : String) : Value → Option Value
  | .object entries => (entries.find? fun entry => entry.1 == RawText.ofString key).map Prod.snd
  | _ => none

end Value

/-- Sets a key. A key that is there keeps its place. -/
def setEntry (key : RawText) (value : Value) : List (RawText × Value) → List (RawText × Value)
  | [] => [(key, value)]
  | (other, old) :: rest =>
    if other = key then (key, value) :: rest else (other, old) :: setEntry key value rest

end LetShadow.Json
