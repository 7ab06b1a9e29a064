/-
**Listings of concrete trees as JSON.**

* `Concrete.entry?` — one node of a listing: its type, its field or `null`, the offsets of its first
  byte and of the byte after its last, its row and column, and the number of its children.
* `Concrete.entries?` — **a listing.**
-/

import LetShadow.Json.Value
import LetShadow.Ruby.Concrete

namespace LetShadow.Ruby.Concrete

open LetShadow.Json

/-- The field of a listed node; there may be none. -/
def entryField? : Value → Option (Option String)
  | .null => some none
  | .text field => some (some field.toString)
  | _ => none

/-- A listed node. -/
def entry? : Value → Option Entry
  | .list [.text type, field, .integer start, .integer stop, .integer row, .integer column,
      .integer childCount] => do
    return {
      type := type.toString
      field := ← entryField? field
      start := start.toNat
      stop := stop.toNat
      row
      column
      childCount := childCount.toNat }
  | _ => none

/-- The nodes of a listing. -/
def entries? : Value → Option (List Entry)
  | .list values => values.mapM entry?
  | _ => none

end LetShadow.Ruby.Concrete
