/-
**Reading dumps.**

* `loadValue` — the syntax tree of a decoded dump; `null` stands for an empty file.
* `loadDump` — **the syntax tree of a JSON text** that holds a dump.
-/

import LetShadow.Json.Reader
import LetShadow.Source.Failure

namespace LetShadow

/-- The syntax tree of a decoded dump. -/
def loadValue : Json.Value → Except LoadError Node
  | .null => .ok (.sequence [] none)
  | value =>
    match Dump.form? value with
    | none => .error (.notAForm value.typeName)
    | some form => (Dump.tree form).mapError .malformed

/-- The failure that an error of a JSON text amounts to. -/
def Failure.ofReadError : Json.ReadError → Failure
  | .fault fault => .refused (.notJson fault)
  | .tooDeep => .refused .nestedTooDeeply
  | .tooManyDigits count => .aborted (.tooManyDigits count)

/-- The syntax tree of a JSON text that holds a dump. -/
def loadDump (text : String) : Except Failure Node := do
  let value ← (Json.parse text.toList).mapError Failure.ofReadError
  (loadValue value).mapError .refused

end LetShadow
