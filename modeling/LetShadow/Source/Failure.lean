/-
**What can keep a file from being analyzed.**

* `LoadError` — a file that gives no syntax tree; it is reported as the file's error.
* `Abort` — a fault that no report covers: it ends the whole run.
* `Failure` — either of the two.
-/

import LetShadow.Dump.Tree
import LetShadow.Json.Fault
import LetShadow.Text.DigitLimit

namespace LetShadow

/-- Why a source gives no syntax tree. -/
inductive LoadError where
  /-- A text is no JSON. -/
  | notJson (fault : Json.Fault)
  /-- A JSON text is nested too deeply. -/
  | nestedTooDeeply
  /-- A JSON value is no node. -/
  | notAForm (typeName : String)
  /-- A form of a dump is ill shaped. -/
  | malformed (defect : Dump.Defect)
  /-- A Ruby file has a syntax error. -/
  | badSyntax (file : String)
  /-- A file cannot be read. -/
  | unreadable (file reason : String)
deriving DecidableEq, Repr

/-- The report of a load error. -/
def LoadError.message : LoadError → String
  | .notJson fault => "Invalid JSON: " ++ fault.message
  | .nestedTooDeeply => "Invalid JSON: nested too deeply to decode"
  | .notAForm typeName => "Expected an s-expression array, got " ++ typeName
  | .malformed defect => "Malformed s-expression: " ++ defect.message
  | .badSyntax file => "Syntax error in " ++ file
  | .unreadable file reason => "Cannot read " ++ file ++ ": " ++ reason

/-- What ends a whole run. -/
inductive Abort where
  /-- An integer in a JSON text has too many digits. -/
  | tooManyDigits (count : Nat)
  /-- An escape names a code point that is too large for a machine integer. -/
  | codePointTooLarge
  /-- The path of a file has a null character. -/
  | nullInPath
deriving DecidableEq, Repr

/-- The report of an abort. -/
def Abort.message : Abort → String
  | .tooManyDigits count => Text.tooManyDigitsMessage count
  | .codePointTooLarge => "Python int too large to convert to C int"
  | .nullInPath => "embedded null byte"

/-- What can keep a source from giving a syntax tree. -/
inductive Failure where
  | refused (error : LoadError)
  | aborted (abort : Abort)
deriving DecidableEq, Repr

end LetShadow
