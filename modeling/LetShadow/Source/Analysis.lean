/-
**The result of a source.**

* `resultOf` — **the result for a source that was loaded or not.** What is refused, and what has a
  name that cannot be resolved, gives a result with an error; only an abort gives none.
* `analyzeRuby` — the result for a Ruby text.
-/

import LetShadow.Check.Result
import LetShadow.Source.Ruby

namespace LetShadow

/-- The result for a source, from its tree or from what kept it from being loaded. -/
def resultOf (file : String) : Except Failure Node → Except Abort Result
  | .error (.aborted abort) => .error abort
  | .error (.refused error) => .ok (.failed file error.message)
  | .ok tree =>
    match analyzeTree tree file with
    | .ok result => .ok result
    | .error error => .ok (.failed file error.message)

/-- The result for a Ruby text, from the parser's answer. -/
def analyzeRuby (file : String) (answer : Option Ruby.Concrete) : Except Abort Result :=
  resultOf file (loadRuby file answer)

end LetShadow
