/-
**Reading Ruby files.**

* `loadRuby` — **the syntax tree of a Ruby file,** from what the outside parser answers for its
  text: a concrete tree, or nothing if the text has a syntax error.
-/

import LetShadow.Ruby.Tree
import LetShadow.Source.Failure

namespace LetShadow

/-- The syntax tree of a Ruby file, from the parser's answer. -/
def loadRuby (file : String) : Option Ruby.Concrete → Except Failure Node
  | none => .error (.refused (.badSyntax file))
  | some source => (Ruby.tree source).mapError fun _ => .aborted .codePointTooLarge

end LetShadow
