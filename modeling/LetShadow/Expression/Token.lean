/-
**Tokens of expressions.**

* `Token` — a name, a keyword, a number, a quoted text, a sign, or an end of a line, with the number
  of brackets that are open after it.
* `Tokens` — **the tokens of a text.** They may stop before its end, at what is wrong there.
-/

import LetShadow.Expression.Fault

namespace LetShadow.Expression

/-- The kinds of tokens. -/
inductive TokenKind where
  | name
  | keyword
  | number
  | text
  | sign
  | lineEnd
  | indent
  | ending
deriving DecidableEq, Repr

/-- A token: its characters, the brackets that are open after it, and the line that it begins in. -/
structure Token where
  kind : TokenKind
  text : String
  depth : Nat
  line : Nat
deriving DecidableEq, Repr

/-- The words that are no names. -/
def keywords : List String :=
  [ "False", "None", "True", "and", "as", "assert", "async", "await", "break", "class",
    "continue", "def", "del", "elif", "else", "except", "finally", "for", "from", "global", "if",
    "import", "in", "is", "lambda", "nonlocal", "not", "or", "pass", "raise", "return", "try",
    "while", "with", "yield" ]

/-- The names that are words of their own in some places. -/
def softKeywords : List String :=
  ["_", "case", "match"]

/-- Does a name begin like a word of its own? -/
def beginsSoftKeyword (name : String) : Bool :=
  softKeywords.any fun keyword => name.toList.isPrefixOf keyword.toList

/-- A bracket that has been opened, and its line. -/
structure Opening where
  bracket : Char
  line : Nat
deriving DecidableEq, Repr

/-- Why the tokens of a text stop. -/
inductive Stop where
  /-- The text ends. -/
  | complete
  /-- The text ends within brackets. -/
  | within (innermost : Opening)
  /-- A backslash that no end of a line follows, within brackets perhaps. -/
  | backslash (innermost : Option Opening)
  /-- Some characters are wrong. -/
  | wrong (fault : ScanFault)
deriving DecidableEq, Repr

/-- The innermost bracket that is open where the tokens stop. -/
def Stop.opening? : Stop → Option Opening
  | .within innermost => some innermost
  | .backslash innermost => innermost
  | .complete | .wrong _ => none

/-- What is wrong with a text whose reading gets to where its tokens stop. -/
def Stop.fault? : Stop → Option Fault
  | .complete => none
  | .within innermost => some (.order (.neverClosed innermost.bracket))
  | .backslash _ => some (.order .unexpectedBackslash)
  | .wrong fault => some (.scan fault)

/-- The tokens of a text, and why there are no more. -/
structure Tokens where
  all : Array Token
  stop : Stop
deriving Repr

end LetShadow.Expression
