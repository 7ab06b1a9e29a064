/-
**The rules of expressions.**

* `Rule` — the names of the rules, from the whole text down to single tokens.
* `sign`, `word`, `identifier` and `literal` — **the phrases of one token,** by what it reads.
-/

import LetShadow.Expression.Peg

namespace LetShadow.Expression

/-- The rules of expressions. -/
inductive Rule where
  | whole
  | expression
  | misnamed
  | starExpression
  | disjunction
  | conjunction
  | inversion
  | bitOr
  | bitXor
  | bitAnd
  | shift
  | sum
  | term
  | factor
  | await
  | primary
  | texts
  | arguments
  | starTarget
  | target
  | targetPrimary
deriving DecidableEq, Hashable, Repr

/-- The number of rules. -/
def Rule.count : Nat :=
  21

/-- Phrases of tokens of expressions. -/
abbrev Form :=
  Phrase Rule

/-- A sign that is not part of the tree. -/
def sign (text : String) : Form :=
  .hidden (.token fun token => token.kind = .sign && token.text = text)

/-- A sign that is part of the tree. -/
def mark (text : String) : Form :=
  .token fun token => token.kind = .sign && token.text = text

/-- A keyword that is not part of the tree. -/
def word (text : String) : Form :=
  .hidden (.token fun token => token.kind = .keyword && token.text = text)

/-- A keyword that is part of the tree. -/
def constant (text : String) : Form :=
  .token fun token => token.kind = .keyword && token.text = text

/-- A name. -/
def identifier : Form :=
  .token fun token => token.kind = .name

/-- A name that begins like a word of its own. -/
def softKeyword : Form :=
  .token fun token => token.kind = .name && beginsSoftKeyword token.text

/-- A number or a quoted text. -/
def literal (kind : TokenKind) : Form :=
  .token fun token => token.kind = kind

/-- A comma. -/
def comma : Form :=
  sign ","

/-- A phrase once or more often, with commas between. -/
def listed (phrase : Form) : Form :=
  .separated comma phrase

/-- What a phrase matches, as a tuple if there is a comma in it. -/
def tupled (phrase : Form) : Form :=
  .build (fun trees =>
    if trees.any (·.reads ",") then [.node .tuple (trees.filter fun tree => !tree.reads ",")]
    else trees)
    (.row [phrase, .many (.row [mark ",", phrase]), .optional (mark ",")])

end LetShadow.Expression
