/-
**Trees of expressions.**

* `Tree` — a token, or an expression of some kind with its parts.
* `Tree.title` — what a report calls an expression.
* `Tree.wrongTarget?` — the part of an expression that no value can be assigned to.
-/

import LetShadow.Expression.Token

namespace LetShadow.Expression

/-- The kinds of expressions with parts, and of their parts. -/
inductive Kind where
  | text
  | formatted
  | attribute
  | call
  | operation
  | comparison
  | await
  | conditional
  | lambda
  | tuple
  | generator
  | set
  | setComprehension
  | dictionary
  | dictionaryComprehension
  | yield
  | starred
  | assignment
  /-- A key of a dictionary with its value. -/
  | pair
  /-- A dictionary whose entries are taken over. -/
  | unpacked
  /-- An argument with its name. -/
  | named
  /-- The arguments of a call. -/
  | arguments
deriving DecidableEq, Repr

/-- A token, or an expression with parts. -/
inductive Tree where
  | leaf (token : Token)
  | node (kind : Kind) (parts : List Tree)

/-- What a report calls a kind of expression. -/
def Kind.title : Kind → String
  | .text => "literal"
  | .formatted => "f-string expression"
  | .attribute => "attribute"
  | .call => "function call"
  | .operation => "expression"
  | .comparison => "comparison"
  | .await => "await expression"
  | .conditional => "conditional expression"
  | .lambda => "lambda"
  | .tuple => "tuple"
  | .generator => "generator expression"
  | .set => "set display"
  | .setComprehension => "set comprehension"
  | .dictionary => "dict literal"
  | .dictionaryComprehension => "dict comprehension"
  | .yield => "yield expression"
  | .starred => "starred"
  | .assignment => "named expression"
  | .pair | .unpacked | .named | .arguments => "expression"

/-- What a report calls an expression that is a token. -/
def Token.title (token : Token) : String :=
  match token.kind with
  | .name => "name"
  | .keyword => token.text
  | .sign => "ellipsis"
  | _ => "literal"

namespace Tree

/-- What a report calls an expression. -/
def title : Tree → String
  | leaf token => token.title
  | node kind _ => kind.title

/-- Is the tree of a kind? -/
def isOf (kind : Kind) : Tree → Bool
  | leaf _ => false
  | node other _ => other = kind

/-- Is the tree a sign or a keyword that reads so? -/
def reads (text : String) : Tree → Bool
  | leaf token => (token.kind = .sign || token.kind = .keyword) && token.text = text
  | node _ _ => false

/-- The name that the tree is, if it is one. -/
def name? : Tree → Option String
  | leaf token => if token.kind = .name then some token.text else none
  | node _ _ => none

mutual

/-- The part of an expression that no value can be assigned to. A comparison by `in` counts up to
that word, since a loop over values may go on like that. -/
def wrongTarget? : Tree → Option Tree
  | leaf token => if token.kind = .name then none else some (leaf token)
  | node .tuple parts => wrongAmong? parts
  | node .starred parts => wrongAmong? parts
  | node .attribute _ => none
  | node .comparison (left :: sign :: rest) =>
    if sign.reads "in" then left.wrongTarget? else some (node .comparison (left :: sign :: rest))
  | node kind parts => some (node kind parts)

/-- The first such part among some expressions. -/
def wrongAmong? : List Tree → Option Tree
  | [] => none
  | tree :: rest =>
    match tree.wrongTarget? with
    | some wrong => some wrong
    | none => wrongAmong? rest

end

end Tree

end LetShadow.Expression
