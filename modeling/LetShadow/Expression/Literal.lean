/-
**Literals.**

A literal is an expression that stands for a value by itself: a constant, a number with a sign or a
complex one, a text, or a tuple, a set or a dictionary of literals.

* `checkLiteral` — **is an expression a literal,** and can its value be made? Sets and dictionaries
  are made one element at a time, and neither is an element of a set or a key.
-/

import LetShadow.Expression.Number
import LetShadow.Expression.Tree

namespace LetShadow.Expression

/-- The types of values that are no keys. -/
inductive Unhashable where
  | set
  | dictionary
deriving DecidableEq, Repr

/-- The name of such a type. -/
def Unhashable.title : Unhashable → String
  | .set => "set"
  | .dictionary => "dict"

/-- Why an expression has no value by itself. -/
inductive LiteralFault where
  /-- Some part is no literal. -/
  | notLiteral
  /-- The entries of a dictionary are to be taken over. -/
  | unpacking
  /-- A value that is no key is used as one. -/
  | badKey (value : Unhashable)
deriving DecidableEq, Repr

/-- The report of an expression without a value. -/
def LiteralFault.message : LiteralFault → String
  | .notLiteral => "malformed node or string"
  | .unpacking => "malformed node or string: None"
  | .badKey value => "unhashable type: '" ++ value.title ++ "'"

namespace Tree

/-- The number that the tree is, if it is one. -/
def number? : Tree → Option (List Char)
  | leaf token => if token.kind = .number then some token.text.toList else none
  | node _ _ => none

/-- Is the tree a plus or a minus? -/
def isSign (tree : Tree) : Bool :=
  tree.reads "+" || tree.reads "-"

/-- Is the tree a number with a sign? -/
def isSigned : Tree → Bool
  | node .operation [sign, number] => sign.isSign && number.number?.isSome
  | _ => false

/-- Is the tree a real number, with a sign or without? -/
def isReal : Tree → Bool
  | node .operation [sign, number] =>
    sign.isSign && number.number?.any fun digits => !isImaginary digits
  | tree => tree.number?.any fun digits => !isImaginary digits

/-- Is the tree a real number with an imaginary one after it? -/
def isComplex : Tree → Bool
  | node .operation [real, sign, number] =>
    real.isReal && sign.isSign && number.number?.any isImaginary
  | _ => false

end Tree

/-- Checks a value that is used as a key. -/
def checkKey (value : Option Unhashable) : Except LiteralFault Unit :=
  match value with
  | none => .ok ()
  | some value => .error (.badKey value)

mutual

/-- Makes the value of a literal, and tells why it is no key, if so. -/
def valueOf : Tree → Except LiteralFault (Option Unhashable)
  | .leaf token => if token.kind = .name then .error .notLiteral else .ok none
  | .node .text _ => .ok none
  | .node .tuple parts => valueOfAll parts
  | .node .set parts => do
    checkKeys parts
    return some .set
  | .node .dictionary parts => do
    checkEntries parts
    return some .dictionary
  | .node .call [callee] =>
    if callee.name? = some "set" then .ok (some .set) else .error .notLiteral
  | .node kind parts =>
    let tree := Tree.node kind parts
    if tree.isSigned || tree.isComplex then .ok none else .error .notLiteral

/-- Makes the values of literals, and tells why the first that is no key is none. -/
def valueOfAll : List Tree → Except LiteralFault (Option Unhashable)
  | [] => .ok none
  | tree :: rest => do
    let value ← valueOf tree
    let others ← valueOfAll rest
    return value <|> others

/-- Makes the values of literals and uses each as a key. -/
def checkKeys : List Tree → Except LiteralFault Unit
  | [] => .ok ()
  | tree :: rest => do
    checkKey (← valueOf tree)
    checkKeys rest

/-- Makes the entries of a dictionary. -/
def checkEntries : List Tree → Except LiteralFault Unit
  | [] => .ok ()
  | .node .pair [key, value] :: rest => do
    let key ← valueOf key
    let _ ← valueOf value
    checkKey key
    checkEntries rest
  | .node .unpacked _ :: _ => .error .unpacking
  | _ :: _ => .error .notLiteral

end

/-- Checks that an expression is a literal with a value. -/
def checkLiteral (tree : Tree) : Except LiteralFault Unit := do
  let _ ← valueOf tree

end LetShadow.Expression
