/-
**Reading expressions.**

A text that is no expression is read twice. The second reading is strict and looks for the reason.

* `parse` — **the tree of the expression that a text is.** Wrong characters outweigh any fault in
  the order of the tokens before them, and so does, as a rule, an open bracket with a fault in a
  later line.
-/

import LetShadow.Expression.Format
import LetShadow.Expression.Grammar
import LetShadow.Expression.Scan
import LetShadow.Text.LineEnd

namespace LetShadow.Expression

/-- The bracket that is still open where the tokens stop, if the last token that was looked at is in
a later line; `seen` tokens had been. -/
def Tokens.openBefore? (tokens : Tokens) (seen : Nat) : Option Opening := do
  let opening ← tokens.stop.opening?
  let latest ← tokens.all[seen - 1]?
  if latest.line > opening.line then some opening else none

/-- What is reported for tokens that are no expression, when `seen` of them had been looked at. -/
def Tokens.unexplained (tokens : Tokens) (seen : Nat) : Fault :=
  match tokens.stop, tokens.openBefore? seen with
  | .wrong fault, _ => .scan fault
  | _, some opening => .order (.neverClosed opening.bracket)
  | _, none => .order .unspecified

/-- What is reported for tokens with a fault, when `seen` of them had been looked at. If those are
all, the fault stands. -/
def Tokens.explained (tokens : Tokens) (seen : Nat) (fault : Fault) : Fault :=
  match tokens.stop, tokens.openBefore? seen with
  | .wrong scanFault, _ => .scan scanFault
  | _, some opening =>
    if seen < tokens.all.size then .order (.neverClosed opening.bracket) else fault
  | _, none => fault

/-- What is reported for tokens that are no expression; `seen` of them were looked at to find that
out. -/
def Tokens.explain (tokens : Tokens) (grammar : Grammar Rule) (seen : Nat) : Fault :=
  let (found, strictlySeen) := grammar.read tokens true .whole
  let allSeen := max seen strictlySeen
  match found with
  | .error fault => tokens.explained allSeen fault
  | .ok _ =>
    if tokens.all[seen - 1]?.any (·.kind = .indent) then .order .unexpectedIndent
    else tokens.unexplained allSeen

/-- The tree of some tokens. -/
def Tokens.parse (tokens : Tokens) (grammar : Grammar Rule) : Except Fault Tree :=
  match grammar.read tokens false .whole with
  | (.ok (some (tree :: _, _)), _) => .ok tree
  | (.ok _, seen) => .error (tokens.explain grammar seen)
  | (.error fault, seen) => .error (tokens.explained seen fault)

/-- What is wrong with an expression inside a quoted text. It is read as if in parentheses. -/
def innerFault? (grammar : Grammar Rule) (text : List Char) : Option Fault :=
  match (tokensOf ('(' :: text ++ [')'])).parse grammar with
  | .error fault => some fault
  | .ok _ => none

/-- The grammar of expressions that hold quoted texts with expressions inside, up to a depth. -/
def grammarTo : Nat → Grammar Rule
  | 0 => grammar fun _ => none
  | depth + 1 => grammar (formatFault? (innerFault? (grammarTo depth)))

/-- The tree of the expression that a text is. -/
def parse (text : List Char) : Except Fault Tree :=
  if text.contains '\x00' then .error (.scan .nullCharacter)
  else
    let text := Text.unifyLineEnds text
    (tokensOf text).parse (grammarTo text.length)

end LetShadow.Expression
