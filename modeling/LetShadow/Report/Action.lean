/-
**Actions of tags.**

A tag that begins with `@` names an action, and what follows its equals sign are the parameters: a
literal, or the name of a handler with a literal in parentheses after it. They are read when the tag
is closed.

* `actionExpression` — the expression that is read for some parameters.
* `checkAction` — **a check of the parameters:** the expression must be a literal with a value.
-/

import LetShadow.Expression.Literal
import LetShadow.Expression.Reading
import LetShadow.Text.Blank
import LetShadow.Text.Letter
import LetShadow.Text.Quoted

namespace LetShadow.Report

/-- What is wrong with the parameters of an action. -/
inductive ActionFault where
  /-- The expression is none. -/
  | noExpression (expression parameters : List Char) (fault : Expression.Fault)
  /-- The expression has no value by itself. -/
  | noValue (parameters : List Char) (fault : Expression.LiteralFault)
deriving DecidableEq, Repr

/-- A text between quotes. -/
def quotedText (text : List Char) : String :=
  Text.quoted (text.map Char.toNat)

/-- The report of what is wrong with parameters. -/
def ActionFault.message : ActionFault → String
  | .noExpression expression parameters fault =>
    "error parsing " ++ quotedText expression ++ " in " ++ quotedText parameters ++ "; " ++
      fault.message
  | .noValue parameters fault =>
    "error parsing " ++ quotedText parameters ++ "; " ++ fault.message

/-- May the character stand in the name of a handler? -/
def isHandlerCharacter (char : Char) : Bool :=
  char = '.' || Text.isWordCharacter char

/-- Is the text in parentheses, in one line? -/
def isParenthesized (text : List Char) : Bool :=
  text.head? = some '(' && text.getLast? = some ')' && !text.contains '\n'

/-- The expression that is read for some parameters. After the name of a handler it is what stands
in parentheses, or an empty tuple. -/
def actionExpression (parameters : List Char) : List Char :=
  let text := Text.trim Text.isBlank parameters
  match text.dropWhile isHandlerCharacter with
  | [] => "()".toList
  | rest => if isParenthesized rest then rest else text

/-- Checks the parameters of an action. There need not be any. -/
def checkAction (parameters : List Char) : Except ActionFault Unit := do
  if parameters = [] then return
  let expression := actionExpression parameters
  let tree ← (Expression.parse expression).mapError (.noExpression expression parameters)
  (Expression.checkLiteral tree).mapError (.noValue parameters)

end LetShadow.Report
