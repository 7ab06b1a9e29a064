/-
**The grammar of expressions.**

* `grammar` — **the phrases of all rules.** Next to the phrases of expressions stand those that are
  wrong, which give a strict reading its reason.

The order of the alternatives is part of the grammar, since the first fault that is met is reported.
-/

import LetShadow.Expression.Lambda
import LetShadow.Expression.Number
import LetShadow.Expression.Quote

namespace LetShadow.Expression

open Phrase

/-! ### Names for expressions -/

/-- An expression that is given a name. -/
def assignment : Form :=
  node .assignment (row [identifier, sign ":=", rule .expression])

/-- An expression that no colon and equals sign follow. -/
def unassigned : Form :=
  row [rule .expression, notAhead (sign ":=")]

/-- An expression that may have a name. -/
def named : Form :=
  first [assignment, strict (rule .misnamed), unassigned]

/-- Such an expression, or one that is taken apart. -/
def starNamed : Form :=
  first [node .starred (row [sign "*", rule .bitOr]), named]

/-- Some of them, with commas between. -/
def starNamedList : Form :=
  row [listed starNamed, optional comma]

/-- Some expressions, with commas between; those with a star are taken apart. -/
def starExpressions : Form :=
  tupled (rule .starExpression)

/-- An argument that is taken apart. -/
def starredArgument : Form :=
  node .starred
    (first [
      row [sign "*", rule .expression],
      refused .bareStar (sign "*") ])

/-- One more equals sign, or a colon and an equals sign. -/
def equalsAgain : Form :=
  first [sign "=", sign ":="]

/-! ### Loops over values -/

/-- What may follow a part of a target that is not the last. -/
def targetGoesOn : Form :=
  ahead (first [sign "(", sign "."])

/-- The targets of a loop. -/
def starTargets : Form :=
  first [
    row [rule .starTarget, notAhead comma],
    row [listed (rule .starTarget), optional comma] ]

/-- The begin of a loop up to its values. -/
def loopHead : Form :=
  row [optional (word "async"), word "for", starTargets, word "in"]

/-- What is wrong with the targets of a loop. -/
def targetFault? (trees : List Tree) (_ : Option Token) : Option Fault := do
  let wrong ← (← trees.getLast?).wrongTarget?
  return .order (.notTarget wrong.title)

/-- A loop over values, some of which may be left out. -/
def loop : Form :=
  first [
    row [loopHead, rule .disjunction, many (row [word "if", rule .disjunction])],
    row [
      notAhead loopHead,
      suspect targetFault? (row [optional (word "async"), word "for", starExpressions]) ] ]

/-- The loops of an expression. -/
def loops : Form :=
  oneOrMore loop

/-- What is wrong with an expression and its loops. -/
def wrongLoops : Form :=
  first [
    wrong .starredInComprehension
      (row [first [sign "(", sign "\x7b"], starredArgument, loops]),
    wrong .tupleNotInParentheses (row [sign "\x7b", starNamed, comma, starNamedList, loops]),
    wrong .tupleNotInParentheses (row [sign "\x7b", starNamed, comma, loops]) ]

/-! ### Brackets -/

/-- A tuple in parentheses. -/
def parenthesizedTuple : Form :=
  node .tuple
    (row [
      sign "(",
      optional (row [starNamed, comma, optional starNamedList]),
      sign ")" ])

/-- A loop whose values are made one by one. -/
def generator : Form :=
  first [
    node .generator (row [sign "(", first [assignment, unassigned], loops, sign ")"]),
    wrongLoops ]

/-- An expression that hands out a value. -/
def yielded : Form :=
  node .yield
    (first [
      row [word "yield", word "from", rule .expression],
      row [word "yield", optional starExpressions] ])

/-- An expression in parentheses. -/
def group : Form :=
  first [
    row [sign "(", first [yielded, named], sign ")"],
    wrong .starHere (row [sign "(", starredArgument, sign ")"]),
    wrong .doubleStarHere (row [sign "(", sign "**", rule .expression, sign ")"]) ]

/-- A key of a dictionary with its value. -/
def pair : Form :=
  node .pair (row [rule .expression, sign ":", rule .expression])

/-- The entries of a dictionary, with commas between. -/
def entries : Form :=
  listed (first [node .unpacked (row [sign "**", rule .bitOr]), pair])

/-- A key with a colon that no value follows. -/
def keyWithoutValue : Form :=
  row [rule .expression, sign ":", ahead (first [sign "\x7d", comma])]

/-- A key with a value that is taken apart. -/
def keyWithStar : Form :=
  row [rule .expression, sign ":", sign "*", rule .bitOr]

/-- What is wrong with the entries of a dictionary, in any reading. -/
def wrongEntries : Form :=
  first [
    refused .missingColon (row [entries, comma, rule .expression, notAhead (sign ":")]),
    refused .starredValue (row [entries, comma, keyWithStar]),
    refused .missingValue (row [entries, comma, keyWithoutValue]),
    refused .starredValue keyWithStar,
    refused .missingValue keyWithoutValue ]

/-- A dictionary. -/
def dictionary : Form :=
  first [
    node .dictionary
      (row [sign "\x7b", optional (row [entries, optional comma]), sign "\x7d"]),
    row [sign "\x7b", wrongEntries] ]

/-- A set. -/
def set : Form :=
  node .set (row [sign "\x7b", starNamedList, sign "\x7d"])

/-- A dictionary from loops. -/
def dictionaryOfLoops : Form :=
  first [
    node .dictionaryComprehension (row [sign "\x7b", pair, loops, sign "\x7d"]),
    wrong .unpackingInComprehension
      (row [sign "\x7b", sign "**", rule .bitOr, loops, sign "\x7d"]) ]

/-- A set from loops. -/
def setOfLoops : Form :=
  first [
    node .setComprehension (row [sign "\x7b", named, loops, sign "\x7d"]),
    wrongLoops ]

/-! ### Single expressions -/

/-- What is wrong with a number. -/
def numberFault? (trees : List Tree) (_ : Option Token) : Option Fault :=
  match trees with
  | [.leaf written] =>
    ((decimalCount? written.text.toList).filter (· > Text.greatestDigitCount)).map
      fun count => .order (.tooManyDigits count)
  | _ => none

/-- A number. -/
def number : Form :=
  check numberFault? (literal .number)

/-- The quoted texts among some trees. -/
def quotedOf (trees : List Tree) : List Quoted :=
  trees.filterMap fun tree =>
    match tree with
    | .leaf written => some (.ofText written.text.toList)
    | .node _ _ => none

/-- What is wrong with quoted texts. -/
def textsFault? (format? : Quoted → Option Fault) (trees : List Tree) (_ : Option Token) :
    Option Fault :=
  quotesFault? format? none (quotedOf trees)

/-- Quoted texts as one expression. -/
def joinTexts (trees : List Tree) : List Tree :=
  [.node (if (quotedOf trees).any (·.isFormatted) then .formatted else .text) trees]

/-- Quoted texts that follow each other. -/
def texts (format? : Quoted → Option Fault) : Form :=
  build joinTexts (check (textsFault? format?) (oneOrMore (literal .text)))

/-- The words for constants. -/
def constants : Form :=
  first [constant "True", constant "False", constant "None"]

/-- An expression without operators. -/
def atom : Form :=
  first [
    identifier,
    constants,
    rule .texts,
    number,
    row [ahead (sign "("), first [parenthesizedTuple, group, generator]],
    row [ahead (sign "\x7b"), first [dictionary, set, dictionaryOfLoops, setOfLoops]],
    mark "..." ]

/-- What an expression is used for: an attribute of it is taken, or it is called. -/
def use : Form :=
  first [
    node .attribute (row [sign ".", identifier]),
    node .call generator,
    node .call (row [sign "(", optional (rule .arguments), sign ")"]) ]

/-- An expression as a part of what it is used for. -/
def Tree.usedFor (base : Tree) : Tree → Tree
  | .leaf last => .leaf last
  | .node kind parts => .node kind (base :: parts)

/-- An expression with its uses, one after the other. -/
def withUses (trees : List Tree) : List Tree :=
  match trees with
  | [] => []
  | base :: uses => [uses.foldl Tree.usedFor base]

/-! ### Arguments -/

/-- What is wrong with an argument that has a name. -/
def wrongNamed : Form :=
  first [
    suspect (fun trees _ => (trees.head?).map fun tree => .order (.notTarget tree.title))
      (row [constants, sign "="]),
    wrong .singleEquals (row [identifier, sign "=", rule .expression, loops]),
    wrong .argumentAssigned
      (row [notAhead (row [identifier, sign "="]), rule .expression, sign "="]) ]

/-- An argument with its name. -/
def namedArgument : Form :=
  node .named (row [identifier, sign "=", rule .expression])

/-- Arguments with names, or those that are taken apart. -/
def namedOrStarred : Form :=
  listed (first [wrongNamed, namedArgument, starredArgument])

/-- Arguments with names, or those that a dictionary holds. -/
def namedOrUnpacked : Form :=
  listed
    (first [wrongNamed, namedArgument, node .unpacked (row [sign "**", rule .expression])])

/-- The arguments from the first one with a name on. -/
def laterArguments : Form :=
  first [row [namedOrStarred, comma, namedOrUnpacked], namedOrStarred, namedOrUnpacked]

/-- An argument without a name. -/
def positional : Form :=
  first [starredArgument, row [first [assignment, unassigned], notAhead (sign "=")]]

/-- Arguments in their order. -/
def argumentList : Form :=
  node .arguments
    (first [row [listed positional, optional (row [comma, laterArguments])], laterArguments])

/-- Arguments with loops after the last one. -/
def argumentsWithLoops : Form :=
  row [argumentList, loops]

/-- Loops may follow a single argument only. -/
def loopsFault? (trees : List Tree) (_ : Option Token) : Option Fault :=
  match trees with
  | .node .arguments parts :: _ =>
    let positional := parts.filter fun part => !part.isOf .named && !part.isOf .unpacked
    if positional.length > 1 then some (.order .generatorNotInParentheses) else none
  | _ => none

/-- What is wrong with arguments that follow others. -/
def orderFault? (trees : List Tree) (_ : Option Token) : Option Fault :=
  match trees with
  | .node .arguments parts :: _ =>
    if parts.any (·.isOf .unpacked) then some (.order .positionalAfterUnpacking)
    else some (.order .positionalAfterKeyword)
  | _ => none

/-- Arguments with at least one that has a name or is taken from a dictionary. -/
def mixedArguments : Form :=
  first [row [listed positional, comma, laterArguments], laterArguments]

/-- What is wrong with arguments. -/
def wrongArguments : Form :=
  first [
    wrong .iterableAfterUnpacking
      (row [mixedArguments, comma, listed (row [starredArgument, notAhead (sign "=")])]),
    wrong .generatorNotInParentheses
      (row [
        rule .expression, loops, comma,
        optional (first [argumentList, row [rule .expression, loops]]) ]),
    wrong .singleEquals (row [identifier, sign "=", rule .expression, loops]),
    suspect loopsFault? argumentsWithLoops,
    wrong .generatorNotInParentheses
      (row [notAhead argumentsWithLoops, argumentList, comma, rule .expression, loops]),
    suspect orderFault?
      (row [notAhead argumentsWithLoops, argumentList, comma, argumentList]) ]

/-! ### Operators -/

/-- Operands with signs between them. -/
def operation (signs : List String) (operand : Rule) : Form :=
  nodeIfMany .operation
    (row [rule operand, many (row [first (signs.map mark), rule operand])])

/-- A power, or a single operand. -/
def power : Form :=
  nodeIfMany .operation (row [rule .await, optional (row [mark "**", rule .factor])])

/-- The operators that compare. -/
def comparators : Form :=
  first [
    mark "==", mark "!=", mark "<=", mark "<", mark ">=", mark ">",
    row [constant "not", constant "in"], constant "in",
    row [constant "is", constant "not"], constant "is" ]

/-- Operands that are compared. -/
def comparison : Form :=
  nodeIfMany .comparison (row [rule .bitOr, many (row [comparators, rule .bitOr])])

/-! ### Expressions -/

/-- An expression without a choice or a function around it, or with one of the two. -/
def plainExpression : Form :=
  first [
    node .conditional
      (row [
        rule .disjunction, word "if", rule .disjunction, word "else", rule .expression ]),
    rule .disjunction,
    node .lambda (row [parameters, rule .expression]) ]

/-- The names of what used to be called without parentheses. -/
def formerStatements : List String :=
  ["print", "exec"]

/-- Is the tree such a name? -/
def isFormerStatement (tree : Tree) : Bool :=
  tree.name?.any formerStatements.contains

/-- Two expressions that follow each other. -/
def juxtaposed : Form :=
  row [
    notAhead (first [row [identifier, literal .text], softKeyword]),
    rule .disjunction,
    lenient plainExpression ]

/-- What is wrong with two expressions that follow each other: a comma is missing within brackets.
-/
def juxtaposedFault? (trees : List Tree) (last : Option Token) : Option Fault :=
  if trees.head?.any isFormerStatement ∨ last.all (·.depth = 0) then none
  else some (.order .missingComma)

/-- What is wrong with a name and expressions that follow it. -/
def callFault? (trees : List Tree) (_ : Option Token) : Option Fault :=
  match trees.head?.bind Tree.name? with
  | some name =>
    if formerStatements.contains name then some (.order (.missingCall name)) else none
  | none => none

/-- What is wrong with an expression. -/
def wrongExpression : Form :=
  first [
    suspect juxtaposedFault? juxtaposed,
    wrong .missingElse
      (row [
        notAhead juxtaposed,
        rule .disjunction, word "if", rule .disjunction,
        notAhead (first [word "else", sign ":"]) ]),
    suspect callFault? (row [identifier, notAhead (sign "("), starExpressions]) ]

/-- What is wrong with an expression that should have a name. -/
def wrongNaming : Form :=
  first [
    suspect (fun trees _ => trees.head?.map fun tree => .order (.notNameable tree.title))
      (row [rule .expression, sign ":=", rule .expression]),
    wrong .singleEquals (row [identifier, sign "=", rule .bitOr, notAhead equalsAgain]),
    suspect (fun trees _ => trees.head?.map fun tree => .order (.notAssignable tree.title))
      (row [
        notAhead (first [parenthesizedTuple, generator, constants]),
        rule .bitOr, sign "=", rule .bitOr, notAhead equalsAgain ]) ]

/-! ### Rules -/

/-- The phrases of the rules. -/
def phraseOf (format? : Quoted → Option Fault) : Rule → Form
  | .whole =>
    row [tupled (rule .expression), hidden (row [many (literal .lineEnd), literal .ending])]
  | .expression => first [wrongExpression, plainExpression]
  | .misnamed => wrongNaming
  | .starExpression =>
    first [node .starred (row [sign "*", rule .bitOr]), rule .expression]
  | .disjunction =>
    nodeIfMany .operation (row [rule .conjunction, many (row [word "or", rule .conjunction])])
  | .conjunction =>
    nodeIfMany .operation (row [rule .inversion, many (row [word "and", rule .inversion])])
  | .inversion => first [node .operation (row [word "not", rule .inversion]), comparison]
  | .bitOr => operation ["|"] .bitXor
  | .bitXor => operation ["^"] .bitAnd
  | .bitAnd => operation ["&"] .shift
  | .shift => operation ["<<", ">>"] .sum
  | .sum => operation ["+", "-"] .term
  | .term => operation ["*", "/", "//", "%", "@"] .factor
  | .factor =>
    first [
      node .operation (row [first [mark "+", mark "-", mark "~"], rule .factor]),
      power ]
  | .await => first [node .await (row [word "await", rule .primary]), rule .primary]
  | .primary => build withUses (row [atom, many use])
  | .texts => texts format?
  | .arguments =>
    first [row [argumentList, optional comma, ahead (sign ")")], wrongArguments]
  | .starTarget =>
    first [row [sign "*", notAhead (sign "*"), rule .starTarget], rule .target]
  | .target =>
    first [
      row [rule .targetPrimary, sign ".", identifier, notAhead targetGoesOn],
      identifier,
      row [sign "(", rule .target, sign ")"],
      row [
        sign "(",
        optional
          (row [rule .starTarget, comma, optional (listed (rule .starTarget)), optional comma]),
        sign ")" ] ]
  | .targetPrimary =>
    row [atom, targetGoesOn, many (row [use, targetGoesOn])]

/-- The grammar of expressions. What is wrong with the expressions inside a quoted text is for
`format?` to tell. -/
def grammar (format? : Quoted → Option Fault) : Grammar Rule where
  phrase := phraseOf format?
  isKept rule := rule ≠ .whole
  size := Rule.count

end LetShadow.Expression
