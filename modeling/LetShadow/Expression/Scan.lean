/-
**The tokens of a text.**

Blanks separate tokens. A sharp makes the rest of its line a comment, a backslash joins its line to
the next one. Within brackets the ends of lines do not count; elsewhere they are tokens, unless they
end empty lines, and a line that is indented more than the first begins with a token of its own.

* `tokensOf` — **the tokens of a text,** read from the left.
-/

import LetShadow.Expression.Bracket
import LetShadow.Expression.Quote
import LetShadow.Expression.Token
import LetShadow.Text.Identifier

namespace LetShadow.Expression

/-! ### Signs -/

/-- The signs of more than one character, the longer ones first. -/
def longSigns : List String :=
  [ "**=", "//=", ">>=", "<<=", "...", "!=", "%=", "&=", "**", "*=", "+=", "-=", "->", "//", "/=",
    ":=", "<<", "<=", "<>", "==", ">=", ">>", "@=", "^=", "|=" ]

/-- The longest sign at the begin of a text whose first character is `first`. -/
def signAt (first : Char) (rest : List Char) : List Char :=
  match longSigns.find? fun sign => sign.toList.isPrefixOf (first :: rest) with
  | some sign => sign.toList
  | none => [first]

/-- The open brackets after a sign in a line, innermost first. -/
def bracketsAfter (opened : List Opening) (line : Nat) (sign : List Char) :
    Except ScanFault (List Opening) :=
  match sign with
  | [char] =>
    match openingOf? char with
    | some bracket =>
      match opened with
      | [] => .error (.unmatched char)
      | innermost :: outer =>
        if innermost.bracket = bracket then .ok outer
        else
          let other := if innermost.line = line then none else some innermost.line
          .error (.mismatched char innermost.bracket other)
    | none =>
      if !isOpening char then .ok opened
      else if opened.length ≥ deepest then .error .tooManyOpen
      else .ok (⟨char, line⟩ :: opened)
  | _ => .ok opened

/-! ### Names -/

/-- The first character of a name that may not stand there. -/
def wrongInName? : List Char → Option Char
  | [] => none
  | first :: rest =>
    if !Text.beginsIdentifier first then some first
    else rest.find? fun char => !Text.continuesIdentifier char

/-- The kind of a token in letters. -/
def wordKind (word : String) : TokenKind :=
  if keywords.contains word then .keyword else .name

/-! ### Tokens -/

/-- The kind of the token that begins with a character, the open brackets after it, and what follows
it. -/
def readToken (opened : List Opening) (line : Nat) (first : Char) (rest : List Char) :
    Except ScanFault (TokenKind × List Opening × List Char) := do
  if isNameStart first then
    let word := first :: rest.takeWhile isNameCharacter
    let after := rest.dropWhile isNameCharacter
    match after with
    | quote :: content =>
      if isQuote quote ∧ isQuoteLetters word then
        return (.text, opened, ← skipQuoted quote line content)
    | [] => pure ()
    match wrongInName? word with
    | some char => throw (.badCharacter char)
    | none => return (wordKind (String.ofList word), opened, after)
  else if isQuote first then return (.text, opened, ← skipQuoted first line rest)
  else if first.isDigit then return (.number, opened, ← skipNumber first rest)
  else if first = '.' ∧ rest.head?.any Char.isDigit then
    return (.number, opened, ← skipFraction rest)
  else
    let sign := signAt first rest
    let opened ← bracketsAfter opened line sign
    if Text.isPrintable first.toNat then return (.sign, opened, rest.drop (sign.length - 1))
    else throw (.badCharacter first)

/-- How far a text has been read: the tokens so far, latest first, the open brackets, innermost
first, the line, the indentation of what comes next in it, and whether the line has a token. -/
structure Scan where
  tokens : List Token := []
  opened : List Opening := []
  line : Nat := 1
  indentation : Nat := 0
  begun : Bool := false
deriving Repr

namespace Scan

/-- Adds a token. -/
def push (scan : Scan) (kind : TokenKind) (text : List Char) : Scan :=
  { scan with
    tokens := ⟨kind, String.ofList text, scan.opened.length, scan.line⟩ :: scan.tokens }

/-- The tokens that have been read, and why there are no more. -/
def stopped (scan : Scan) (stop : Stop) : Tokens where
  all := scan.tokens.reverse.toArray
  stop

/-- The number of cells between two tab stops. -/
def tabSize : Nat :=
  8

/-- Passes over a blank. A form feed begins the indentation anew. -/
def blank (scan : Scan) (char : Char) : Scan :=
  { scan with
    indentation :=
      if char = ' ' then scan.indentation + 1
      else if char = '\t' then (scan.indentation / tabSize + 1) * tabSize
      else 0 }

/-- Ends a line. -/
def newLine (scan : Scan) : Scan :=
  let ended := if scan.opened.isEmpty ∧ scan.begun then scan.push .lineEnd ['\n'] else scan
  { ended with
    line := scan.line + 1
    indentation := 0
    begun := scan.begun && !scan.opened.isEmpty }

/-- Joins a line to the next one. -/
def joinLine (scan : Scan) : Scan :=
  { scan with line := scan.line + 1 }

/-- Begins a token. The first one of an indented line has a token before it. -/
def beginToken (scan : Scan) : Scan :=
  let begun := { scan with begun := true }
  if !scan.begun ∧ scan.opened.isEmpty ∧ scan.indentation > 0 then begun.push .indent [] else begun

/-- Adds a token in one or more lines, after which other brackets are open. -/
def token (scan : Scan) (kind : TokenKind) (text : List Char) (opened : List Opening) : Scan :=
  let added := { scan with opened }.push kind text
  { added with line := scan.line + text.count '\n' }

/-- Ends the text. -/
def ended (scan : Scan) : Tokens :=
  match scan.opened with
  | [] => (scan.push .ending []).stopped .complete
  | innermost :: _ => scan.stopped (.within innermost)

end Scan

/-- Is the character a blank between tokens? -/
def isGap (char : Char) : Bool :=
  char = ' ' || char = '\t' || char = '\x0c'

/-- The tokens of a text that has been read up to `text`. -/
def scanFrom (scan : Scan) (text : List Char) : Tokens :=
  match text with
  | [] => scan.ended
  | first :: rest =>
    if isGap first then scanFrom (scan.blank first) rest
    else if first = '\n' then scanFrom scan.newLine rest
    else if first = '#' then
      scanFrom scan (rest.drop (rest.takeWhile (· ≠ '\n')).length)
    else if first = '\\' then
      match rest with
      | '\n' :: after => scanFrom scan.joinLine after
      | _ => scan.stopped (.backslash scan.opened.head?)
    else
      let begun := scan.beginToken
      match readToken begun.opened begun.line first rest with
      | .error fault => begun.stopped (.wrong fault)
      | .ok (kind, opened, after) =>
        let length := rest.length - after.length
        scanFrom (begun.token kind (first :: rest.take length) opened) (rest.drop length)
termination_by text.length
decreasing_by all_goals simp_all; try omega

/-- The tokens of a text. -/
def tokensOf (text : List Char) : Tokens :=
  scanFrom {} text

end LetShadow.Expression
