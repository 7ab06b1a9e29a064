/-
**Expressions inside quoted texts.**

In such a text an expression stands between braces, and a doubled brace is plain text. A conversion
after an exclamation mark or a format after a colon may follow the expression; a format may hold
expressions again, but theirs may not.

* `cutLiteral` — the plain text up to a brace.
* `cutExpression` — the expression up to what ends it.
* `formatFault?` — **what is wrong with the expressions inside a text.**
-/

import LetShadow.Expression.Bracket
import LetShadow.Expression.Quote

namespace LetShadow.Expression

/-! ### Plain text -/

/-- A plain text in front of a brace or at the end. If its last character stands for a doubled brace,
plain text goes on. -/
structure LiteralCut where
  piece : List Char
  goesOn : Bool
  rest : List Char
deriving DecidableEq, Repr

/-- Is the character a brace? -/
def isBrace (char : Char) : Bool :=
  char = '{' || char = '}'

/-- The cut at a brace, after `piece` in reverse. Braces are doubled outside formats only. -/
def cutAtBrace (nested : Bool) (piece : List Char) (brace : Char) (rest : List Char) :
    Except FormatFault LiteralCut :=
  if !nested ∧ rest.head? = some brace then
    .ok { piece := (brace :: piece).reverse, goesOn := true, rest := rest.tail }
  else if !nested ∧ brace = '}' then .error .singleBrace
  else .ok { piece := piece.reverse, goesOn := false, rest := brace :: rest }

/-- The plain text at the begin of a text; `piece` is the part read so far, in reverse. Braces around
the name of a character are plain text. -/
def cutLiteral (raw nested inName : Bool) (piece : List Char) :
    List Char → Except FormatFault LiteralCut
  | [] => .ok { piece := piece.reverse, goesOn := false, rest := [] }
  | [char] =>
    if !inName ∧ isBrace char then cutAtBrace nested piece char []
    else .ok { piece := (char :: piece).reverse, goesOn := false, rest := [] }
  | char :: next :: rest =>
    if inName then cutLiteral raw nested (char ≠ '}') (char :: piece) (next :: rest)
    else if char = '\\' ∧ !raw then
      if next = 'N' then
        match rest with
        | [] => .ok { piece := (next :: char :: piece).reverse, goesOn := false, rest := [] }
        | brace :: after =>
          cutLiteral raw nested (brace = '{') (brace :: next :: char :: piece) after
      else if isBrace next then cutAtBrace nested (char :: piece) next rest
      else cutLiteral raw nested false (next :: char :: piece) rest
    else if isBrace char then cutAtBrace nested piece char (next :: rest)
    else cutLiteral raw nested false (char :: piece) (next :: rest)

/-! ### Expressions -/

/-- May the character end an expression? -/
def endsExpression (char : Char) : Bool :=
  char = '!' || char = ':' || char = '}' || char = '='

/-- Does the character belong to an equals sign after it? -/
def joinsEquals (char : Char) : Bool :=
  char = '!' || char = '=' || char = '<' || char = '>'

/-- A text that is quoted inside an expression, by one or by three quotes. -/
structure Quoting where
  quote : Char
  marks : Nat
deriving DecidableEq, Repr

/-- A text that is quoted from a quote on; `rest` stands after the quote. -/
def Quoting.opened (quote : Char) (rest : List Char) : Quoting where
  quote
  marks := if rest.take 2 = [quote, quote] then 3 else 1

/-- Does the quoted text end at the begin of a text? -/
def Quoting.endsAt (quoting : Quoting) (text : List Char) : Bool :=
  text.take quoting.marks = List.replicate quoting.marks quoting.quote

/-- A place inside an expression: the text quoted there, and the open brackets, innermost first. -/
structure Place where
  quoting : Option Quoting := none
  opened : List Char := []
deriving DecidableEq, Repr

namespace Place

/-- The place after a sign that is no end of the expression. -/
def afterSign (place : Place) (char : Char) : Except FormatFault Place :=
  match openingOf? char, place.opened with
  | none, _ => .ok place
  | some _, [] => .error (.unmatched char)
  | some opening, bracket :: outer =>
    if opening = bracket then .ok { place with opened := outer }
    else .error (.mismatched char bracket)

/-- The place after a character, and how many more characters belong to it; nothing if the expression
ends there. -/
def step (place : Place) (char : Char) (rest : List Char) :
    Except FormatFault (Option (Place × Nat)) :=
  if char = '\\' then .error .backslash
  else
    match place.quoting with
    | some quoting =>
      if quoting.endsAt (char :: rest) then
        .ok (some ({ place with quoting := none }, quoting.marks - 1))
      else .ok (some (place, 0))
    | none =>
      if isQuote char then
        let quoting := Quoting.opened char rest
        .ok (some ({ place with quoting := some quoting }, quoting.marks - 1))
      else if isOpening char then
        if place.opened.length ≥ deepest then .error .tooManyOpen
        else .ok (some ({ place with opened := char :: place.opened }, 0))
      else if char = '#' then .error .comment
      else if place.opened = [] ∧ joinsEquals char ∧ rest.head? = some '=' then
        .ok (some (place, 1))
      else if place.opened = [] ∧ endsExpression char then .ok none
      else (place.afterSign char).map fun after => some (after, 0)

/-- Checks that nothing is left open where an expression ends. -/
def close (place : Place) : Except FormatFault Unit :=
  match place.quoting, place.opened with
  | some _, _ => .error .unterminated
  | none, bracket :: _ => .error (.unmatched bracket)
  | none, [] => .ok ()

end Place

/-- The expression at the begin of a text, and what stands after it; `found` is the part read so far,
in reverse. -/
def cutExpression (place : Place) (found text : List Char) :
    Except FormatFault (List Char × List Char) :=
  match text with
  | [] => place.close.map fun _ => (found.reverse, [])
  | char :: rest =>
    match place.step char rest with
    | .error fault => .error fault
    | .ok none => .ok (found.reverse, char :: rest)
    | .ok (some (after, joined)) =>
      cutExpression after ((rest.take joined).reverse ++ char :: found) (rest.drop joined)
termination_by text.length
decreasing_by simp only [List.length_drop, List.length_cons]; omega

/-- Is the character white space between the parts of an expression? -/
def isInnerBlank (char : Char) : Bool :=
  [' ', '\t', '\n', '\x0c', '\r'].contains char

/-- The end of an expression as it is named where the expression is missing. -/
def namedEnding (rest : List Char) : Option Char :=
  rest.head?.filter (· ≠ '}')

/-- What follows an equals sign, which asks for the text of the expression, and blanks. -/
def skipEquals (rest : List Char) : List Char :=
  match rest with
  | '=' :: after => after.dropWhile fun char => isInnerBlank char || char = '\x0b'
  | _ => rest

/-- What follows a conversion. -/
def skipConversion (rest : List Char) : Except FormatFault (List Char) :=
  match rest with
  | ['!'] => .error .missingBrace
  | '!' :: letter :: after =>
    if letter = 's' ∨ letter = 'r' ∨ letter = 'a' then .ok after else .error .badConversion
  | _ => .ok rest

/-! ### Texts -/

/-- Checks an expression that ends at `rest`. -/
def checkInside (inner : List Char → Option Fault) (expression rest : List Char) :
    Except Fault Unit :=
  if rest = [] then .error (.format .missingBrace)
  else if expression.all isInnerBlank then .error (.format (.noExpression (namedEnding rest)))
  else
    match inner expression with
    | some fault => .error (.inside fault)
    | none => .ok ()

/-- The greatest level of formats that hold expressions. -/
def deepestFormat : Nat :=
  1

/-- Checks a text or a format up to its end, and gives what follows it. `level` counts the formats
around it, `limit` bounds its parts. -/
def checkFormat (inner : List Char → Option Fault) (raw : Bool) :
    Nat → Nat → List Char → Except Fault (List Char)
  | 0, _, text => .ok text
  | limit + 1, level, text => do
    let cut ← (cutLiteral raw (level ≠ 0) false [] text).mapError .format
    if !raw then
      match escapeFault? 0 cut.piece with
      | some fault => throw (.quote fault)
      | none => pure ()
    if cut.goesOn then checkFormat inner raw limit level cut.rest
    else
      match cut.rest with
      | '{' :: after =>
        if level > deepestFormat then throw (.format .tooDeep)
        let (expression, rest) ← (cutExpression {} [] after).mapError .format
        checkInside inner expression rest
        let rest ← (skipConversion (skipEquals rest)).mapError .format
        let rest ←
          match rest with
          | ':' :: format => checkFormat inner raw limit (level + 1) format
          | _ => pure rest
        match rest with
        | '}' :: after => checkFormat inner raw limit level after
        | _ => throw (.format .missingBrace)
      | rest => return rest

/-- What is wrong with the expressions inside a text. -/
def formatFault? (inner : List Char → Option Fault) (quoted : Quoted) : Option Fault :=
  match checkFormat inner quoted.isRaw (quoted.content.length + 1) 0 quoted.content with
  | .error fault => some fault
  | .ok _ => none

end LetShadow.Expression
