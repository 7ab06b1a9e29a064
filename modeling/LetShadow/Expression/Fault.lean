/-
**Faults of expressions.**

* `ScanFault` — what can be wrong with the characters: with brackets, quotes, numbers and names.
* `QuoteFault` — what can be wrong with the content of a quoted text.
* `FormatFault` — what can be wrong with the expressions inside a quoted text.
* `SyntaxFault` — what can be wrong with the order of the tokens.
* `Fault.message` — **the text of a fault.**
-/

import LetShadow.Text.DigitLimit
import LetShadow.Text.Quoted

namespace LetShadow.Expression

/-! ### Characters -/

/-- The forms of numbers. -/
inductive NumberForm where
  | decimal
  | hexadecimal
  | octal
  | binary
  | imaginary
deriving DecidableEq, Repr

/-- The name of a form. -/
def NumberForm.title : NumberForm → String
  | .decimal => "decimal"
  | .hexadecimal => "hexadecimal"
  | .octal => "octal"
  | .binary => "binary"
  | .imaginary => "imaginary"

/-- What can be wrong with characters. -/
inductive ScanFault where
  /-- A closing bracket, and none is open. -/
  | unmatched (closing : Char)
  /-- A closing bracket that does not fit the open one, and the line of that if it is another. -/
  | mismatched (closing opening : Char) (line : Option Nat)
  /-- Too many brackets are open. -/
  | tooManyOpen
  /-- A quoted text has no end; a long one is between three quotes. -/
  | unterminated (long : Bool) (line : Nat)
  | badNumber (form : NumberForm)
  | badDigit (digit : Char) (form : NumberForm)
  | leadingZeros
  /-- A character that stands in no expression. -/
  | badCharacter (char : Char)
  /-- A null character, wherever it stands. -/
  | nullCharacter
deriving DecidableEq, Repr

/-- A character with its code point, or its code point alone if it is not printable. -/
def characterMessage (char : Char) : String :=
  let point := "U+" ++ String.ofList ((Text.hexadecimal 4 char.toNat).map Char.toUpper)
  if Text.isPrintable char.toNat then
    "invalid character '" ++ String.ofList [char] ++ "' (" ++ point ++ ")"
  else "invalid non-printable character " ++ point

/-- The report of a fault in characters. -/
def ScanFault.message : ScanFault → String
  | .unmatched closing => "unmatched '" ++ String.ofList [closing] ++ "'"
  | .mismatched closing opening line =>
    "closing parenthesis '" ++ String.ofList [closing] ++
      "' does not match opening parenthesis '" ++ String.ofList [opening] ++ "'" ++
      (match line with | none => "" | some line => " on line " ++ toString line)
  | .tooManyOpen => "too many nested parentheses"
  | .unterminated false line =>
    "unterminated string literal (detected at line " ++ toString line ++ ")"
  | .unterminated true line =>
    "unterminated triple-quoted string literal (detected at line " ++ toString line ++ ")"
  | .badNumber form => "invalid " ++ form.title ++ " literal"
  | .badDigit digit form =>
    "invalid digit '" ++ String.ofList [digit] ++ "' in " ++ form.title ++ " literal"
  | .leadingZeros =>
    "leading zeros in decimal integer literals are not permitted; " ++
      "use an 0o prefix for octal integers"
  | .badCharacter char => characterMessage char
  | .nullCharacter => "source code string cannot contain null bytes"

/-! ### Quoted texts -/

/-- What can be wrong with an escape. -/
inductive EscapeProblem where
  /-- Digits of a code point are missing; `letter` follows the backslash. -/
  | truncated (letter : Char) (digits : Nat)
  /-- The code point is too large. -/
  | tooLarge
  /-- The name of a character is missing. -/
  | namelessCharacter
deriving DecidableEq, Repr

/-- The report of a problem with an escape. -/
def EscapeProblem.message : EscapeProblem → String
  | .truncated letter digits =>
    "truncated \\" ++ String.ofList (letter :: List.replicate digits 'X') ++ " escape"
  | .tooLarge => "illegal Unicode character"
  | .namelessCharacter => "malformed \\N character escape"

/-- What can be wrong with quoted texts. -/
inductive QuoteFault where
  /-- Texts of characters and texts of bytes follow each other. -/
  | mixed
  /-- A text of bytes has a character that is no byte. -/
  | notAscii
  /-- An escape from its first to its last character. -/
  | badEscape (problem : EscapeProblem) (first last : Nat)
  /-- An escape of a byte. -/
  | badByteEscape (position : Nat)
deriving DecidableEq, Repr

/-- The report of a fault in quoted texts. -/
def QuoteFault.message : QuoteFault → String
  | .mixed => "cannot mix bytes and nonbytes literals"
  | .notAscii => "bytes can only contain ASCII literal characters"
  | .badEscape problem first last =>
    "(unicode error) 'unicodeescape' codec can't decode bytes in position " ++
      toString first ++ "-" ++ toString last ++ ": " ++ problem.message
  | .badByteEscape position => "(value error) invalid \\x escape at position " ++ toString position

/-- What can be wrong with the expressions inside a quoted text. -/
inductive FormatFault where
  /-- A closing brace that closes nothing. -/
  | singleBrace
  | missingBrace
  /-- Nothing stands before what ends an expression; no character is named for a brace. -/
  | noExpression (ending : Option Char)
  | backslash
  | comment
  | unterminated
  | tooManyOpen
  | unmatched (bracket : Char)
  | mismatched (closing opening : Char)
  | badConversion
  /-- Expressions inside the format of expressions inside formats. -/
  | tooDeep
deriving DecidableEq, Repr

/-- The report of a fault in the expressions inside a quoted text. -/
def FormatFault.message : FormatFault → String
  | .singleBrace => "f-string: single '\x7d' is not allowed"
  | .missingBrace => "f-string: expecting '\x7d'"
  | .noExpression none => "f-string: empty expression not allowed"
  | .noExpression (some ending) =>
    "f-string: expression required before '" ++ String.ofList [ending] ++ "'"
  | .backslash => "f-string expression part cannot include a backslash"
  | .comment => "f-string expression part cannot include '#'"
  | .unterminated => "f-string: unterminated string"
  | .tooManyOpen => "f-string: too many nested parenthesis"
  | .unmatched bracket => "f-string: unmatched '" ++ String.ofList [bracket] ++ "'"
  | .mismatched closing opening =>
    "f-string: closing parenthesis '" ++ String.ofList [closing] ++
      "' does not match opening parenthesis '" ++ String.ofList [opening] ++ "'"
  | .badConversion => "f-string: invalid conversion character: expected 's', 'r', or 'a'"
  | .tooDeep => "f-string: expressions nested too deeply"

/-! ### Tokens -/

/-- What can be wrong with the order of tokens. A title names a kind of expression. -/
inductive SyntaxFault where
  | unspecified
  | unexpectedIndent
  | unexpectedBackslash
  | neverClosed (opening : Char)
  | tooManyDigits (count : Nat)
  | missingComma
  | missingElse
  | missingCall (name : String)
  /-- One equals sign after a name. -/
  | singleEquals
  | notAssignable (title : String)
  | notNameable (title : String)
  | notTarget (title : String)
  | starHere
  | doubleStarHere
  | bareStar
  | missingColon
  | missingValue
  | starredValue
  | argumentAssigned
  | positionalAfterKeyword
  | positionalAfterUnpacking
  | iterableAfterUnpacking
  | generatorNotInParentheses
  | starredInComprehension
  | tupleNotInParentheses
  | unpackingInComprehension
  | missingDefault
  | noDefaultAfterDefault
  | parametersInParentheses
  | slashFirst
  | slashTwice
  | slashAfterStar
  | slashBeforeStar
  | nothingAfterStar
  | starDefault
  | starTwice
  | doubleStarDefault
  | afterDoubleStar
deriving DecidableEq, Repr

/-- The report of a fault in the order of tokens. -/
def SyntaxFault.message : SyntaxFault → String
  | .unspecified => "invalid syntax"
  | .unexpectedIndent => "unexpected indent"
  | .unexpectedBackslash => "unexpected character after line continuation character"
  | .neverClosed opening => "'" ++ String.ofList [opening] ++ "' was never closed"
  | .tooManyDigits count =>
    Text.tooManyDigitsMessage count ++
      " - Consider hexadecimal for huge integer literals to avoid decimal conversion limits."
  | .missingComma => "invalid syntax. Perhaps you forgot a comma?"
  | .missingElse => "expected 'else' after 'if' expression"
  | .missingCall name =>
    "Missing parentheses in call to '" ++ name ++ "'. Did you mean " ++ name ++ "(...)?"
  | .singleEquals => "invalid syntax. Maybe you meant '==' or ':=' instead of '='?"
  | .notAssignable title =>
    "cannot assign to " ++ title ++ " here. Maybe you meant '==' instead of '='?"
  | .notNameable title => "cannot use assignment expressions with " ++ title
  | .notTarget title => "cannot assign to " ++ title
  | .starHere => "cannot use starred expression here"
  | .doubleStarHere => "cannot use double starred expression here"
  | .bareStar => "Invalid star expression"
  | .missingColon => "':' expected after dictionary key"
  | .missingValue => "expression expected after dictionary key and ':'"
  | .starredValue => "cannot use a starred expression in a dictionary value"
  | .argumentAssigned => "expression cannot contain assignment, perhaps you meant \"==\"?"
  | .positionalAfterKeyword => "positional argument follows keyword argument"
  | .positionalAfterUnpacking => "positional argument follows keyword argument unpacking"
  | .iterableAfterUnpacking =>
    "iterable argument unpacking follows keyword argument unpacking"
  | .generatorNotInParentheses => "Generator expression must be parenthesized"
  | .starredInComprehension => "iterable unpacking cannot be used in comprehension"
  | .tupleNotInParentheses => "did you forget parentheses around the comprehension target?"
  | .unpackingInComprehension => "dict unpacking cannot be used in dict comprehension"
  | .missingDefault => "expected default value expression"
  | .noDefaultAfterDefault => "non-default argument follows default argument"
  | .parametersInParentheses => "Lambda expression parameters cannot be parenthesized"
  | .slashFirst => "at least one argument must precede /"
  | .slashTwice => "/ may appear only once"
  | .slashAfterStar => "/ must be ahead of *"
  | .slashBeforeStar => "expected comma between / and *"
  | .nothingAfterStar => "named arguments must follow bare *"
  | .starDefault => "var-positional argument cannot have default value"
  | .starTwice => "* argument may appear only once"
  | .doubleStarDefault => "var-keyword argument cannot have default value"
  | .afterDoubleStar => "arguments cannot follow var-keyword argument"

/-! ### Faults -/

/-- What can be wrong with an expression. -/
inductive Fault where
  | scan (fault : ScanFault)
  | quote (fault : QuoteFault)
  | format (fault : FormatFault)
  | order (fault : SyntaxFault)
  /-- A fault of an expression inside a quoted text. -/
  | inside (fault : Fault)
deriving DecidableEq, Repr

/-- The report of a fault. One inside a quoted text says so once, unless it is in the characters. -/
def Fault.message : Fault → String
  | .scan fault => fault.message
  | .quote fault => fault.message
  | .format fault => fault.message
  | .order fault => fault.message
  | .inside (.scan fault) => fault.message
  | .inside (.quote fault) => "f-string: " ++ fault.message
  | .inside (.format fault) => "f-string: " ++ fault.message
  | .inside (.order fault) => "f-string: " ++ fault.message
  | .inside (.inside fault) => (Fault.inside fault).message

end LetShadow.Expression
