/-
**Words of a command line.**

Each argument is read by itself, except that everything after a bare `--` is a target. A long option
may be cut short as long as no other one begins the same way, and its value may follow an equals
sign. What looks like an option but is a negative number, or has a blank in it and is none of the
known options, is a target.

* `Word` — what an argument can be.
* `readWord` — **one argument;** none if it cuts several options short.
* `readWords` — all arguments.
-/

import LetShadow.Text.Digit

namespace LetShadow.CommandLine

/-- The long options. -/
inductive LongOption where
  | help
  | format
  | input
  | debug
deriving DecidableEq, Repr

/-- How a long option is written. -/
def LongOption.spelling : LongOption → List Char
  | .help => "--help".toList
  | .format => "--format".toList
  | .input => "--input".toList
  | .debug => "--debug".toList

/-- All long options. -/
def longOptions : List LongOption :=
  [.help, .format, .input, .debug]

/-- What an argument can be. -/
inductive Word where
  /-- A file or directory, or the value of the option in front of it. -/
  | target (text : String)
  /-- The bare `--` that ends the options. -/
  | separator
  /-- The demand for help. -/
  | help
  /-- The demand for a log. -/
  | debug
  /-- The option for the form of the report, perhaps with its value. -/
  | format (value : Option String)
  /-- The option for the way of reading, perhaps with its value. -/
  | input (value : Option String)
  /-- An option with a value that it does not take. -/
  | misused
  /-- No known option. -/
  | unknown
deriving DecidableEq, Repr

/-! ### Long options -/

/-- A text up to its first equals sign, and what follows the sign, if there is one. -/
def cutAtEquals : List Char → List Char × Option (List Char)
  | [] => ([], none)
  | char :: rest =>
    if char = '=' then ([], some rest)
    else
      let (before, after) := cutAtEquals rest
      (char :: before, after)

/-- A long option with the value that follows its equals sign, if any. -/
def LongOption.word (option : LongOption) (value : Option String) : Word :=
  match option with
  | .format => .format value
  | .input => .input value
  | .help => if value.isNone then .help else .misused
  | .debug => if value.isNone then .debug else .misused

/-! ### Short options -/

/-- The short option for help, from what follows its letter: nothing, or the same letter again, any
number of times. An equals sign in front of the repetitions is passed over. -/
def shortHelp (tail : List Char) : Word :=
  let letters := if tail.head? = some '=' then tail.drop 1 else tail
  if tail = [] then .help
  else if letters ≠ [] ∧ letters.all (· = 'h') then .help
  else .misused

/-! ### Numbers -/

/-- Does a text consist of decimal digits, at least one? -/
def isWhole (text : List Char) : Bool :=
  text ≠ [] && text.all fun char => (Text.decimalValue? char).isSome

/-- Is a text a whole number, or one with a decimal point and digits after it? A line feed may
follow. -/
def isNumber (text : List Char) : Bool :=
  let text := if text.getLast? = some '\n' then text.dropLast else text
  match text.span (· ≠ '.') with
  | (whole, []) => isWhole whole
  | (whole, _ :: fraction) => (whole = [] || isWhole whole) && isWhole fraction

/-! ### Reading -/

/-- An argument that begins with a dash and is no known option. -/
def otherWord (text : List Char) : Word :=
  if isNumber (text.drop 1) ∨ ' ' ∈ text then .target (String.ofList text) else .unknown

/-- What one argument is, in front of a bare `--`. -/
def readWord (text : List Char) : Option Word :=
  match text with
  | '-' :: '-' :: _ =>
    let (spelling, value) := cutAtEquals text
    match longOptions.filter fun option => spelling.isPrefixOf option.spelling with
    | [] => some (otherWord text)
    | [option] => some (option.word (value.map String.ofList))
    | _ => none
  | '-' :: 'h' :: tail => some (shortHelp tail)
  | '-' :: _ :: _ => some (otherWord text)
  | _ => some (.target (String.ofList text))

/-- What the arguments are. -/
def readWords : List String → Option (List Word)
  | [] => some []
  | argument :: rest =>
    if argument = "--" then some (.separator :: rest.map .target)
    else do
      let word ← readWord argument.toList
      return word :: (← readWords rest)

end LetShadow.CommandLine
