/-
**Reading JSON texts.**

A reader goes through a text once. Its state is the containers that are open and what may come next;
each step takes a mark, a word, a number or a text, so that the reading needs no recursion however
deep the containers are nested. The words `NaN`, `Infinity` and `-Infinity` are numbers.

* `parse` — **the value of a text,** or the first error that is met.
-/

import LetShadow.Json.Lexeme

namespace LetShadow.Json

/-- A container that is open, with what has been read of it. Elements are held in reverse. -/
inductive Container where
  | list (reversed : List Value)
  | object (entries : List (RawText × Value)) (key : RawText)
deriving Repr

/-- What may come next. -/
inductive Expectation where
  /-- A value. -/
  | value
  /-- The first element of a list, or its end. -/
  | element
  /-- The first name of an object, or its end. -/
  | firstName
  /-- A further name of an object. -/
  | name
  /-- The colon after a name. -/
  | colon
  /-- A comma, or the end of the innermost container. -/
  | separator
  /-- Nothing but white space after the value of the text. -/
  | nothing (value : Value)
deriving Repr

/-- The state of a reader: the open containers, innermost first, their number, and what comes next.
-/
structure Reader where
  containers : List Container := []
  depth : Nat := 0
  expects : Expectation := .value
deriving Repr

namespace Reader

/-- White space between marks. -/
def isSpace (char : Char) : Bool :=
  char = ' ' || char = '\t' || char = '\n' || char = '\r'

/-- Takes in a value that is complete. -/
def supply (reader : Reader) (value : Value) : Reader :=
  match reader.containers with
  | [] => { reader with expects := .nothing value }
  | .list reversed :: outer =>
    { reader with containers := .list (value :: reversed) :: outer, expects := .separator }
  | .object entries key :: outer =>
    { reader with
      containers := .object (setEntry key value entries) key :: outer
      expects := .separator }

/-- Opens a container. -/
def enter (reader : Reader) (container : Container) (expects : Expectation) :
    Except ReadError Reader :=
  if reader.depth < greatestDepth then
    .ok { containers := container :: reader.containers, depth := reader.depth + 1, expects }
  else
    .error .tooDeep

/-- Closes the innermost container. -/
def leave (reader : Reader) : Reader :=
  match reader.containers with
  | [] => reader
  | container :: outer =>
    let value :=
      match container with
      | .list reversed => Value.list reversed.reverse
      | .object entries _ => Value.object entries
    { reader with containers := outer, depth := reader.depth - 1 }.supply value

/-- The words that are values. -/
def wordValues : List (List Char × Value) :=
  [ ("null".toList, .null), ("true".toList, .bool true), ("false".toList, .bool false),
    ("NaN".toList, .double .notANumber), ("Infinity".toList, .double (.infinite false)),
    ("-Infinity".toList, .double (.infinite true)) ]

/-- What one step of a reader gives: the next state and the number of characters taken after the
first. -/
abbrev Step :=
  Except ReadError (Reader × Nat)

/-- The text being read, and the place of the character that is looked at. -/
structure Place where
  text : List Char
  offset : Nat

/-- The error of a problem some characters after a place. -/
def Place.fail {Result : Type} (place : Place) (problem : Problem) (after : Nat := 0) :
    Except ReadError Result :=
  .error (.fault (Fault.locate place.text problem (place.offset + after)))

/-- Reads the text whose opening quote is at a place. -/
def takeText (place : Place) (rest : List Char) : Except ReadError (RawText × Nat) :=
  match readText rest with
  | .ok result => .ok result
  | .error (problem, none) => place.fail problem
  | .error (problem, some after) => place.fail problem (after + 1)

/-- Takes a value that begins with `first`. -/
def takeValue (reader : Reader) (place : Place) (first : Char) (rest : List Char) : Step :=
  if first = '"' then do
    let (text, taken) ← takeText place rest
    return (reader.supply (.text text), taken)
  else if first = '[' then do
    return (← reader.enter (.list []) .element, 0)
  else if first = '\x7b' then do
    return (← reader.enter (.object [] ⟨[]⟩) .firstName, 0)
  else
    match wordValues.find? fun entry => entry.1.isPrefixOf (first :: rest) with
    | some (word, value) => .ok (reader.supply value, word.length - 1)
    | none =>
      match readNumber? (first :: rest) with
      | some numeral => do return (reader.supply (← numeral.value), numeral.length - 1)
      | none => place.fail .expectingValue

/-- Takes a name of an object. -/
def takeName (reader : Reader) (place : Place) (rest : List Char) : Step := do
  let (key, taken) ← takeText place rest
  match reader.containers with
  | .object entries _ :: outer =>
    return ({ reader with containers := .object entries key :: outer, expects := .colon }, taken)
  | _ => place.fail .expectingName

/-- Takes the mark after a value inside a container. -/
def takeSeparator (reader : Reader) (place : Place) (mark : Char) : Step :=
  match reader.containers, mark with
  | .list _ :: _, ',' => .ok ({ reader with expects := .value }, 0)
  | .list _ :: _, ']' => .ok (reader.leave, 0)
  | .object .. :: _, ',' => .ok ({ reader with expects := .name }, 0)
  | .object .. :: _, '\x7d' => .ok (reader.leave, 0)
  | _, _ => place.fail .expectingComma

/-- One step, at a character that is no white space. -/
def step (reader : Reader) (place : Place) (first : Char) (rest : List Char) : Step :=
  match reader.expects with
  | .value => reader.takeValue place first rest
  | .element => if first = ']' then .ok (reader.leave, 0) else reader.takeValue place first rest
  | .firstName =>
    if first = '\x7d' then .ok (reader.leave, 0)
    else if first = '"' then reader.takeName place rest
    else place.fail .expectingName
  | .name => if first = '"' then reader.takeName place rest else place.fail .expectingName
  | .colon =>
    if first = ':' then .ok ({ reader with expects := .value }, 0) else place.fail .expectingColon
  | .separator => reader.takeSeparator place first
  | .nothing _ => place.fail .extraData

/-- The result at the end of the text. -/
def finish (reader : Reader) (place : Place) : Except ReadError Value :=
  match reader.expects with
  | .nothing value => .ok value
  | .value | .element => place.fail .expectingValue
  | .firstName | .name => place.fail .expectingName
  | .colon => place.fail .expectingColon
  | .separator => place.fail .expectingComma

/-- Reads the rest of a text. -/
def run (text : List Char) (reader : Reader) (offset : Nat) : List Char → Except ReadError Value
  | [] => reader.finish ⟨text, offset⟩
  | first :: rest =>
    if isSpace first then run text reader (offset + 1) rest
    else
      match reader.step ⟨text, offset⟩ first rest with
      | .error error => .error error
      | .ok (next, taken) => run text next (offset + 1 + taken) (rest.drop taken)
termination_by remaining => remaining.length
decreasing_by all_goals (simp only [List.length_cons, List.length_drop]; omega)

end Reader

/-- The value of a JSON text. A text that begins with a byte order mark is refused. -/
def parse (text : List Char) : Except ReadError Value :=
  if text.head? = some '\uFEFF' then
    .error (.fault (Fault.locate text .byteOrderMark 0))
  else
    Reader.run text {} 0 text

end LetShadow.Json
