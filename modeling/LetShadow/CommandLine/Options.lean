/-
**Options.**

* `Options` — what a run is asked for.
* `Reading.read` — the effect of words. Targets stand side by side: those after an option that
  follows a target are too many.
* `Options.parse` — **the options that arguments give,** or what comes up instead: help, or a wrong
  usage. Words take effect from the left, so help comes up only if no fault stands in front of it.
-/

import LetShadow.CommandLine.Word
import LetShadow.Files.Analysis

namespace LetShadow.CommandLine

/-- The forms of the report. -/
inductive ReportForm where
  | table
  | plain
deriving DecidableEq, Repr

/-- The words for the forms of the report. -/
def ReportForm.ofString? : String → Option ReportForm
  | "table" => some .table
  | "plain" => some .plain
  | _ => none

/-- The words for the ways of reading. -/
def inputOfString? : String → Option InputChoice
  | "auto" => some .auto
  | "ruby" => some .ruby
  | "sexp" => some .dump
  | _ => none

/-- What a run is asked for. -/
structure Options where
  targets : List Path := []
  format : ReportForm := .table
  input : InputChoice := .auto
  debug : Bool := false
deriving DecidableEq, Repr

/-- Why arguments give no options. -/
inductive Stop where
  | help
  | wrongUsage
deriving DecidableEq, Repr

/-- The options so far. -/
structure Reading where
  options : Options := {}
  /-- An option has followed a target. -/
  closed : Bool := false
  /-- There has been a word that has no place. -/
  surplus : Bool := false
deriving DecidableEq, Repr

namespace Reading

/-- Ends the row of targets, if it has begun. -/
def close (reading : Reading) : Reading :=
  { reading with closed := !reading.options.targets.isEmpty }

/-- Adds a target. -/
def addTarget (reading : Reading) (text : String) : Reading :=
  if reading.closed then { reading with surplus := true }
  else
    let targets := reading.options.targets ++ [Path.ofString text]
    { reading with options := { reading.options with targets } }

/-- Sets the form of the report. -/
def setFormat (reading : Reading) (value : String) : Except Stop Reading :=
  match ReportForm.ofString? value with
  | some format =>
    .ok { reading.close with options := { reading.options with format } }
  | none => .error .wrongUsage

/-- Sets the way of reading. -/
def setInput (reading : Reading) (value : String) : Except Stop Reading :=
  match inputOfString? value with
  | some input =>
    .ok { reading.close with options := { reading.options with input } }
  | none => .error .wrongUsage

/-- The effect of words. -/
def read (reading : Reading) : List Word → Except Stop Reading
  | [] => .ok reading
  | .target text :: rest => (reading.addTarget text).read rest
  | .separator :: rest => { reading with surplus := reading.surplus || reading.closed }.read rest
  | .help :: _ => .error .help
  | .debug :: rest =>
    { reading.close with options := { reading.options with debug := true } }.read rest
  | .format (some value) :: rest => do (← reading.setFormat value).read rest
  | .format none :: .target value :: rest => do (← reading.setFormat value).read rest
  | .input (some value) :: rest => do (← reading.setInput value).read rest
  | .input none :: .target value :: rest => do (← reading.setInput value).read rest
  | .format none :: _ => .error .wrongUsage
  | .input none :: _ => .error .wrongUsage
  | .misused :: _ => .error .wrongUsage
  | .unknown :: rest => { reading.close with surplus := true }.read rest

end Reading

/-- The options that arguments give. At least one target is needed. -/
def Options.parse (arguments : List String) : Except Stop Options :=
  match readWords arguments with
  | none => .error .wrongUsage
  | some words => do
    let reading ← Reading.read {} words
    if reading.surplus ∨ reading.options.targets = [] then .error .wrongUsage
    else return reading.options

end LetShadow.CommandLine
