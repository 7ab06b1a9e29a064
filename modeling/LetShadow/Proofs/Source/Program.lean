/-
**Spec programs, and what they look like to either reader.**

A spec program is a list of terms: calls and calls with a block, statements between parentheses or in
a `begin`, names that are literals, interpolations or bare words, and arguments that pass a block on.

* `Term` — **the terms,** nested in any way.
* `Program.dump` — the dump of a program: a body is missing, a lone statement or a row, by the number
  of its statements.
* `Program.IsWritten` — **the concrete trees of a program.** What is no named part of a program, such
  as comments, places and the kind of quotes, is left open.
-/

import LetShadow.Dump.Form
import LetShadow.Ruby.Concrete

namespace LetShadow

open Json (Value)
open Ruby (Concrete)

/-! ### Terms -/

/-- A constant, by its name and the scope it is looked up in. -/
inductive ConstantPath where
  /-- A constant such as `RSpec`. -/
  | bare (name : String)
  /-- A constant such as `::RSpec`. -/
  | top (name : String)
  /-- A constant such as `Other::RSpec`. -/
  | within (scope : ConstantPath) (name : String)

mutual

/-- A term of a spec program. -/
inductive Term where
  /-- A call; a `let` without a block is one. -/
  | call (receiver : Option ConstantPath) (method : String) (arguments : List Term)
  /-- A call with a block, such as a group or a `let`. The block's parameters are as a dump has them.
  -/
  | block (receiver : Option ConstantPath) (method : String) (arguments : List Term)
      (parameters : Value) (body : List Term)
  /-- Statements between parentheses, or in a `begin`. -/
  | row (keyword : Bool) (statements : List Term)
  /-- A symbol without quotes. -/
  | symbol (name : String)
  /-- A string, or a symbol between quotes, without escapes. -/
  | quoted (isSymbol : Bool) (text : String) (plain : '\\' ∉ text.toList)
  /-- A string, or a symbol between quotes, with an interpolation. -/
  | interpolated (isSymbol : Bool) (before : List Part) (code : List Term) (after : List Part)
  /-- A bare word: a local variable, or a call without receiver and arguments. -/
  | word (text : String) (isLocal : Bool)
  /-- An argument that passes a block on. -/
  | blockPass (value : Term)

/-- A part of an interpolated literal. -/
inductive Part where
  | text (content : String)
  | code (statements : List Term)

end

/-- A program, by its statements. -/
structure Program where
  statements : List Term

/-! ### Dumps -/

namespace Dump

/-- A text of a dump. -/
def textOf (text : String) : Value :=
  .text (.ofString text)

/-- A form as a value. -/
def Form.value (form : Form) : Value :=
  .list (textOf form.kind :: form.elements)

/-- Statements as one value. -/
def bodyOf : List Value → Value
  | [] => .null
  | [statement] => statement
  | statements => (⟨"begin", statements⟩ : Form).value

end Dump

open Dump (textOf bodyOf)

/-- The form of a constant. -/
def ConstantPath.form : ConstantPath → Dump.Form
  | .bare name => ⟨"const", [.null, textOf name]⟩
  | .top name => ⟨"const", [(⟨"cbase", []⟩ : Dump.Form).value, textOf name]⟩
  | .within scope name => ⟨"const", [scope.form.value, textOf name]⟩

/-- A receiver as a value. -/
def ConstantPath.receiverValue : Option ConstantPath → Value
  | none => .null
  | some constant => constant.form.value

mutual

/-- The form of a term. -/
def Term.form : Term → Dump.Form
  | .call receiver method arguments =>
    ⟨"send", ConstantPath.receiverValue receiver :: textOf method :: dumpAll arguments⟩
  | .block receiver method arguments parameters body =>
    ⟨"block",
      [ (⟨"send", ConstantPath.receiverValue receiver :: textOf method :: dumpAll arguments⟩ :
          Dump.Form).value,
        parameters, bodyOf (dumpAll body) ]⟩
  | .row keyword statements => ⟨if keyword then "kwbegin" else "begin", dumpAll statements⟩
  | .symbol name => ⟨"sym", [textOf name]⟩
  | .quoted isSymbol text _ => ⟨if isSymbol then "sym" else "str", [textOf text]⟩
  | .interpolated isSymbol before code after =>
    ⟨if isSymbol then "dsym" else "dstr",
      dumpParts before ++ (⟨"begin", dumpAll code⟩ : Dump.Form).value :: dumpParts after⟩
  | .word text true => ⟨"lvar", [textOf text]⟩
  | .word text false => ⟨"send", [.null, textOf text]⟩
  | .blockPass value => ⟨"block_pass", [value.form.value]⟩

/-- Terms as values. -/
def Term.dumpAll : List Term → List Value
  | [] => []
  | term :: rest => term.form.value :: dumpAll rest

/-- Parts of a literal as values. -/
def Term.dumpParts : List Part → List Value
  | [] => []
  | .text content :: rest => (⟨"str", [textOf content]⟩ : Dump.Form).value :: dumpParts rest
  | .code statements :: rest =>
    (⟨"begin", dumpAll statements⟩ : Dump.Form).value :: dumpParts rest

end

/-- The dump of a program. -/
def Program.dump (program : Program) : Value :=
  bodyOf (Term.dumpAll program.statements)

/-! ### Concrete trees -/

namespace Ruby.Concrete

/-- The children of a node but comments. -/
def code (node : Concrete) : List Concrete :=
  node.children.filter fun child => child.type ≠ "comment"

/-- The arguments of a call. -/
def argumentNodes (node : Concrete) : List Concrete :=
  ((node.childAt? "arguments").map code).getD []

/-- What a block holds but its parameters and comments. -/
def bodyNodes (node : Concrete) : List Concrete :=
  node.children.filter fun child => child.type ≠ "comment" ∧ child.type ≠ "block_parameters"

/-- The node under a field has a text. -/
def HasTextAt (node : Concrete) (field text : String) : Prop :=
  ∃ child, node.childAt? field = some child ∧ child.text = text

/-- Text between the interpolations of a literal. -/
def IsContent (node : Concrete) : Prop :=
  (node.type = "string_content" ∨ node.type = "escape_sequence") ∧ node.children = []

end Ruby.Concrete

/-- The concrete trees of a constant. -/
def ConstantPath.IsWritten : ConstantPath → Concrete → Prop
  | .bare name, node => node.type = "constant" ∧ node.text = name
  | .top name, node =>
    node.type = "scope_resolution" ∧ node.childAt? "scope" = none ∧ node.HasTextAt "name" name
  | .within scope name, node =>
    node.type = "scope_resolution" ∧ node.HasTextAt "name" name ∧
      ∃ outer, node.childAt? "scope" = some outer ∧ scope.IsWritten outer

/-- The nodes of a receiver. -/
def ConstantPath.IsReceiver : Option ConstantPath → Option Concrete → Prop
  | none, node => node = none
  | some constant, node => ∃ found, node = some found ∧ constant.IsWritten found

/-- The type of a literal between quotes. -/
def quotedType (isSymbol : Bool) : String :=
  if isSymbol then "delimited_symbol" else "string"

mutual

/-- The concrete trees of a term. -/
def Term.IsWritten : Term → Concrete → Prop
  | .call receiver method arguments, node =>
    node.type = "call" ∧ node.HasTextAt "method" method ∧
      ConstantPath.IsReceiver receiver (node.childAt? "receiver") ∧
      AreWritten arguments node.argumentNodes ∧ node.childAt? "block" = none
  | .block receiver method arguments _ body, node =>
    node.type = "call" ∧ node.HasTextAt "method" method ∧
      ConstantPath.IsReceiver receiver (node.childAt? "receiver") ∧
      AreWritten arguments node.argumentNodes ∧
      ∃ block, node.childAt? "block" = some block ∧ (block.type = "block" ∨ block.type = "do_block") ∧
        (body = [] ∧ block.bodyNodes = [] ∨
          ∃ wrapper, block.bodyNodes = [wrapper] ∧
            (wrapper.type = "block_body" ∨ wrapper.type = "body_statement") ∧
            AreWritten body wrapper.code)
  | .row keyword statements, node =>
    node.type = (if keyword then "begin" else "parenthesized_statements") ∧
      AreWritten statements node.code
  | .symbol name, node => node.type = "simple_symbol" ∧ node.text = ":" ++ name
  | .quoted isSymbol text _, node =>
    node.type = quotedType isSymbol ∧ (∀ part ∈ node.code, part.type = "string_content") ∧
      node.code.flatMap (fun part => part.text.toList) = text.toList
  | .interpolated isSymbol before code after, node =>
    node.type = quotedType isSymbol ∧
      ∃ firsts inside lasts, node.code = firsts ++ inside :: lasts ∧
        ArePartsWritten before firsts ∧ inside.type = "interpolation" ∧
        AreWritten code inside.code ∧ ArePartsWritten after lasts
  | .word text _, node => node.type = "identifier" ∧ node.text = text
  | .blockPass value, node =>
    node.type = "block_argument" ∧ ∃ inner, node.code = [inner] ∧ value.IsWritten inner

/-- The concrete trees of terms side by side. -/
def Term.AreWritten : List Term → List Concrete → Prop
  | [], nodes => nodes = []
  | term :: rest, nodes =>
    ∃ node others, nodes = node :: others ∧ term.IsWritten node ∧ AreWritten rest others

/-- The concrete trees of parts side by side. -/
def Term.ArePartsWritten : List Part → List Concrete → Prop
  | [], nodes => nodes = []
  | .text _ :: rest, nodes =>
    ∃ contents others, nodes = contents ++ others ∧ (∀ node ∈ contents, node.IsContent) ∧
      ArePartsWritten rest others
  | .code statements :: rest, nodes =>
    ∃ node others, nodes = node :: others ∧ node.type = "interpolation" ∧
      AreWritten statements node.code ∧ ArePartsWritten rest others

end

/-- The concrete trees of a program. -/
def Program.IsWritten (program : Program) (node : Concrete) : Prop :=
  node.type = "program" ∧ Term.AreWritten program.statements node.code

end LetShadow
