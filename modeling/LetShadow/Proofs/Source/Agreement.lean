/-
**Both readers agree on spec programs.**

The dump of a program and a concrete tree of it are read in different ways: bodies of one statement
are bare in the one tree and rows in the other, one tells local variables from calls and the other
guesses, and interpolations and passed blocks become nodes of different kinds. The check does not see
any of this.

**The proof goes along the terms.** Both conversions are recursions (`Conversion.convert`), so each
constructor has one lemma: if both readers convert the pieces to similar nodes, they convert the whole
to similar nodes. The names bound so far may differ from reading to reading, and so all of it is said
for any of them.

* `namedLets` — nodes are told by the number of `let` declarations with a name that stand before
  them.
* `Term.agrees` — **a term's form and a concrete tree of it are both converted, to similar nodes.**
* `account_eq_of_isWritten` — **the check says the same of both trees of a program.**
-/

import LetShadow.Proofs.Sketch.Account
import LetShadow.Proofs.Source.Reading
import LetShadow.Source.Dump
import LetShadow.Source.Ruby

namespace LetShadow

open Json (Value)
open Dump (textOf bodyOf forms)
open Ruby (Concrete Names)
open Conversion (convert convertAll convertAll_nil convertAll_cons_eq_ok convertAll_append_eq_ok
  length_of_convertAll)

/-! ### Marks by named declarations -/

/-- The call declares a `let` and has an argument to name it. -/
def Call.declaresNamed (call : Call Node) : Bool :=
  call.declaresLet && !call.arguments.isEmpty

/-- The node declares a `let` and has an argument to name it. -/
def Node.declaresNamed : Node → Bool
  | .call invocation => invocation.declaresNamed
  | .block invocation _ _ => invocation.declaresNamed
  | _ => false

/-- Only declarations with a name count, and a mark tells how many of them stand before. -/
def namedLets : Marking Nat where
  counts := Node.declaresNamed
  mark before _ := before

theorem namedLets_passes : namedLets.PassesRows := fun _ _ => rfl

theorem similarCalls_namedLets {first second : Call Node} (method : first.method = second.method)
    (receiver : List.Forall₂ (Similar namedLets) first.receiver.toList second.receiver.toList)
    (groupReceiver : isGroupReceiver first.receiver = isGroupReceiver second.receiver)
    (arguments : List.Forall₂ (Similar namedLets) first.arguments second.arguments) :
    SimilarCalls namedLets first second := by
  refine ⟨⟨?_, fun _ => rfl⟩, method, receiver, groupReceiver, arguments⟩
  show (first.declaresLet && _) = (second.declaresLet && _)
  rw [Call.declaresLet, Call.declaresLet, method, isNone_eq_of_forall₂ receiver,
    isEmpty_eq_of_forall₂ arguments]

theorem similar_block_namedLets {first second : Call Node} (similar : SimilarCalls namedLets first second)
    {firstBody secondBody : Option Node} {firstPlace secondPlace : Option Location}
    (body : List.Forall₂ (SimilarStatements namedLets) firstBody.toList secondBody.toList) :
    Similar namedLets (.block first firstBody firstPlace) (.block second secondBody secondPlace) :=
  similar.similar_block ⟨similar.face.counts, fun _ => rfl⟩ body

/-- A bare word as a node: it has no parts, and only running the code would tell what it names. -/
structure IsWord (node : Node) : Prop where
  plain : node.IsPlain namedLets
  counts : node.declaresNamed = false
  children : node.children = []
  named : ∀ before, node.named namedLets before = .ok .indeterminate

theorem isWord_call (text : String) (place : Option Location) :
    IsWord (.call { method := text, location := place }) where
  plain := isPlain_bareCall text place
  counts := by
    show (_ && !true) = false
    rw [Bool.not_true, Bool.and_false]
  children := rfl
  named _ := rfl

theorem isWord_localVariable (text : String) (place : Option Location) :
    IsWord (.localVariable text place) :=
  ⟨⟨rfl, fun _ => rfl⟩, rfl, rfl, fun _ => rfl⟩

theorem IsWord.similar {first second : Node} (ofFirst : IsWord first) (ofSecond : IsWord second) :
    Similar namedLets first second := by
  refine similar_plain ofFirst.plain ofSecond.plain ⟨?_, fun _ => rfl⟩ ?_ fun before => ?_
  · exact ofFirst.counts.trans ofSecond.counts.symm
  · rw [ofFirst.children, ofSecond.children]
    exact .nil
  · rw [ofFirst.named, ofSecond.named]

theorem similar_symbol (value : String) (firstPlace secondPlace : Option Location) :
    Similar namedLets (.symbol value firstPlace) (.symbol value secondPlace) :=
  similar_plain ⟨rfl, fun _ => rfl⟩ ⟨rfl, fun _ => rfl⟩ ⟨rfl, fun _ => rfl⟩ .nil fun _ => rfl

theorem similar_string (value : String) (firstPlace secondPlace : Option Location) :
    Similar namedLets (.string value firstPlace) (.string value secondPlace) :=
  similar_plain ⟨rfl, fun _ => rfl⟩ ⟨rfl, fun _ => rfl⟩ ⟨rfl, fun _ => rfl⟩ .nil fun _ => rfl

/-! ### What both readers give -/

/-- Both readers convert values of a dump and nodes of a concrete tree, to related nodes, whatever
names have been bound before. -/
def BothGive (related : List Node → List Node → Prop) (values : List Value)
    (nodes : List Concrete) : Prop :=
  ∀ bound : Names, ∃ dumped read after,
    convertAll Dump.planner (forms values) () = .ok (dumped, ()) ∧
      convertAll Ruby.planner nodes bound = .ok (read, after) ∧ related dumped read

/-- Both readers convert a form and a concrete tree, to similar nodes. -/
def BothConvert (form : Dump.Form) (node : Concrete) : Prop :=
  ∀ bound : Names, ∃ dumped read after,
    convert Dump.planner form () = .ok (dumped, ()) ∧
      convert Ruby.planner node bound = .ok (read, after) ∧ Similar namedLets dumped read

theorem BothGive.nil : BothGive (List.Forall₂ (Similar namedLets)) [] [] := fun bound =>
  ⟨[], [], bound, convertAll_nil (), convertAll_nil bound, .nil⟩

theorem BothGive.cons {form : Dump.Form} {node : Concrete} {values : List Value}
    {nodes : List Concrete} (first : BothConvert form node)
    (others : BothGive (List.Forall₂ (Similar namedLets)) values nodes) :
    BothGive (List.Forall₂ (Similar namedLets)) (form.value :: values) (node :: nodes) := by
  intro bound
  obtain ⟨dumped, read, middle, ofForm, ofNode, similar⟩ := first bound
  obtain ⟨moreDumped, moreRead, last, ofValues, ofNodes, related⟩ := others middle
  refine ⟨dumped :: moreDumped, read :: moreRead, last, ?_, convertAll_cons_eq_ok ofNode ofNodes,
    .cons similar related⟩
  rw [Dump.forms_value_cons]
  exact convertAll_cons_eq_ok ofForm ofValues

/-! ### Constants -/

/-- **Both readers find the same constant.** -/
theorem ConstantPath.agrees {constant : ConstantPath} {node : Concrete}
    (written : constant.IsWritten node) (bound : Names) :
    ∃ dumped read after,
      convert Dump.planner constant.form () = .ok (dumped, ()) ∧
        convert Ruby.planner node bound = .ok (read, after) ∧ Similar namedLets dumped read ∧
        isGroupReceiver (some dumped) = isGroupReceiver (some read) ∧
        dumped.isTopLevel = false ∧ read.isTopLevel = false := by
  induction constant generalizing node bound with
  | bare name =>
    obtain ⟨type, rfl⟩ := written
    refine ⟨_, _, _, Dump.convert_constant node.text (convertAll_nil ()),
      Ruby.convert_constant type, similar_other ⟨rfl, fun _ => rfl⟩ .nil, ?_, rfl, rfl⟩
    rw [isGroupReceiver_other, Ruby.constantNode, isGroupReceiver_other]
  | top name =>
    obtain ⟨type, noScope, named⟩ := written
    have root : convertAll Dump.planner (forms [(⟨"cbase", []⟩ : Dump.Form).value]) () =
        .ok ([.other "cbase" [] none none], ()) := by
      rw [Dump.forms_value_cons]
      exact Dump.convertAll_single (Dump.convert_other rfl (convertAll_nil ()))
    refine ⟨_, _, _, Dump.convert_constant name root, Ruby.convert_topConstant type named noScope,
      similar_other ⟨rfl, fun _ => rfl⟩ (.single ?_), ?_, rfl, rfl⟩
    · have roots : Similar namedLets (.other "cbase" [] none none)
          (.other "cbase" [] none (some node.location)) :=
        similar_other ⟨rfl, fun _ => rfl⟩ .nil
      exact roots.toSimilarInside
    · rw [isGroupReceiver_other, Ruby.constantNode, isGroupReceiver_other]
      rfl
  | within scope name ih =>
    obtain ⟨type, named, outer, atScope, outerWritten⟩ := written
    obtain ⟨dumped, read, after, ofForm, ofNode, similar, -, dumpedInner, readInner⟩ :=
      ih outerWritten (Ruby.boundBy node ++ bound)
    have ofScope : convertAll Dump.planner (forms [scope.form.value]) () = .ok ([dumped], ()) := by
      rw [Dump.forms_value_cons]
      exact Dump.convertAll_single ofForm
    refine ⟨_, _, _, Dump.convert_constant name ofScope, Ruby.convert_scoped type named atScope
      (convertAll_cons_eq_ok ofNode (convertAll_nil after)),
      similar_other ⟨rfl, fun _ => rfl⟩ (.single similar.toSimilarInside), ?_, rfl, rfl⟩
    rw [isGroupReceiver_other, Ruby.constantNode, isGroupReceiver_other, standsAtTop, standsAtTop,
      dumpedInner, readInner]

/-- **Both readers find the same receiver,** if any. -/
theorem ConstantPath.receiver_agrees {receiver : Option ConstantPath} {found : Option Concrete}
    (written : ConstantPath.IsReceiver receiver found) (bound : Names) :
    ∃ dumped read after,
      (∀ (method : String) (elements : List Value) (parts : List Node),
        convertAll Dump.planner (forms elements) () = .ok (parts, ()) →
          convert Dump.planner
              ⟨"send", ConstantPath.receiverValue receiver :: textOf method :: elements⟩ () =
            .ok (.call { method, arguments := parts, receiver := dumped }, ())) ∧
        convertAll Ruby.planner found.toList bound = .ok (read.toList, after) ∧
        List.Forall₂ (Similar namedLets) dumped.toList read.toList ∧
        isGroupReceiver dumped = isGroupReceiver read := by
  cases receiver with
  | none =>
    obtain rfl := written
    exact ⟨none, none, bound, fun method _ _ => Dump.convert_bareCall method, convertAll_nil bound,
      .nil, rfl⟩
  | some constant =>
    obtain ⟨node, rfl, written⟩ := written
    obtain ⟨dumped, read, after, ofForm, ofNode, similar, groupReceiver, -, -⟩ :=
      ConstantPath.agrees written bound
    exact ⟨some dumped, some read, after,
      fun method _ _ => Dump.convert_receivedCall method ofForm,
      convertAll_cons_eq_ok ofNode (convertAll_nil after), .cons similar .nil, groupReceiver⟩

/-! ### Calls -/

/-- **Both readers find the same call,** which they build from a receiver and arguments. -/
theorem call_agrees {receiver : Option ConstantPath} {method : String} {arguments : List Value}
    {node : Concrete} (ofReceiver : ConstantPath.IsReceiver receiver (node.childAt? "receiver"))
    (ofArguments : BothGive (List.Forall₂ (Similar namedLets)) arguments node.argumentNodes)
    (place : Option Location) (bound : Names) :
    ∃ (dumped : Call Node) (read : Option Node) (readArguments : List Node) (middle after : Names),
      convert Dump.planner
          ⟨"send", ConstantPath.receiverValue receiver :: textOf method :: arguments⟩ () =
        .ok (.call dumped, ()) ∧
      convertAll Ruby.planner (node.childAt? "receiver").toList bound = .ok (read.toList, middle) ∧
      convertAll Ruby.planner node.argumentNodes middle = .ok (readArguments, after) ∧
      SimilarCalls namedLets dumped
        { method, arguments := readArguments, receiver := read, location := place } := by
  obtain ⟨dumpedReceiver, readReceiver, middle, builds, ofFound, receivers, groupReceiver⟩ :=
    ConstantPath.receiver_agrees ofReceiver bound
  obtain ⟨dumpedArguments, readArguments, after, ofValues, ofNodes, operands⟩ := ofArguments middle
  exact ⟨_, readReceiver, readArguments, middle, after, builds method arguments _ ofValues, ofFound,
    ofNodes, similarCalls_namedLets rfl receivers groupReceiver operands⟩

/-- **What statements are together makes no difference:** nothing, one of them, or a row. -/
theorem similar_joined {dumped read : List Node}
    (similar : List.Forall₂ (Similar namedLets) dumped read) (place : Option Location) :
    Similar namedLets ((Dump.joined dumped).getD (.sequence [] none)) (.sequence read place) := by
  have rows : Similar namedLets (.sequence dumped none) (.sequence read place) :=
    similar_row ⟨rfl, fun _ => rfl⟩ similar
  -- Only a lone statement is no row in a dump.
  cases similar with
  | nil => exact rows
  | cons here rest =>
    cases rest with
    | nil => exact here.trans (namedLets_passes.similar_wrapped _ place)
    | cons _ _ => exact rows

theorem similar_blockBody {dumped read : List Node} (block : Concrete)
    (similar : List.Forall₂ (Similar namedLets) dumped read) :
    List.Forall₂ (SimilarStatements namedLets) (Dump.joined dumped).toList
      (Ruby.blockBody block read).toList := by
  have row := (similar_joined similar (some block.location)).toSimilarStatements
  cases similar with
  | nil => exact .nil
  | cons _ rest => cases rest <;> exact .cons row .nil

/-! ### Terms -/

/-- The types of the concrete trees of terms. -/
def termTypes : List String :=
  [ "call", "begin", "parenthesized_statements", "simple_symbol", "delimited_symbol", "string",
    "identifier", "block_argument" ]

theorem Term.type_mem {term : Term} {node : Concrete} (written : term.IsWritten node) :
    node.type ∈ termTypes := by
  cases term with
  | row keyword =>
    rw [written.1]
    cases keyword <;> decide
  | quoted isSymbol =>
    rw [written.1]
    cases isSymbol <;> decide
  | interpolated isSymbol =>
    rw [written.1]
    cases isSymbol <;> decide
  | _ =>
    rw [written.1]
    decide

/-- **A term is read for itself** where it is a statement or an argument. -/
theorem Term.isRead {term : Term} {node : Concrete} (written : term.IsWritten node) :
    node.IsRead := by
  have types : ∀ type ∈ termTypes,
      Ruby.skippedTypes.contains type = false ∧ Ruby.wrapperTypes.contains type = false := by
    decide
  obtain ⟨kept, single⟩ := types _ (Term.type_mem written)
  exact ⟨kept, single⟩

theorem Term.areRead {terms : List Term} {nodes : List Concrete}
    (written : Term.AreWritten terms nodes) : ∀ node ∈ nodes, node.IsRead := by
  induction terms generalizing nodes with
  | nil =>
    obtain rfl := written
    exact nofun
  | cons term rest ih =>
    obtain ⟨node, others, rfl, ofTerm, ofRest⟩ := written
    exact List.forall_mem_cons.mpr ⟨Term.isRead ofTerm, ih ofRest⟩

theorem Term.dumpAll_eq (terms : List Term) :
    Term.dumpAll terms = (terms.map Term.form).map Dump.Form.value := by
  induction terms with
  | nil => rfl
  | cons term rest ih => rw [Term.dumpAll, ih, List.map_cons, List.map_cons]

namespace BothConvert

variable {receiver : Option ConstantPath} {method : String} {arguments : List Value}
  {node : Concrete} {isSymbol : Bool}

theorem call (type : node.type = "call") (named : node.HasTextAt "method" method)
    (ofReceiver : ConstantPath.IsReceiver receiver (node.childAt? "receiver"))
    (ofArguments : BothGive (List.Forall₂ (Similar namedLets)) arguments node.argumentNodes)
    (noBlock : node.childAt? "block" = none) :
    BothConvert ⟨"send", ConstantPath.receiverValue receiver :: textOf method :: arguments⟩
      node := by
  intro bound
  have attached : Ruby.attachedBlock? node = none := by
    rw [Ruby.attachedBlock?, noBlock]
    rfl
  obtain ⟨dumped, read, readArguments, middle, last, ofForm, ofFound, ofNodes, similar⟩ :=
    call_agrees ofReceiver ofArguments (some node.location) (Ruby.boundBy node ++ bound)
  have noStatements : convertAll Ruby.planner (Ruby.blockStatements node) last = .ok ([], last) := by
    rw [Ruby.blockStatements, attached]
    exact convertAll_nil last
  refine ⟨_, _, last, ofForm, Ruby.convert_call type named ofFound ofNodes noStatements, ?_⟩
  rw [Ruby.callNode, attached]
  exact similar.similar

theorem block {block : Concrete} {parameters : Value} {body : List Dump.Form}
    (type : node.type = "call") (named : node.HasTextAt "method" method)
    (ofReceiver : ConstantPath.IsReceiver receiver (node.childAt? "receiver"))
    (ofArguments : BothGive (List.Forall₂ (Similar namedLets)) arguments node.argumentNodes)
    (attached : Ruby.attachedBlock? node = some block)
    (ofBody : BothGive (List.Forall₂ (Similar namedLets)) (body.map Dump.Form.value)
      block.statements) :
    BothConvert
      ⟨"block",
        [ (⟨"send", ConstantPath.receiverValue receiver :: textOf method :: arguments⟩ :
            Dump.Form).value,
          parameters, bodyOf (body.map Dump.Form.value) ]⟩
      node := by
  intro bound
  obtain ⟨dumped, read, readArguments, middle, third, ofForm, ofFound, ofNodes, similar⟩ :=
    call_agrees ofReceiver ofArguments (some node.location) (Ruby.boundBy node ++ bound)
  obtain ⟨dumpedBody, readBody, last, ofValues, ofStatements, bodies⟩ := ofBody third
  rw [Dump.forms_map_value] at ofValues
  have readsBody : convertAll Ruby.planner (Ruby.blockStatements node) third =
      .ok (readBody, last) := by
    rw [Ruby.blockStatements, attached]
    exact ofStatements
  refine ⟨_, _, last, Dump.convert_block parameters ofForm (Dump.convert_bodyOf ofValues),
    Ruby.convert_call type named ofFound ofNodes readsBody, ?_⟩
  rw [Ruby.callNode, attached, Option.head?_toList]
  exact similar_block_namedLets similar (similar_blockBody block bodies)

theorem row {keyword : Bool} {statements : List Value} (type : node.type ∈ Ruby.sequenceTypes)
    (single : ∀ child ∈ node.code, child.IsRead)
    (ofStatements : BothGive (List.Forall₂ (Similar namedLets)) statements node.code) :
    BothConvert ⟨if keyword then "kwbegin" else "begin", statements⟩ node := by
  intro bound
  obtain ⟨dumped, read, last, ofValues, ofNodes, similar⟩ :=
    ofStatements (Ruby.boundBy node ++ bound)
  exact ⟨_, _, last, Dump.convert_row keyword ofValues, Ruby.convert_row type single ofNodes,
    similar_row ⟨rfl, fun _ => rfl⟩ similar⟩

theorem symbol {name : String} (type : node.type = "simple_symbol")
    (text : node.text = ":" ++ name) : BothConvert ⟨"sym", [textOf name]⟩ node := by
  exact fun bound => ⟨_, _, _, Dump.convert_literal true name, Ruby.convert_symbol type text,
    similar_symbol name none (some node.location)⟩

theorem quoted {text : String} (type : node.type = quotedType isSymbol)
    (types : ∀ part ∈ node.code, part.type = "string_content")
    (value : node.code.flatMap (fun part => part.text.toList) = text.toList)
    (plain : '\\' ∉ text.toList) :
    BothConvert ⟨if isSymbol then "sym" else "str", [textOf text]⟩ node := by
  intro bound
  refine ⟨_, _, _, Dump.convert_literal isSymbol text,
    Ruby.convert_quoted type types value plain, ?_⟩
  cases isSymbol with
  | true => exact similar_symbol text none (some node.location)
  | false => exact similar_string text none (some node.location)

theorem interpolated {values : List Value} {inside : Concrete}
    (type : node.type = quotedType isSymbol) (mem : inside ∈ node.code)
    (interpolation : inside.type = "interpolation")
    (ofParts : BothGive (SimilarForests namedLets) values node.code) :
    BothConvert ⟨if isSymbol then "dsym" else "dstr", values⟩ node := by
  intro bound
  obtain ⟨dumped, read, last, ofValues, ofNodes, similar⟩ := ofParts (Ruby.boundBy node ++ bound)
  refine ⟨_, _, last, Dump.convert_other ?_ ofValues,
    Ruby.convert_interpolated type mem interpolation ofNodes,
    similar_other ⟨rfl, fun _ => rfl⟩ similar⟩
  cases isSymbol <;> rfl

theorem word {form : Dump.Form} {dumped : Node} (type : node.type = "identifier")
    (ofForm : convert Dump.planner form () = .ok (dumped, ())) (word : IsWord dumped) :
    BothConvert form node := by
  intro bound
  refine ⟨dumped, _, _, ofForm, Ruby.convert_word type, word.similar ?_⟩
  unfold Ruby.nameNode
  split
  · exact isWord_localVariable node.text (some node.location)
  · exact isWord_call node.text (some node.location)

theorem blockPass {value : Dump.Form} {inner : Concrete} (type : node.type = "block_argument")
    (holds : node.code = [inner]) (single : inner.IsRead) (ofValue : BothConvert value inner) :
    BothConvert ⟨"block_pass", [value.value]⟩ node := by
  intro bound
  obtain ⟨dumped, read, last, ofForm, ofInner, similar⟩ := ofValue (Ruby.boundBy node ++ bound)
  have ofValues : convertAll Dump.planner (forms [value.value]) () = .ok ([dumped], ()) := by
    rw [Dump.forms_value_cons]
    exact Dump.convertAll_single ofForm
  have ofNodes : convertAll Ruby.planner node.code (Ruby.boundBy node ++ bound) =
      .ok ([read], last) := by
    rw [holds]
    exact convertAll_cons_eq_ok ofInner (convertAll_nil last)
  have plain : node.type ∈ Ruby.plainTypes := by
    rw [type]
    decide
  refine ⟨_, _, last, Dump.convert_other rfl ofValues, Ruby.convert_other plain ?_ ofNodes,
    similar_other ⟨rfl, fun _ => rfl⟩ (.single similar.toSimilarInside)⟩
  rw [holds]
  exact List.forall_mem_singleton.mpr single

end BothConvert

/-! ### Parts of literals -/

namespace BothGive

theorem append {values moreValues : List Value} {nodes moreNodes : List Concrete}
    (first : BothGive (SimilarForests namedLets) values nodes)
    (rest : BothGive (SimilarForests namedLets) moreValues moreNodes) :
    BothGive (SimilarForests namedLets) (values ++ moreValues) (nodes ++ moreNodes) := by
  intro bound
  obtain ⟨dumped, read, middle, ofValues, ofNodes, similar⟩ := first bound
  obtain ⟨moreDumped, moreRead, last, ofMoreValues, ofMoreNodes, related⟩ := rest middle
  refine ⟨dumped ++ moreDumped, read ++ moreRead, last, ?_,
    convertAll_append_eq_ok ofNodes ofMoreNodes, similar.append related⟩
  rw [Dump.forms_append]
  exact convertAll_append_eq_ok ofValues ofMoreValues

theorem interpolation {statements : List Value} {node : Concrete}
    (type : node.type = "interpolation") (single : ∀ child ∈ node.code, child.IsRead)
    (ofStatements : BothGive (List.Forall₂ (Similar namedLets)) statements node.code) :
    BothGive (SimilarForests namedLets) [(⟨"begin", statements⟩ : Dump.Form).value] [node] := by
  intro bound
  obtain ⟨dumped, read, last, ofValues, ofNodes, similar⟩ :=
    ofStatements (Ruby.boundBy node ++ bound)
  have plain : node.type ∈ Ruby.plainTypes := by
    rw [type]
    decide
  -- As a name or a statement the two would differ, but no one asks for either inside a literal.
  have alike : SimilarInside namedLets (.sequence dumped none) (Ruby.otherNode node read) :=
    SameFace.inside ⟨rfl, fun _ => rfl⟩ (.of_similar similar) rfl fun _ => rfl
  refine ⟨_, _, last, ?_, convertAll_cons_eq_ok (Ruby.convert_other plain single ofNodes)
    (convertAll_nil last), .single alike⟩
  rw [Dump.forms_value_cons]
  exact Dump.convertAll_single (Dump.convert_row false ofValues)

theorem text (content : String) {contents : List Concrete}
    (only : ∀ node ∈ contents, node.IsContent) :
    BothGive (SimilarForests namedLets) [(⟨"str", [textOf content]⟩ : Dump.Form).value]
      contents := by
  have quiet : ∀ bound : Names, ∃ read after,
      convertAll Ruby.planner contents bound = .ok (read, after) ∧
        SimilarForests namedLets [] read := by
    induction contents with
    | nil => exact fun bound => ⟨[], bound, convertAll_nil bound, .nil⟩
    | cons node rest ih =>
      intro bound
      obtain ⟨type, childless⟩ := only node List.mem_cons_self
      have noCode : node.code = [] := by rw [Concrete.code, childless, List.filter_nil]
      have plain : node.type ∈ Ruby.plainTypes := by
        rcases type with type | type <;> rw [type] <;> decide
      obtain ⟨read, after, ofRest, similar⟩ :=
        ih (fun other mem => only other (List.mem_cons_of_mem _ mem)) (Ruby.boundBy node ++ bound)
      have nothing : convertAll Ruby.planner node.code (Ruby.boundBy node ++ bound) =
          .ok ([], Ruby.boundBy node ++ bound) := by
        rw [noCode, convertAll_nil]
      have ofNode := Ruby.convert_other plain (noCode ▸ nofun) nothing
      exact ⟨_, after, convertAll_cons_eq_ok ofNode ofRest,
        (SimilarForests.leaf rfl rfl rfl).symm.append similar⟩
  intro bound
  obtain ⟨read, after, ofContents, similar⟩ := quiet bound
  have passed : SimilarForests namedLets [.string (textOf content).shown none] [] :=
    .leaf rfl rfl rfl
  refine ⟨_, read, after, ?_, ofContents, passed.append similar⟩
  rw [Dump.forms_value_cons]
  exact Dump.convertAll_single (Dump.convert_leaf rfl)

end BothGive

mutual

/-- **Both readers convert a term,** to similar nodes. -/
theorem Term.agrees (term : Term) {node : Concrete} (written : term.IsWritten node) :
    BothConvert term.form node := by
  match term with
  | .call receiver method arguments =>
    obtain ⟨type, named, ofReceiver, ofArguments, noBlock⟩ := written
    exact .call type named ofReceiver (Term.agreeAll arguments ofArguments) noBlock
  | .block receiver method arguments parameters body =>
    obtain ⟨type, named, ofReceiver, ofArguments, block, atBlock, blockType, inside⟩ := written
    have attached : Ruby.attachedBlock? node = some block := by
      rw [Ruby.attachedBlock?, atBlock]
      rcases blockType with blockType | blockType <;> simp [Ruby.blockTypes, blockType]
    have ofBody : BothGive (List.Forall₂ (Similar namedLets)) (Term.dumpAll body)
        block.statements := by
      -- Without statements there need not be a wrapper around them.
      rcases inside with ⟨rfl, empty⟩ | ⟨wrapper, holds, wrapperType, statements⟩
      · rw [Concrete.statements_eq_of_bodyNodes, empty]
        exact .nil
      · rw [Concrete.statements_eq_of_wrapper holds wrapperType (Term.areRead statements)]
        exact Term.agreeAll body statements
    rw [Term.form]
    rw [Term.dumpAll_eq body] at ofBody ⊢
    exact .block type named ofReceiver (Term.agreeAll arguments ofArguments) attached ofBody
  | .row keyword statements =>
    obtain ⟨type, ofStatements⟩ := written
    refine .row ?_ (Term.areRead ofStatements) (Term.agreeAll statements ofStatements)
    rw [type]
    cases keyword <;> decide
  | .symbol name => exact .symbol written.1 written.2
  | .quoted isSymbol text plain =>
    obtain ⟨type, types, value⟩ := written
    exact .quoted type types value plain
  | .interpolated isSymbol before code after =>
    obtain ⟨type, firsts, inside, lasts, parts, ofBefore, interpolation, ofCode, ofAfter⟩ := written
    have mem : inside ∈ node.code := by
      rw [parts]
      exact List.mem_append_right _ List.mem_cons_self
    refine .interpolated type mem interpolation ?_
    rw [parts]
    exact (Term.partsAgree before ofBefore).append
      ((BothGive.interpolation interpolation (Term.areRead ofCode) (Term.agreeAll code ofCode)).append
        (Term.partsAgree after ofAfter))
  | .word text true => exact .word written.1 (Dump.convert_leaf rfl) (isWord_localVariable _ none)
  | .word text false =>
    exact .word written.1 (Dump.convert_bareCall text (convertAll_nil ())) (isWord_call text none)
  | .blockPass value =>
    obtain ⟨type, inner, holds, ofInner⟩ := written
    exact .blockPass type holds (Term.isRead ofInner) (Term.agrees value ofInner)

theorem Term.agreeAll (terms : List Term) {nodes : List Concrete}
    (written : Term.AreWritten terms nodes) :
    BothGive (List.Forall₂ (Similar namedLets)) (Term.dumpAll terms) nodes := by
  match terms with
  | [] =>
    obtain rfl := written
    exact .nil
  | term :: rest =>
    obtain ⟨node, others, rfl, ofTerm, ofRest⟩ := written
    exact .cons (Term.agrees term ofTerm) (Term.agreeAll rest ofRest)

theorem Term.partsAgree (parts : List Part) {nodes : List Concrete}
    (written : Term.ArePartsWritten parts nodes) :
    BothGive (SimilarForests namedLets) (Term.dumpParts parts) nodes := by
  match parts with
  | [] =>
    obtain rfl := written
    exact fun bound => ⟨[], [], bound, convertAll_nil (), convertAll_nil bound, .nil⟩
  | .text content :: rest =>
    obtain ⟨contents, others, rfl, only, ofRest⟩ := written
    exact (BothGive.text content only).append (Term.partsAgree rest ofRest)
  | .code statements :: rest =>
    obtain ⟨node, others, rfl, type, ofStatements, ofRest⟩ := written
    exact (BothGive.interpolation type (Term.areRead ofStatements)
      (Term.agreeAll statements ofStatements)).append (Term.partsAgree rest ofRest)

end

/-! ### Programs -/

/-- **The check says the same of a program,** whether it is read from its dump or from a concrete tree
of it. Both readers find as many declarations with a name; and the check of either tree counts as many
groups and reports the same names of corresponding declarations, or fails at corresponding ones. -/
theorem account_eq_of_isWritten (program : Program) {source : Concrete}
    (written : program.IsWritten source) (file : String) :
    ∃ dumped read, loadValue program.dump = .ok dumped ∧
      loadRuby file (some source) = .ok read ∧
      namedLets.weight dumped = namedLets.weight read ∧
      account namedLets dumped file = account namedLets read file := by
  obtain ⟨type, ofStatements⟩ := written
  obtain ⟨dumped, read, last, ofValues, ofNodes, similar⟩ :=
    Term.agreeAll program.statements ofStatements (Ruby.boundBy source ++ [])
  rw [Term.dumpAll_eq, Dump.forms_map_value] at ofValues
  have ofSource : convert Ruby.planner source [] = .ok (.sequence read (some source.location), last) := by
    refine Ruby.convert_row ?_ (Term.areRead ofStatements) ofNodes
    rw [type]
    decide
  have alike := similar_joined similar (some source.location)
  refine ⟨_, _, ?_, ?_, alike.weight, ?_⟩
  · rw [Program.dump, Term.dumpAll_eq]
    exact loadValue_bodyOf ofValues
  · show (Ruby.tree source).mapError _ = _
    rw [Ruby.tree, Conversion.build_eq_convert, ofSource]
    rfl
  · rw [account_eq_settle, account_eq_settle, alike.sketch]

/-- A group inside another, both with a declaration of the same name. -/
def nestedProgram : Program where
  statements :=
    [ .block (some (.bare "RSpec")) "describe" [] .null
        [ .call none "let" [.symbol "a"],
          .block none "context" [] .null
            [.block none "let" [.quoted false "a" (by decide)] .null [.word "x" false]] ] ]

/-- A node of a concrete tree, at the beginning of a file. -/
def nodeUnder (field : Option String) (type text : String) (children : List Concrete) : Concrete :=
  ⟨type, field, Thunk.pure text, ⟨1, 0⟩, children⟩

/-- The node of a call with a block, which holds the statements of a body. -/
def callWithBlock (pieces : List Concrete) (body : Concrete) : Concrete :=
  nodeUnder none "call" "" (pieces ++ [nodeUnder (some "block") "do_block" "" [body]])

/-- The same groups as a concrete tree, with a comment in front. -/
def nestedSource : Concrete :=
  let declares (name : Concrete) : List Concrete :=
    [ nodeUnder (some "method") "identifier" "let" [],
      nodeUnder (some "arguments") "argument_list" "" [name] ]
  let inner : Concrete := callWithBlock
    (declares (nodeUnder none "string" "'a'" [nodeUnder none "string_content" "a" []]))
    (nodeUnder none "body_statement" "" [nodeUnder none "identifier" "x" []])
  let context : Concrete := callWithBlock [nodeUnder (some "method") "identifier" "context" []]
    (nodeUnder none "body_statement" "" [inner])
  let outer : Concrete :=
    nodeUnder none "call" "" (declares (nodeUnder none "simple_symbol" ":a" []))
  let describe : Concrete := callWithBlock
    [ nodeUnder (some "receiver") "constant" "RSpec" [],
      nodeUnder (some "method") "identifier" "describe" [] ]
    (nodeUnder none "body_statement" "" [outer, context])
  nodeUnder none "program" "" [nodeUnder none "comment" "# groups" [], describe]

/-- Both readers find two groups, and that the second declaration overrides the first. -/
theorem account_eq_of_isWritten_nested :
    nestedProgram.IsWritten nestedSource ∧
      ∃ dumped read, loadValue nestedProgram.dump = .ok dumped ∧
        loadRuby "a_spec.rb" (some nestedSource) = .ok read ∧
        account namedLets dumped "a_spec.rb" = .ok (2, [(1, "a")]) ∧
        account namedLets read "a_spec.rb" = .ok (2, [(1, "a")]) := by
  have written : nestedProgram.IsWritten nestedSource := by
    refine ⟨rfl, _, _, rfl, ⟨rfl, ⟨_, rfl, rfl⟩, ⟨_, rfl, rfl, rfl⟩, rfl, _, rfl, .inr rfl,
      .inr ⟨_, rfl, .inr rfl, ?_⟩⟩, rfl⟩
    refine ⟨_, _, rfl, ⟨rfl, ⟨_, rfl, rfl⟩, rfl, ⟨_, _, rfl, ⟨rfl, rfl⟩, rfl⟩, rfl⟩, _, _, rfl,
      ⟨rfl, ⟨_, rfl, rfl⟩, rfl, rfl, _, rfl, .inr rfl, .inr ⟨_, rfl, .inr rfl, ?_⟩⟩, rfl⟩
    refine ⟨_, _, rfl, ⟨rfl, ⟨_, rfl, rfl⟩, rfl, ⟨_, _, rfl, ⟨rfl, ?_, rfl⟩, rfl⟩, _, rfl, .inr rfl,
      .inr ⟨_, rfl, .inr rfl, ⟨_, _, rfl, ⟨rfl, rfl⟩, rfl⟩⟩⟩, rfl⟩
    exact List.forall_mem_singleton.mpr rfl
  obtain ⟨dumped, read, ofDump, ofSource, -, same⟩ :=
    account_eq_of_isWritten nestedProgram written "a_spec.rb"
  have checked : (loadValue nestedProgram.dump).map (fun tree => account namedLets tree "a_spec.rb") =
      .ok (.ok (2, [(1, "a")])) := by
    decide +kernel
  rw [ofDump] at checked
  have ofDumped := Except.ok.inj checked
  exact ⟨written, dumped, read, ofDump, ofSource, ofDumped, same.symm.trans ofDumped⟩

end LetShadow
