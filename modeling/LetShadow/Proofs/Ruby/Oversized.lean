/-
**Escapes that are too large.**

An escape by number whose number is no code point is kept as it is written, unless the number does not
even fit into a machine integer: then the tree is given up.

* `OversizedEscape` — the escapes that are too large, and `decodeEscape_eq_error_iff`.
* `Concrete.pieces` — the nodes that a conversion goes on to from a node.
* `tree_eq_error_iff` — **a concrete tree is given up exactly if the conversion comes to a literal
  with an escape that is too large.**
-/

import Mathlib.Logic.Relation
import LetShadow.Proofs.Source.Reading
import LetShadow.Proofs.Traversal

namespace LetShadow.Ruby

open Conversion (convert AsksFor)
open Relation (ReflTransGen)

/-! ### Escapes -/

/-- A number that is no machine integer. -/
def IsOversized (number : Int) : Prop :=
  number < -machineLimit ∨ machineLimit ≤ number

/-- Escapes by number, without their backslash, that are given up for a number that is too large. -/
inductive OversizedEscape : List Char → Prop
  /-- Of several code points, the first that gives no character counts. -/
  | points {codes code : List Char} {before after : List (List Char)} {number : Int}
      (split : Text.words (Text.trim isBrace codes) = before ++ code :: after)
      (goOn : ∀ earlier ∈ before, ∃ char, hexChar earlier = .ok char)
      (spells : Text.numeral? 16 'x' code = some number) (oversized : IsOversized number) :
      OversizedEscape ('u' :: codes)
  | hexadecimal {code : List Char} {number : Int}
      (spells : Text.numeral? 16 'x' code = some number) (oversized : IsOversized number) :
      OversizedEscape ('x' :: code)
  | octal {digit : Char} {rest : List Char} {number : Int} (isDigit : Text.isDigit digit = true)
      (spells : Text.numeral? 8 'o' (digit :: rest) = some number)
      (oversized : IsOversized number) : OversizedEscape (digit :: rest)

theorem numberedChar_eq_tooLarge_iff {number : Int} :
    numberedChar number = .error .tooLarge ↔ IsOversized number := by
  unfold numberedChar IsOversized
  split
  · rename_i oversized
    exact iff_of_true rfl oversized
  · rename_i fits
    refine iff_of_false ?_ fits
    split <;> nofun

theorem hexChar_eq_tooLarge_iff {code : List Char} :
    hexChar code = .error .tooLarge ↔
      ∃ number, Text.numeral? 16 'x' code = some number ∧ IsOversized number := by
  unfold hexChar
  cases Text.numeral? 16 'x' code with
  | none => exact ⟨nofun, nofun⟩
  | some number => simp [numberedChar_eq_tooLarge_iff]

theorem octalChar_eq_tooLarge_iff {code : List Char} :
    octalChar code = .error .tooLarge ↔
      ∃ number, Text.numeral? 8 'o' code = some number ∧ IsOversized number := by
  unfold octalChar
  cases Text.numeral? 8 'o' code with
  | none => exact ⟨nofun, nofun⟩
  | some number => simp [numberedChar_eq_tooLarge_iff]

theorem numericEscape?_eq_tooLarge_iff {body : List Char} :
    numericEscape? body = some (.error .tooLarge) ↔ OversizedEscape body := by
  unfold numericEscape?
  split
  · rename_i codes
    rw [Option.some_inj, mapM_eq_error_iff]
    constructor
    · rintro ⟨before, code, after, split, goOn, fails⟩
      obtain ⟨number, spells, oversized⟩ := hexChar_eq_tooLarge_iff.mp fails
      exact .points split goOn spells oversized
    · intro escape
      cases escape with
      | points split goOn spells oversized =>
        exact ⟨_, _, _, split, goOn, hexChar_eq_tooLarge_iff.mpr ⟨_, spells, oversized⟩⟩
      | octal isDigit => exact absurd isDigit (by decide)
  · rename_i code
    rw [Option.some_inj, map_eq_error_iff, hexChar_eq_tooLarge_iff]
    constructor
    · rintro ⟨number, spells, oversized⟩
      exact .hexadecimal spells oversized
    · intro escape
      cases escape with
      | hexadecimal spells oversized => exact ⟨_, spells, oversized⟩
      | octal isDigit => exact absurd isDigit (by decide)
  · rename_i first rest noPoints noByte
    split
    · rename_i isDigit
      rw [Option.some_inj, map_eq_error_iff, octalChar_eq_tooLarge_iff]
      constructor
      · rintro ⟨number, spells, oversized⟩
        exact .octal isDigit spells oversized
      · intro escape
        cases escape with
        | points => exact (noPoints rfl).elim
        | hexadecimal => exact (noByte rfl).elim
        | octal _ spells oversized => exact ⟨_, spells, oversized⟩
    · rename_i noDigit
      refine ⟨nofun, fun escape => ?_⟩
      cases escape with
      | points => exact (noPoints rfl).elim
      | hexadecimal => exact (noByte rfl).elim
      | octal isDigit => exact absurd isDigit noDigit
  · exact ⟨nofun, nofun⟩

/-- **An escape sequence is given up exactly if it is too large.** -/
theorem decodeEscape_eq_error_iff {sequence : List Char} {error : OversizedCodePoint} :
    decodeEscape sequence = .error error ↔ OversizedEscape (sequence.drop 1) := by
  rw [← numericEscape?_eq_tooLarge_iff]
  unfold decodeEscape
  dsimp only
  cases numericEscape? (sequence.drop 1) with
  | none =>
    refine iff_of_false ?_ nofun
    dsimp only
    split <;> nofun
  | some outcome =>
    cases outcome with
    | ok text => exact ⟨nofun, nofun⟩
    | error reason => cases reason <;> simp

/-! ### Literals -/

/-- A literal whose value is known but for an escape that is too large. Nothing is decoded between
single quotes. -/
structure Concrete.IsOversized (node : Concrete) : Prop where
  quoted : node.type ∈ quotedTypes
  known : ∀ part ∈ node.code, part.type ∈ partTypes
  decoded : isSingleQuoted node.text.toList = false
  oversized : ∃ part ∈ node.code, part.type = "escape_sequence" ∧
    OversizedEscape (part.text.toList.drop 1)

theorem partValue_eq_error_iff {part : Concrete} {error : OversizedCodePoint} :
    partValue part = .error error ↔
      part.type = "escape_sequence" ∧ OversizedEscape (part.text.toList.drop 1) := by
  unfold partValue
  split
  · rename_i escape
    rw [decodeEscape_eq_error_iff, and_iff_right escape]
  · rename_i plain
    exact iff_of_false nofun fun ⟨escape, _⟩ => plain escape

theorem literalValue_eq_error_iff {singleQuoted : Bool} {parts : List Concrete}
    {error : OversizedCodePoint} :
    literalValue singleQuoted parts = .error error ↔ singleQuoted = false ∧
      ∃ part ∈ parts, part.type = "escape_sequence" ∧
        OversizedEscape (part.text.toList.drop 1) := by
  cases singleQuoted with
  | true => exact iff_of_false nofun fun ⟨double, _⟩ => nomatch double
  | false =>
    -- All parts fail alike, so that it does not matter which of them is the first.
    show (parts.mapM partValue).map _ = _ ↔ _
    rw [map_eq_error_iff, and_iff_right rfl]
    have own : ∀ part : Concrete, (part.type = "escape_sequence" ∧
        OversizedEscape (part.text.toList.drop 1)) ↔ partValue part = .error error :=
      fun _ => partValue_eq_error_iff.symm
    simp only [own]
    constructor
    · intro fails
      obtain ⟨before, part, after, rfl, -, fails⟩ := mapM_eq_error_iff.mp fails
      exact ⟨part, List.mem_append_right _ List.mem_cons_self, fails⟩
    · rintro ⟨part, mem, fails⟩
      cases outcome : parts.mapM partValue with
      | error other => rfl
      | ok texts =>
        obtain ⟨text, decoded⟩ := mapM_goes_iff.mp ⟨texts, outcome⟩ part mem
        cases fails.symm.trans decoded

theorem quotedPlan_eq (node : Concrete) :
    quotedPlan node =
      if ∀ part ∈ node.code, part.type ∈ partTypes then
        (literalValue (isSingleQuoted node.text.toList) node.code).map fun value =>
          leafPlan node (literalNode node value)
      else .ok (childrenPlan node (fun child => !isComment child) (interpolatedNode node)) := by
  unfold quotedPlan
  simp only [filter_isComment, List.all_eq_true, List.contains_iff_mem]
  split
  · cases literalValue (isSingleQuoted node.text.toList) node.code <;> rfl
  · rfl

/-- **A literal between quotes has no plan exactly if it is too large.** -/
theorem quotedPlan_eq_error_iff {node : Concrete} (quoted : node.type ∈ quotedTypes)
    {error : OversizedCodePoint} : quotedPlan node = .error error ↔ node.IsOversized := by
  rw [quotedPlan_eq]
  split
  · rename_i known
    rw [map_eq_error_iff, literalValue_eq_error_iff]
    exact ⟨fun ⟨decoded, oversized⟩ => ⟨quoted, known, decoded, oversized⟩,
      fun literal => ⟨literal.decoded, literal.oversized⟩⟩
  · rename_i unknown
    exact iff_of_false nofun fun literal => unknown literal.known

/-! ### Trees -/

/-- The types of the nodes that hold nothing to go on to. -/
def leafTypes : List String :=
  ["identifier", "simple_symbol", "constant"]

/-- The nodes that a conversion goes on to from a node. -/
def Concrete.pieces (node : Concrete) : List Concrete :=
  if node.type ∈ callTypes then
    if (node.childAt? "method").isSome then
      (node.childAt? "receiver").toList ++ node.argumentNodes ++ blockStatements node
    else node.children
  else if node.type ∈ sequenceTypes then node.statements
  else if node.type ∈ leafTypes then []
  else if node.type ∈ quotedTypes then
    if ∀ part ∈ node.code, part.type ∈ partTypes then [] else node.code
  else if node.type = "scope_resolution" then (node.childAt? "scope").toList
  else node.children.filter fun child => !child.isSkipped

theorem leafPlan_asksFor (node : Concrete) (leaf : Node) : AsksFor (leafPlan node leaf) [] :=
  ⟨rfl, fun _ => ⟨leaf, rfl⟩⟩

theorem childrenPlan_asksFor (node : Concrete) (choose : Concrete → Bool)
    (assemble : List Node → Node) :
    AsksFor (childrenPlan node choose assemble) (node.children.filter choose) :=
  ⟨rfl, fun parts => ⟨assemble parts, rfl⟩⟩

theorem callPlan_asksFor (node : Concrete) :
    AsksFor (callPlan node)
      (if (node.childAt? "method").isSome then
        (node.childAt? "receiver").toList ++ node.argumentNodes ++ blockStatements node
      else node.children) := by
  rw [← callArguments_eq]
  unfold callPlan
  cases node.childAt? "method" with
  | none => exact ⟨List.filter_true node.children, fun parts => ⟨_, rfl⟩⟩
  | some method => exact ⟨rfl, fun parts => ⟨_, rfl⟩⟩

theorem scopedConstantPlan_asksFor (node : Concrete) :
    AsksFor (scopedConstantPlan node) (node.childAt? "scope").toList := by
  unfold scopedConstantPlan
  split
  · rename_i atTop
    have noPieces : (node.childAt? "scope").toList = [] := by rw [atTop]; rfl
    rw [noPieces]
    exact leafPlan_asksFor node _
  · rename_i scope inScope
    have piece : (node.childAt? "scope").toList = [scope] := by rw [inScope]; rfl
    rw [piece]
    exact ⟨rfl, fun parts => ⟨_, rfl⟩⟩

theorem quotedPlan_asksFor {node : Concrete} {planned : RubyPlan node}
    (outcome : quotedPlan node = .ok planned) :
    AsksFor planned (if ∀ part ∈ node.code, part.type ∈ partTypes then [] else node.code) := by
  rw [quotedPlan_eq] at outcome
  split at outcome
  · rename_i known
    rw [if_pos known]
    cases value : literalValue (isSingleQuoted node.text.toList) node.code with
    | error error =>
      rw [value] at outcome
      cases outcome
    | ok text =>
      rw [value] at outcome
      cases outcome
      exact leafPlan_asksFor node _
  · rename_i unknown
    rw [if_neg unknown, ← filter_isComment]
    cases outcome
    exact childrenPlan_asksFor node _ _

/-- **A node that is not too large a literal has a plan that asks for its pieces.** -/
theorem plan_asksFor {node : Concrete} (fits : ¬ node.IsOversized) (bound : Names) :
    ∃ planned, plan node bound = .ok planned ∧ AsksFor planned node.pieces := by
  unfold plan Concrete.pieces
  simp only [List.contains_iff_mem]
  -- The types in the order in which a plan asks for them.
  by_cases call : node.type ∈ callTypes
  · rw [if_pos call, if_pos call]
    exact ⟨_, rfl, callPlan_asksFor node⟩
  rw [if_neg call, if_neg call]
  by_cases sequence : node.type ∈ sequenceTypes
  · rw [if_pos sequence, if_pos sequence]
    exact ⟨_, rfl, rfl, fun parts => ⟨_, rfl⟩⟩
  rw [if_neg sequence, if_neg sequence]
  by_cases leaf : node.type ∈ leafTypes
  · rw [if_pos leaf]
    simp only [leafTypes, List.mem_cons, List.not_mem_nil, or_false] at leaf
    obtain type | type | type := leaf
    · rw [if_pos type]
      exact ⟨_, rfl, leafPlan_asksFor node _⟩
    · have noWord : node.type ≠ "identifier" := by simp [type]
      rw [if_neg noWord, if_pos type]
      exact ⟨_, rfl, leafPlan_asksFor node _⟩
    · have others : node.type ≠ "identifier" ∧ node.type ≠ "simple_symbol" ∧
          node.type ∉ quotedTypes := by
        simp [type, quotedTypes]
      rw [if_neg others.1, if_neg others.2.1, if_neg others.2.2, if_pos type]
      exact ⟨_, rfl, leafPlan_asksFor node _⟩
  have noLeaf := leaf
  simp only [leafTypes, List.mem_cons, List.not_mem_nil, or_false, not_or] at noLeaf
  obtain ⟨noWord, noSymbol, noConstant⟩ := noLeaf
  rw [if_neg leaf, if_neg noWord, if_neg noSymbol, if_neg noConstant]
  by_cases quoted : node.type ∈ quotedTypes
  · rw [if_pos quoted, if_pos quoted]
    cases outcome : quotedPlan node with
    | error error => exact absurd ((quotedPlan_eq_error_iff quoted).mp outcome) fits
    | ok planned => exact ⟨planned, rfl, quotedPlan_asksFor outcome⟩
  rw [if_neg quoted, if_neg quoted]
  by_cases inScope : node.type = "scope_resolution"
  · rw [if_pos inScope, if_pos inScope]
    exact ⟨_, rfl, scopedConstantPlan_asksFor node⟩
  · rw [if_neg inScope, if_neg inScope]
    exact ⟨_, rfl, childrenPlan_asksFor node _ _⟩

theorem plan_eq_error {node : Concrete} (oversized : node.IsOversized) (bound : Names) :
    plan node bound = .error {} := by
  have noPlan : quotedPlan node = .error {} :=
    (quotedPlan_eq_error_iff oversized.quoted).mpr oversized
  have type := oversized.quoted
  simp only [quotedTypes, List.mem_cons, List.not_mem_nil, or_false] at type
  obtain type | type := type <;>
    simp [plan, type, callTypes, sequenceTypes, quotedTypes, noPlan]

/-- **A concrete tree is given up exactly if the conversion comes to a literal that is too large.** -/
theorem tree_eq_error_iff {source : Concrete} {error : OversizedCodePoint} :
    tree source = .error error ↔ ∃ literal,
      ReflTransGen (fun outer inner => inner ∈ outer.pieces) source literal ∧
        literal.IsOversized := by
  have fails : ∀ (node : Concrete) (bound : Names), node.IsOversized →
      ∃ error, planner node bound = .error error := by
    intro node bound oversized
    refine ⟨{}, ?_⟩
    show (plan node _ >>= _) = _
    rw [plan_eq_error oversized]
    rfl
  have plans : ∀ (node : Concrete) (bound : Names), ¬ node.IsOversized → ∃ planned state,
      planner node bound = .ok (planned, state) ∧ AsksFor planned node.pieces := by
    intro node bound fits
    obtain ⟨planned, ofPlan, asks⟩ := plan_asksFor fits (boundBy node ++ bound)
    refine ⟨planned, boundBy node ++ bound, ?_, asks⟩
    show (plan node _ >>= _) = _
    rw [ofPlan]
    rfl
  have goes := Conversion.convert_goes_iff fails plans source []
  rw [tree, Conversion.build_eq_convert, map_eq_error_iff]
  cases outcome : convert planner source [] with
  | error other =>
    refine iff_of_true rfl (by_contra fun none => ?_)
    obtain ⟨_, converts⟩ := goes.mpr fun node reaches oversized => none ⟨node, reaches, oversized⟩
    cases outcome.symm.trans converts
  | ok converted =>
    refine iff_of_false nofun ?_
    rintro ⟨literal, reaches, oversized⟩
    exact goes.mp ⟨converted, outcome⟩ literal reaches oversized

end LetShadow.Ruby
