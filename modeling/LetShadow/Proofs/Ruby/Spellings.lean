/-
**The spellings of a name.**

One text can be written as a literal in many ways: as a symbol or as a string, between single or
double quotes, each character as it is or by one of several escapes, and cut into parts anywhere
between them. What is decoded does not depend on the way.

* `Escapes` — **the escape sequences between double quotes** with the text that each stands for, and
  `Quote.Writes` the same for the parts of a literal between either quotes.
* `IsSpelling` — a literal that spells a text.
* `convert_of_isSpelling` — **every spelling of a text becomes the literal of this text.**
* `reported_of_spellings` — so a declaration is reported against one around it, in whatever ways the
  two names are spelled.
-/

import Mathlib.Data.Bool.AllAny
import Mathlib.Data.Nat.Digits.Defs
import LetShadow.Proofs.Check.Offenses
import LetShadow.Proofs.Ruby.Blocks
import LetShadow.Source.Analysis

namespace LetShadow.Ruby

open Conversion (convert convertAll convertAll_nil convertAll_cons_eq_ok build_eq_convert)

/-! ### Escapes by number -/

/-- A hexadecimal digit in lower or upper case, with its value. -/
structure IsHexDigit (digit : Char) (value : Nat) : Prop where
  small : value < 16
  shape : digit ∈ [Nat.digitChar value, (Nat.digitChar value).toUpper]

/-- Hexadecimal digits that spell a number. -/
def SpellsHex (digits : List Char) (number : Nat) : Prop :=
  digits ≠ [] ∧ ∃ values, List.Forall₂ IsHexDigit digits values ∧
    Nat.ofDigits 16 values.reverse = number

/-- Characters by the hexadecimal numbers of their code points, with white space between them. -/
inductive SpellsPoints : List Char → List Char → Prop
  | last {digits : List Char} {char : Char} (spells : SpellsHex digits char.toNat) :
    SpellsPoints digits [char]
  | more {digits blank codes chars : List Char} {char : Char}
      (spells : SpellsHex digits char.toNat) (apart : blank ≠ [])
      (isBlank : ∀ space ∈ blank, Text.isBlank space = true) (others : SpellsPoints codes chars) :
    SpellsPoints (digits ++ (blank ++ codes)) (char :: chars)

/-- What no hexadecimal digit is. -/
structure IsPlainDigit (digit : Char) : Prop where
  noUnderscore : digit ≠ '_'
  noMinus : digit ≠ '-'
  noPlus : digit ≠ '+'
  noMark : digit.toLower ≠ 'x'
  noBrace : isBrace digit = false
  noBlank : Text.isBlank digit = false

theorem hexDigits_plain : ∀ value < 16,
    ∀ digit ∈ [Nat.digitChar value, (Nat.digitChar value).toUpper],
      Text.digitValue? 16 digit = some value ∧ digit ≠ '_' ∧ digit ≠ '-' ∧ digit ≠ '+' ∧
        digit.toLower ≠ 'x' ∧ isBrace digit = false ∧ Text.isBlank digit = false := by
  intro value small
  refine List.all_iff_forall_prop.mp ?_
  revert value
  decide

theorem IsHexDigit.value {digit : Char} {value : Nat} (isDigit : IsHexDigit digit value) :
    Text.digitValue? 16 digit = some value :=
  (hexDigits_plain value isDigit.small digit isDigit.shape).1

theorem IsHexDigit.plain {digit : Char} {value : Nat} (isDigit : IsHexDigit digit value) :
    IsPlainDigit digit := by
  obtain ⟨-, noUnderscore, noMinus, noPlus, noMark, noBrace, noBlank⟩ :=
    hexDigits_plain value isDigit.small digit isDigit.shape
  exact ⟨noUnderscore, noMinus, noPlus, noMark, noBrace, noBlank⟩

theorem SpellsHex.plain {digits : List Char} {number : Nat} (spells : SpellsHex digits number) :
    ∀ digit ∈ digits, IsPlainDigit digit := by
  obtain ⟨-, values, each, -⟩ := spells
  clear * - each
  induction each with
  | nil => nofun
  | cons isDigit _ ih => exact List.forall_mem_cons.mpr ⟨isDigit.plain, ih⟩

/-- A character is a digit with a value in numerals of a base. -/
def HasDigitValue (base : Nat) (digit : Char) (value : Nat) : Prop :=
  digit ≠ '_' ∧ Text.digitValue? base digit = some value

theorem digitsValue?_of_values {base : Nat} {digits : List Char} {values : List Nat}
    (each : List.Forall₂ (HasDigitValue base) digits values) (number : Nat) {afterDigit : Bool}
    (ended : digits = [] → afterDigit = true) :
    Text.digitsValue? base number afterDigit digits =
      some (Nat.ofDigits base values.reverse + base ^ values.length * number) := by
  induction each generalizing number afterDigit with
  | nil => simp [Text.digitsValue?, ended rfl]
  | @cons digit value digits values here _ ih =>
    rw [Text.digitsValue?, if_neg here.1, here.2]
    dsimp only
    rw [ih _ fun _ => rfl, List.reverse_cons, Nat.ofDigits_append, List.length_reverse,
      Nat.ofDigits_singleton, List.length_cons]
    ring_nf

theorem dropWhile_eq_self {drops : Char → Bool} {text : List Char}
    (keeps : ∀ char ∈ text, drops char = false) : text.dropWhile drops = text := by
  cases text with
  | nil => rfl
  | cons char rest => rw [List.dropWhile_cons_of_neg (by simp [keeps char List.mem_cons_self])]

theorem trim_eq_self {drops : Char → Bool} {text : List Char}
    (keeps : ∀ char ∈ text, drops char = false) : Text.trim drops text = text := by
  have back : text.reverse.dropWhile drops = text.reverse :=
    dropWhile_eq_self fun char mem => keeps char (List.mem_reverse.mp mem)
  rw [Text.trim, dropWhile_eq_self keeps, back, List.reverse_reverse]

theorem dropMark_eq_self {mark : Char} {digits : List Char}
    (noMark : ∀ digit ∈ digits, digit.toLower ≠ mark) : Text.dropMark mark digits = digits := by
  unfold Text.dropMark
  split
  · rename_i zero letter rest
    have unmarked := noMark letter (List.mem_cons_of_mem _ List.mem_cons_self)
    rw [if_neg fun marked => unmarked marked.2]
  · rfl

/-- **Digits are read as the number that they spell,** if none of them can be taken for the mark of the
base. -/
theorem numeral?_of_values {base : Nat} {mark : Char} {digits : List Char} {values : List Nat}
    (nonempty : digits ≠ []) (plain : ∀ digit ∈ digits, IsPlainDigit digit)
    (noMark : ∀ digit ∈ digits, digit.toLower ≠ mark)
    (each : List.Forall₂ (HasDigitValue base) digits values) :
    Text.numeral? base mark digits = some ((Nat.ofDigits base values.reverse : Nat) : Int) := by
  have whole : Text.trim Text.isNumeralBlank digits = digits := by
    refine trim_eq_self fun digit mem => ?_
    rw [Text.isNumeralBlank, (plain digit mem).noBlank, Bool.false_and]
  have magnitude : Text.magnitude? base mark digits = some (Nat.ofDigits base values.reverse) := by
    rw [Text.magnitude?, dropMark_eq_self noMark,
      digitsValue?_of_values each 0 fun none => absurd none nonempty, Nat.mul_zero, Nat.add_zero]
  unfold Text.numeral?
  rw [whole]
  split
  · exact absurd rfl (plain _ List.mem_cons_self).noMinus
  · exact absurd rfl (plain _ List.mem_cons_self).noPlus
  · rw [magnitude]
    rfl

/-- **Hexadecimal digits are read as the number that they spell.** -/
theorem numeral?_of_spellsHex {digits : List Char} {number : Nat}
    (spells : SpellsHex digits number) : Text.numeral? 16 'x' digits = some (number : Int) := by
  have plain := spells.plain
  obtain ⟨nonempty, values, each, rfl⟩ := spells
  exact numeral?_of_values nonempty plain (fun digit mem => (plain digit mem).noMark)
    (each.imp fun _ _ isDigit => ⟨isDigit.plain.noUnderscore, isDigit.value⟩)

/-- The number of a character gives it. -/
theorem numberedChar_toNat (char : Char) : numberedChar char.toNat = .ok char := by
  have bound : char.toNat < 0x110000 := by
    rcases char.valid with low | high
    · exact low.trans (by decide)
    · exact high.2
  have fits : ¬ ((char.toNat : Int) < -machineLimit ∨ machineLimit ≤ (char.toNat : Int)) := by
    unfold machineLimit
    omega
  have point : 0 ≤ (char.toNat : Int) ∧ (char.toNat : Int) < Text.pointCount := by
    unfold Text.pointCount
    omega
  rw [numberedChar, if_neg fits, if_pos point, Int.toNat_natCast, charOf_toNat]

theorem hexChar_of_spellsHex {digits : List Char} {char : Char}
    (spells : SpellsHex digits char.toNat) : hexChar digits = .ok char := by
  unfold hexChar
  rw [numeral?_of_spellsHex spells]
  exact numberedChar_toNat char

/-! ### White space between code points -/

theorem wordsFrom_append {word : List Char} (noBlank : ∀ char ∈ word, Text.isBlank char = false)
    (begun rest : List Char) :
    Text.wordsFrom begun (word ++ rest) = Text.wordsFrom (word.reverse ++ begun) rest := by
  induction word generalizing begun with
  | nil => rfl
  | cons char word ih =>
    obtain ⟨here, later⟩ := List.forall_mem_cons.mp noBlank
    rw [List.cons_append, Text.wordsFrom, if_neg (by simp [here]), ih later, List.reverse_cons,
      List.append_assoc]
    rfl

theorem words_blank_append {blank : List Char} (isBlank : ∀ space ∈ blank, Text.isBlank space = true)
    (rest : List Char) : Text.words (blank ++ rest) = Text.words rest := by
  induction blank with
  | nil => rfl
  | cons space blank ih =>
    obtain ⟨here, later⟩ := List.forall_mem_cons.mp isBlank
    rw [← ih later, Text.words, List.cons_append, Text.wordsFrom, if_pos here]
    rfl

theorem words_word {word : List Char} (nonempty : word ≠ [])
    (noBlank : ∀ char ∈ word, Text.isBlank char = false) : Text.words word = [word] := by
  have read := wordsFrom_append noBlank [] []
  rw [List.append_nil, List.append_nil] at read
  rw [Text.words, read, Text.wordsFrom, if_neg (by simpa using nonempty), List.reverse_reverse]

/-- A word in front of white space is the first word. -/
theorem words_append {word blank : List Char} (nonempty : word ≠ [])
    (noBlank : ∀ char ∈ word, Text.isBlank char = false) (apart : blank ≠ [])
    (isBlank : ∀ space ∈ blank, Text.isBlank space = true) (rest : List Char) :
    Text.words (word ++ (blank ++ rest)) = word :: Text.words rest := by
  cases blank with
  | nil => exact absurd rfl apart
  | cons space blank =>
    obtain ⟨here, later⟩ := List.forall_mem_cons.mp isBlank
    rw [Text.words, wordsFrom_append noBlank, List.append_nil, List.cons_append, Text.wordsFrom,
      if_pos here, if_neg (by simpa using nonempty), List.reverse_reverse,
      ← words_blank_append later rest, Text.words]

theorem SpellsPoints.mapM_words {codes chars : List Char} (spells : SpellsPoints codes chars) :
    (Text.words codes).mapM hexChar = .ok chars := by
  rw [mapM_eq_ok_iff]
  induction spells with
  | last spells =>
    rw [words_word spells.1 fun digit mem => (spells.plain digit mem).noBlank]
    exact .cons (hexChar_of_spellsHex spells) .nil
  | more spells apart isBlank _ ih =>
    rw [words_append spells.1 (fun digit mem => (spells.plain digit mem).noBlank) apart isBlank]
    exact .cons (hexChar_of_spellsHex spells) ih

/-! ### Escape sequences -/

/-- The letters that stand for a character behind a backslash. -/
def letterMeanings : List (Char × Char) :=
  [ ('n', '\n'), ('t', '\t'), ('s', ' '), ('r', '\r'), ('e', '\x1b'), ('a', '\x07'), ('b', '\x08'),
    ('f', '\x0c'), ('v', '\x0b') ]

/-- A character that stands for itself behind a backslash: no line feed, no digit, no letter with a
meaning there, and none that begins an escape by number, a control or a meta escape. -/
structure IsUnassigned (char : Char) : Prop where
  noLineFeed : char ≠ '\n'
  noDigit : Text.isDigit char = false
  noMeaning : char ∉ letterMeanings.map Prod.fst
  noOpening : char ∉ ['u', 'x', 'c', 'C', 'M']

/-- The escape sequences between double quotes, with the text that each stands for. -/
inductive Escapes : List Char → List Char → Prop
  | short {digits : List Char} {char : Char} (four : digits.length = 4)
      (spells : SpellsHex digits char.toNat) : Escapes ('\\' :: 'u' :: digits) [char]
  | points {codes chars : List Char} (spells : SpellsPoints codes chars) :
    Escapes ('\\' :: 'u' :: '\x7b' :: (codes ++ ['\x7d'])) chars
  | letter {letter char : Char} (means : (letter, char) ∈ letterMeanings) :
    Escapes ['\\', letter] [char]
  | unassigned {char : Char} (own : IsUnassigned char) : Escapes ['\\', char] [char]
  /-- A line that goes on behind its end. -/
  | continuation : Escapes ['\\', '\n'] []

theorem isBrace_of_isBlank {char : Char} (blank : Text.isBlank char = true) :
    isBrace char = false := by
  refine Bool.eq_false_iff.mpr fun brace => ?_
  rcases Bool.or_eq_true_iff.mp brace with opens | closes
  · rw [of_decide_eq_true opens] at blank
    revert blank
    decide
  · rw [of_decide_eq_true closes] at blank
    revert blank
    decide

theorem SpellsPoints.noBrace {codes chars : List Char} (spells : SpellsPoints codes chars) :
    ∀ char ∈ codes, isBrace char = false := by
  induction spells with
  | last spells => exact fun digit mem => (spells.plain digit mem).noBrace
  | more spells apart isBlank _ ih =>
    refine List.forall_mem_append.mpr ⟨fun digit mem => (spells.plain digit mem).noBrace, ?_⟩
    exact List.forall_mem_append.mpr ⟨fun space mem => isBrace_of_isBlank (isBlank space mem), ih⟩

/-- The braces around code points are dropped. -/
theorem trim_braces {codes : List Char} (noBrace : ∀ char ∈ codes, isBrace char = false) :
    Text.trim isBrace ('\x7b' :: (codes ++ ['\x7d'])) = codes := by
  rw [Text.trim, List.dropWhile_cons_of_pos (by decide)]
  cases codes with
  | nil => rfl
  | cons char rest =>
    have first := noBrace char List.mem_cons_self
    have back : (char :: rest).reverse.dropWhile isBrace = (char :: rest).reverse :=
      dropWhile_eq_self fun char mem => noBrace char (List.mem_reverse.mp mem)
    rw [List.cons_append, List.dropWhile_cons_of_neg (by simp [first]), ← List.cons_append,
      List.reverse_concat, List.dropWhile_cons_of_pos (by decide), back, List.reverse_reverse]

theorem numericEscape?_of_unassigned {char : Char} (own : IsUnassigned char) :
    numericEscape? [char] = none := by
  have noOpening := own.noOpening
  unfold numericEscape?
  split
  · rename_i same
    cases same
    exact absurd (by decide) noOpening
  · rename_i same
    cases same
    exact absurd (by decide) noOpening
  · rename_i same
    cases same
    rw [if_neg (by simp [own.noDigit])]
  · rename_i same
    cases same

theorem letterEscape_of_unassigned {char : Char} (own : IsUnassigned char) :
    letterEscape char = [char] := by
  have keys : ∀ pair ∈ letterEscapes, pair.1 ∈ letterMeanings.map Prod.fst ∨ pair.1 = '\n' := by
    decide
  have missing : letterEscapes.lookup char = none := by
    refine List.lookup_eq_none_iff.mpr fun pair mem => bne_iff_ne.mpr ?_
    rintro rfl
    exact (keys pair mem).elim own.noMeaning own.noLineFeed
  rw [letterEscape, missing]
  rfl

/-- **An escape sequence is decoded to the text that it stands for.** -/
theorem decodeEscape_of_escapes {sequence value : List Char} (escapes : Escapes sequence value) :
    decodeEscape sequence = .ok value := by
  cases escapes with
  | @short digits char _ spells =>
    have noBrace : Text.trim isBrace digits = digits :=
      trim_eq_self fun digit mem => (spells.plain digit mem).noBrace
    have read : numericEscape? ('u' :: digits) = some (.ok [char]) := by
      rw [numericEscape?, noBrace, (SpellsPoints.last spells).mapM_words]
    rw [decodeEscape, List.drop_one, List.tail_cons, read]
  | @points codes _ spells =>
    have read : numericEscape? ('u' :: '\x7b' :: (codes ++ ['\x7d'])) = some (.ok value) := by
      rw [numericEscape?, trim_braces spells.noBrace, spells.mapM_words]
    rw [decodeEscape, List.drop_one, List.tail_cons, read]
  | letter means =>
    have each : ∀ pair ∈ letterMeanings, decodeEscape ['\\', pair.1] = .ok [pair.2] := by decide
    exact each _ means
  | @unassigned char own =>
    rw [decodeEscape, List.drop_one, List.tail_cons, numericEscape?_of_unassigned own]
    exact congrArg Except.ok (letterEscape_of_unassigned own)
  | continuation => rfl

/-! ### Literals -/

/-- The quotes around a literal. -/
inductive Quote where
  | single
  | double

/-- The character of quotes. -/
def Quote.mark : Quote → Char
  | .single => '\x27'
  | .double => '\x22'

/-- A character between single quotes: a backslash stands in front of a backslash and of a quote. -/
def singleQuoted (char : Char) : List Char :=
  if char = '\\' ∨ char = '\x27' then ['\\', char] else [char]

/-- The parts of a literal between quotes, with the text that each stands for. Between single quotes
it does not matter what kind a part is of; no part ends behind the backslash of an escape. -/
inductive Quote.Writes : Quote → Concrete → List Char → Prop
  | single {part : Concrete} {value : List Char} (type : part.type ∈ partTypes)
      (text : part.text.toList = value.flatMap singleQuoted) : Writes .single part value
  | plain {part : Concrete} {value : List Char} (type : part.type = "string_content")
      (text : part.text.toList = value) (noBackslash : '\\' ∉ value) (noQuote : '\x22' ∉ value) :
      Writes .double part value
  | escaped {part : Concrete} {value : List Char} (type : part.type = "escape_sequence")
      (escapes : Escapes part.text.toList value) : Writes .double part value

/-- A literal that spells a text between quotes: a symbol, with a colon in front, or a string. -/
structure IsSpelling (isSymbol : Bool) (quote : Quote) (text : String) (literal : Concrete) :
    Prop where
  type : literal.type = quotedType isSymbol
  quoted : literal.text.toList = (if isSymbol then [':'] else []) ++
    quote.mark :: (literal.code.flatMap (fun part => part.text.toList) ++ [quote.mark])
  parts : ∃ values, List.Forall₂ quote.Writes literal.code values ∧ values.flatten = text.toList

theorem dropBackslashes_cons {char : Char} (plain : char ≠ '\\') (rest : List Char) :
    dropBackslashes (char :: rest) = char :: dropBackslashes rest := by
  cases rest with
  | nil => rfl
  | cons second rest => rw [dropBackslashes, if_neg fun escaped => plain escaped.1]

/-- **Dropping the backslashes of a text between single quotes gives the text.** -/
theorem dropBackslashes_singleQuoted (value : List Char) :
    dropBackslashes (value.flatMap singleQuoted) = value := by
  induction value with
  | nil => rfl
  | cons char rest ih =>
    rw [List.flatMap_cons, singleQuoted]
    split
    · rename_i escaped
      show dropBackslashes ('\\' :: char :: rest.flatMap singleQuoted) = _
      rw [dropBackslashes, if_pos ⟨rfl, escaped⟩, ih]
    · rename_i plain
      rw [List.singleton_append, dropBackslashes_cons (not_or.mp plain).1, ih]

section Parts

variable {parts : List Concrete} {values : List (List Char)}

theorem type_mem_of_writes {quote : Quote} (writes : List.Forall₂ quote.Writes parts values) :
    ∀ part ∈ parts, part.type ∈ partTypes := by
  induction writes with
  | nil => nofun
  | cons here _ ih =>
    refine List.forall_mem_cons.mpr ⟨?_, ih⟩
    cases here with
    | single type _ => exact type
    | plain type | escaped type => simp [type, partTypes]

theorem flatMap_dropBackslashes (writes : List.Forall₂ Quote.single.Writes parts values) :
    parts.flatMap (fun part => dropBackslashes part.text.toList) = values.flatten := by
  induction writes with
  | nil => rfl
  | cons here _ ih =>
    cases here with
    | single _ text =>
      rw [List.flatMap_cons, List.flatten_cons, text, dropBackslashes_singleQuoted, ih]

theorem mapM_partValue_of_writes (writes : List.Forall₂ Quote.double.Writes parts values) :
    parts.mapM partValue = .ok values := by
  refine mapM_eq_ok_iff.mpr (writes.imp fun part value here => ?_)
  cases here with
  | plain type text =>
    have noEscape : part.type ≠ "escape_sequence" := by simp [type]
    rw [partValue, if_neg noEscape, text]
  | escaped type escapes => rw [partValue, if_pos type, decodeEscape_of_escapes escapes]

end Parts

/-- The quotes of a literal are told by the character behind its colon. -/
theorem isSingleQuoted_iff {isSymbol : Bool} {quote : Quote} {text rest : List Char}
    (quoted : text = (if isSymbol then [':'] else []) ++ quote.mark :: rest) :
    isSingleQuoted text = true ↔ quote = .single := by
  rw [quoted]
  cases isSymbol <;> cases quote <;> simp [isSingleQuoted, dropColon, Quote.mark]

/-- **A literal that spells a text has this text as its value.** -/
theorem literalValue_of_isSpelling {isSymbol : Bool} {quote : Quote} {text : String}
    {literal : Concrete} (spells : IsSpelling isSymbol quote text literal) :
    literalValue (isSingleQuoted literal.text.toList) literal.code = .ok text := by
  obtain ⟨values, writes, whole⟩ := spells.parts
  have style := isSingleQuoted_iff spells.quoted
  cases quote with
  | single =>
    rw [style.mpr rfl]
    show Except.ok (String.ofList _) = _
    rw [flatMap_dropBackslashes writes, whole, String.ofList_toList]
  | double =>
    rw [Bool.eq_false_iff.mpr fun single => nomatch style.mp single]
    show (literal.code.mapM partValue).map _ = _
    rw [mapM_partValue_of_writes writes]
    show Except.ok (String.ofList values.flatten) = _
    rw [whole, String.ofList_toList]

/-- A literal without interpolation becomes the literal of its value. -/
theorem convert_of_literalValue {isSymbol : Bool} {text : String} {literal : Concrete}
    (type : literal.type = quotedType isSymbol) (known : ∀ part ∈ literal.code, part.type ∈ partTypes)
    (value : literalValue (isSingleQuoted literal.text.toList) literal.code = .ok text)
    (bound : Names) :
    convert planner literal bound =
      .ok (if isSymbol then .symbol text (some literal.location)
        else .string text (some literal.location), bound) := by
  have binds : boundBy literal = [] := by
    cases isSymbol <;> simp [boundBy, type, quotedType, assignmentTypes, callTypes]
  have becomes : literalNode literal text =
      if isSymbol then .symbol text (some literal.location)
      else .string text (some literal.location) := by
    cases isSymbol <;> simp [literalNode, type, quotedType]
  have plans : plan literal (boundBy literal ++ bound) =
      .ok (leafPlan literal (literalNode literal text)) := by
    rw [plan_quoted type, quotedPlan_eq, if_pos known, value]
    rfl
  rw [convert_leaf plans, binds, becomes]
  rfl

/-- **Every spelling of a text becomes the literal of this text.** -/
theorem convert_of_isSpelling {isSymbol : Bool} {quote : Quote} {text : String} {literal : Concrete}
    (spells : IsSpelling isSymbol quote text literal) (bound : Names) :
    convert planner literal bound =
      .ok (if isSymbol then .symbol text (some literal.location)
        else .string text (some literal.location), bound) := by
  obtain ⟨values, writes, -⟩ := spells.parts
  exact convert_of_literalValue spells.type (type_mem_of_writes writes)
    (literalValue_of_isSpelling spells) bound

/-! ### Declarations -/

/-- A node that a call of the source becomes, whose first argument spells a text. -/
inductive IsNamedAs (text : String) : Node → Prop
  | intro {call literal : Concrete} {others : List Concrete} {isSymbol : Bool} {quote : Quote}
      {node : Node} (isCall : call.type ∈ callTypes)
      (arguments : call.argumentNodes = literal :: others)
      (spells : IsSpelling isSymbol quote text literal) (becomes : Becomes call node) :
      IsNamedAs text node

/-- A call becomes a call or a block with what its arguments become, unless it is not interpreted. -/
theorem arguments_of_becomes {call : Concrete} {node : Node} (isCall : call.type ∈ callTypes)
    (becomes : Becomes call node) :
    node.kind = .other ∨ ∃ invocation : Call Node,
      List.Forall₂ Becomes call.argumentNodes invocation.arguments ∧
        (node = .call invocation ∨ ∃ body place, node = .block invocation body place) := by
  obtain ⟨bound, last, converts⟩ := becomes
  obtain ⟨planned, nodes, ofPlan, below, assembles⟩ := plan_of_convert converts
  cases (plan_of_call isCall _).symm.trans ofPlan
  cases atMethod : call.childAt? "method" with
  | none =>
    left
    unfold callPlan at assembles
    rw [atMethod] at assembles
    cases assembles
    rfl
  | some method =>
    right
    rw [callPlan_eq atMethod] at below assembles
    cases assembles
    obtain ⟨receiver, arguments, statements, -, -, ofArguments, -, made⟩ :=
      assembleCall_of_becomes method.text (forall₂_becomes below)
    refine ⟨{ method := method.text, arguments, receiver, location := some call.location },
      ofArguments, ?_⟩
    rw [made, callNode]
    cases attachedBlock? call with
    | none => exact .inl rfl
    | some block => exact .inr ⟨_, _, rfl⟩

theorem resolveAt_of_isSpelling {isSymbol : Bool} {quote : Quote} {text : String}
    {literal : Concrete} {node : Node} (spells : IsSpelling isSymbol quote text literal)
    (becomes : Becomes literal node) (pos : Nat) : node.resolveAt pos = .ok (.known text) := by
  obtain ⟨bound, last, converts⟩ := becomes
  cases converts.symm.trans (convert_of_isSpelling spells bound)
  cases isSymbol <;> rfl

/-- **A declaration whose name is a spelling of a text has this name.** -/
theorem resolve_of_isNamedAs {text : String} {declaration : Occurrence}
    (isLet : declaration.node.isLet = true) (named : IsNamedAs text declaration.node) :
    declaration.resolve = .ok (.known text) := by
  obtain ⟨pos, node⟩ := declaration
  obtain ⟨isCall, arguments, spells, becomes⟩ := named
  rcases arguments_of_becomes isCall becomes with other | ⟨invocation, ofArguments, shape⟩
  · cases node <;> first | cases isLet | cases other
  obtain ⟨method, given, receiver, place⟩ := invocation
  rw [arguments] at ofArguments
  obtain ⟨first, rest, ofLiteral, -, rfl⟩ := List.forall₂_cons_left_iff.mp ofArguments
  have known := resolveAt_of_isSpelling spells ofLiteral
  rcases shape with rfl | ⟨body, location, rfl⟩
  · have declares : letMethods.contains method = true := (Bool.and_eq_true_iff.mp isLet).2
    rw [Occurrence.resolve, Node.resolveAt, if_pos declares, known]
  · have declares : letMethods.contains method = true := (Bool.and_eq_true_iff.mp isLet).2
    rw [Occurrence.resolve, Node.resolveAt, if_pos declares, known]

/-- A declaration with the name of one around it is reported. -/
theorem mem_overridden_of_declaredAround {root group declaration : Occurrence} {name : String}
    (groupMem : group ∈ root.groups) (direct : declaration.DirectIn group)
    (named : declaration.resolve = .ok (.known name)) (around : DeclaredAround root group name) :
    ({ declaration, name } : Offense) ∈ overridden root := by
  classical
  refine List.mem_flatMap.mpr ⟨group, groupMem, List.mem_filterMap.mpr ⟨declaration, ?_, ?_⟩⟩
  · rw [Occurrence.madeDirectly_eq]
    exact Occurrence.mem_directDeclarations.mpr direct
  · rw [overriding, named]
    exact if_pos around

theorem analyzeTree_of_analyzeRuby {file : String} {source : Concrete} {root : Node} {result : Result}
    (becomes : tree source = .ok root) (analyzed : analyzeRuby file (some source) = .ok result)
    (goes : result.error = none) : analyzeTree root file = .ok result := by
  rw [analyzeRuby, loadRuby, becomes] at analyzed
  change resultOf file (.ok root) = .ok result at analyzed
  rw [resultOf] at analyzed
  split at analyzed
  · next found =>
    cases analyzed
    exact found
  · cases analyzed
    cases goes

/-- **It does not matter how a name is spelled.** Every spelling of a text becomes the literal of the
text. So in a Ruby file that is checked, a declaration made directly in a group is reported if its name
is a spelling of the same text as that of a declaration in a group around. -/
theorem reported_of_spellings (text : String) :
    (∀ isSymbol quote literal, IsSpelling isSymbol quote text literal → ∀ bound,
      convert planner literal bound =
        .ok (if isSymbol then .symbol text (some literal.location)
          else .string text (some literal.location), bound)) ∧
    ∀ file source root result, tree source = .ok root →
      analyzeRuby file (some source) = .ok result → result.error = none →
      ∀ outer inner declared declaration : Occurrence,
        outer ∈ (⟨0, root⟩ : Occurrence).groups → inner ∈ (⟨0, root⟩ : Occurrence).groups →
        outer.Encloses inner → declared.DirectIn outer → declaration.DirectIn inner →
        IsNamedAs text declared.node → IsNamedAs text declaration.node →
          ({ declaration, name := text } : Offense) ∈ result.offenses := by
  refine ⟨fun isSymbol quote literal spells bound => convert_of_isSpelling spells bound, ?_⟩
  intro file source root result becomes analyzed goes outer inner declared declaration outerMem
    innerMem encloses around direct declaredAs namedAs
  have checked := analyzeTree_of_analyzeRuby becomes analyzed goes
  obtain ⟨-, rfl⟩ := analyzeTree_eq_ok_iff.mp checked
  have named := resolve_of_isNamedAs direct.1 namedAs
  have other := resolve_of_isNamedAs around.1 declaredAs
  exact mem_overridden_of_declaredAround innerMem direct named
    ⟨outer, outerMem, encloses, declared, around, other⟩

/-- The call `let(name)`. -/
def declaring (name : Concrete) (column : Int) : Concrete :=
  onLine none "call" "" column
    [ onLine (some "method") "identifier" "let" column [],
      onLine (some "arguments") "argument_list" "" (column + 3) [name] ]

/-- The group `context { … }`. -/
def grouping (statements : List Concrete) (column : Int) : Concrete :=
  onLine none "call" "" column
    [ onLine (some "method") "identifier" "context" column [],
      onLine (some "block") "block" "" (column + 8) statements ]

/-- The symbol `:"\u0061"`. -/
def escapedName : Concrete :=
  onLine none "delimited_symbol" ":\"\\u0061\"" 14 [onLine none "escape_sequence" "\\u0061" 16 []]

/-- The string `'a'`. -/
def quotedName : Concrete :=
  onLine none "string" "'a'" 39 [onLine none "string_content" "a" 40 []]

/-- The file `context { let(:"\u0061"); context { let('a') } }`. -/
def spelledTwice : Concrete :=
  onLine none "program" "" 0
    [grouping [declaring escapedName 10, grouping [declaring quotedName 35] 25] 0]

/-- What `spelledTwice` becomes. -/
def declaredTwice : Node :=
  let declares (name : Node) (column : Int) : Node :=
    .call { method := "let", arguments := [name], location := some ⟨1, column⟩ }
  let group (statements : List Node) (column : Int) : Node :=
    .block { method := "context", location := some ⟨1, column⟩ }
      (some (.sequence statements (some ⟨1, column + 8⟩))) (some ⟨1, column⟩)
  .sequence
    [ group
        [ declares (.symbol "a" (some ⟨1, 14⟩)) 10,
          group [declares (.string "a" (some ⟨1, 39⟩)) 35] 25 ]
        0 ]
    (some ⟨1, 0⟩)

theorem isSpelling_escapedName : IsSpelling true .double "a" escapedName where
  type := rfl
  quoted := rfl
  parts := by
    have digits : SpellsHex ['0', '0', '6', '1'] 'a'.toNat := by
      refine ⟨nofun, [0, 0, 6, 1], ?_, rfl⟩
      refine .cons ⟨?_, ?_⟩ (.cons ⟨?_, ?_⟩ (.cons ⟨?_, ?_⟩ (.cons ⟨?_, ?_⟩ .nil))) <;> decide
    exact ⟨[['a']], .cons (.escaped rfl (.short rfl digits)) .nil, rfl⟩

theorem isSpelling_quotedName : IsSpelling false .single "a" quotedName where
  type := rfl
  quoted := rfl
  parts := ⟨[['a']], .cons (.single (by decide) rfl) .nil, rfl⟩

theorem convert_declaring {name : Concrete} {node : Node} {column : Int}
    (arguments : (declaring name column).argumentNodes = [name])
    (ofName : convert planner name [] = .ok (node, [])) :
    convert planner (declaring name column) [] =
      .ok (.call { method := "let", arguments := [node], location := some ⟨1, column⟩ }, []) := by
  refine convert_call rfl ⟨_, rfl, rfl⟩ (convertAll_nil _) ?_ (convertAll_nil _)
  rw [arguments]
  exact convertAll_cons_eq_ok ofName (convertAll_nil _)

theorem convert_grouping {statements : List Concrete} {nodes : List Node} {column : Int}
    (noNames : boundBy (grouping statements column) = [])
    (below : convertAll planner (blockStatements (grouping statements column)) [] = .ok (nodes, [])) :
    convert planner (grouping statements column) [] =
      .ok (callNode (grouping statements column)
        { method := "context", location := some ⟨1, column⟩ } nodes, []) := by
  have noReceiver : convertAll planner ((grouping statements column).childAt? "receiver").toList
      (boundBy (grouping statements column) ++ []) = .ok ((none : Option Node).toList, []) := by
    rw [noNames]
    exact convertAll_nil _
  exact convert_call rfl ⟨_, rfl, rfl⟩ noReceiver (convertAll_nil _) below

theorem tree_spelledTwice : tree spelledTwice = .ok declaredTwice := by
  have inner : convert planner (declaring quotedName 35) [] = _ :=
    convert_declaring rfl (convert_of_isSpelling isSpelling_quotedName [])
  have outer : convert planner (declaring escapedName 10) [] = _ :=
    convert_declaring rfl (convert_of_isSpelling isSpelling_escapedName [])
  have context : convert planner (grouping [declaring quotedName 35] 25) [] = _ :=
    convert_grouping rfl (convertAll_cons_eq_ok inner (convertAll_nil _))
  have describe : convert planner
      (grouping [declaring escapedName 10, grouping [declaring quotedName 35] 25] 0) [] = _ :=
    convert_grouping rfl (convertAll_cons_eq_ok outer (convertAll_cons_eq_ok context (convertAll_nil _)))
  have whole : convert planner spelledTwice [] = .ok (declaredTwice, []) :=
    convert_row (by decide) (List.forall_mem_singleton.mpr ⟨rfl, rfl⟩)
      (convertAll_cons_eq_ok describe (convertAll_nil _))
  rw [tree, build_eq_convert, whole]
  rfl

/-- In `spelledTwice` the inner declaration is reported. -/
theorem reported_of_spellings_nested :
    IsSpelling true .double "a" escapedName ∧ IsSpelling false .single "a" quotedName ∧
      ∃ root result, tree spelledTwice = .ok root ∧
        analyzeRuby "a_spec.rb" (some spelledTwice) = .ok result ∧ result.error = none ∧
        ∃ declaration, ({ declaration, name := "a" } : Offense) ∈ result.offenses := by
  obtain ⟨result, analyzed, goes⟩ : ∃ result,
      analyzeRuby "a_spec.rb" (some spelledTwice) = .ok result ∧ result.error = none := by
    rw [analyzeRuby, loadRuby, tree_spelledTwice]
    exact ⟨_, rfl, rfl⟩
  let root : Occurrence := ⟨0, declaredTwice⟩
  have outerMem : root.groups[0] ∈ root.groups := List.getElem_mem _
  have innerMem : root.groups[1] ∈ root.groups := List.getElem_mem _
  have encloses : root.groups[0].Encloses root.groups[1] :=
    (Occurrence.encloses_iff_between (Occurrence.mem_groups.mp outerMem).1
      (Occurrence.mem_groups.mp innerMem).1).mpr (by decide)
  have inOuter : root.walk[4].DirectIn root.groups[0] :=
    Occurrence.mem_directDeclarations.mp List.mem_cons_self
  have inInner : root.walk[9].DirectIn root.groups[1] :=
    Occurrence.mem_directDeclarations.mp List.mem_cons_self
  have first : Becomes (declaring escapedName 10) root.walk[4].node :=
    ⟨[], [], convert_declaring rfl (convert_of_isSpelling isSpelling_escapedName [])⟩
  have second : Becomes (declaring quotedName 35) root.walk[9].node :=
    ⟨[], [], convert_declaring rfl (convert_of_isSpelling isSpelling_quotedName [])⟩
  have reported := (reported_of_spellings "a").2 "a_spec.rb" spelledTwice declaredTwice result
    tree_spelledTwice analyzed goes _ _ _ _ outerMem innerMem encloses inOuter inInner
    (.intro List.mem_cons_self rfl isSpelling_escapedName first)
    (.intro List.mem_cons_self rfl isSpelling_quotedName second)
  exact ⟨isSpelling_escapedName, isSpelling_quotedName, declaredTwice, result, tree_spelledTwice,
    analyzed, goes, _, reported⟩

end LetShadow.Ruby
