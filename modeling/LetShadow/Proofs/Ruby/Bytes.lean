/-
**The bytes of a literal between double quotes.**

A value is a row of bytes, and its text is what these bytes encode. A part of a literal contributes
whole characters, the character behind a backslash, or, by a number of at most two hexadecimal or
three octal digits, one byte; several of those may encode one character together. The conversion
decodes each part by itself, to the character with the number of the byte.

* `Share` — what a part contributes: `bytes` is what it stands for, `read` what it is decoded to.
* `Share.Writes` — **the escape sequences,** with what each contributes.
* `Share.flatMap_read_eq_iff` — **decoding each part by itself gives the text that the bytes encode
  exactly if no part is misread:** no byte that is no ASCII character, and no backslash in front of a
  digit that is not octal.
* `doubleQuoted_value_iff` — so the value of a literal is right exactly if no part of it is misread.
* `doubleQuoted_misread` — **some literals are misread.**
-/

import Mathlib.Algebra.BigOperators.Ring.List
import Mathlib.Algebra.Order.BigOperators.Group.List
import LetShadow.Proofs.Ruby.Spellings

namespace LetShadow.Ruby

open Conversion (convert)

/-! ### The weight of bytes -/

/-- The bytes that encode some characters. -/
def encode (text : List Char) : List UInt8 :=
  text.flatMap String.utf8EncodeChar

/-- The weight of a byte. A byte that goes on with a character weighs one, and the first byte of a
character what is missing to three. -/
def weight (byte : UInt8) : Nat :=
  if byte < 0x80 then 3
  else if byte < 0xC0 then 1
  else if byte < 0xE0 then 2
  else if byte < 0xF0 then 1
  else 0

/-- The weight of some bytes. -/
def weights (bytes : List UInt8) : Nat :=
  (bytes.map weight).sum

theorem weight_lt_of_high {byte : UInt8} (high : 0x80 ≤ byte) : weight byte < 3 := by
  rw [weight, if_neg (UInt8.not_lt.mpr high)]
  split
  · decide
  · split
    · decide
    · split <;> decide

theorem weight_ascii : ∀ number < 0x80, weight (UInt8.ofNat number) = 3 := by
  decide

theorem weight_firstOfTwo : ∀ bits < 32, weight (UInt8.ofNat (bits + 192)) = 2 := by
  decide

theorem weight_firstOfThree : ∀ bits < 16, weight (UInt8.ofNat (bits + 224)) = 1 := by
  decide

theorem weight_firstOfFour : ∀ bits < 8, weight (UInt8.ofNat (bits + 240)) = 0 := by
  decide

theorem weight_continuation : ∀ bits < 64, weight (UInt8.ofNat (bits + 128)) = 1 := by
  decide

/-- **The bytes of a character weigh three.** -/
theorem weights_utf8EncodeChar (char : Char) : weights (String.utf8EncodeChar char) = 3 := by
  have continuation (bits : Nat) : weight (UInt8.ofNat (bits % 64 + 128)) = 1 :=
    weight_continuation _ (Nat.mod_lt _ (by decide))
  rw [String.utf8EncodeChar, weights]
  split
  · rename_i ascii
    rw [List.map_singleton, List.sum_singleton, weight_ascii _ (Nat.lt_succ_of_le ascii)]
  · split
    · rw [List.map_cons, List.map_singleton, weight_firstOfTwo _ (Nat.mod_lt _ (by decide)),
        continuation]
      rfl
    · split
      · rw [List.map_cons, List.map_cons, List.map_singleton,
          weight_firstOfThree _ (Nat.mod_lt _ (by decide)), continuation, continuation]
        rfl
      · rw [List.map_cons, List.map_cons, List.map_cons, List.map_singleton,
          weight_firstOfFour _ (Nat.mod_lt _ (by decide)), continuation, continuation, continuation]
        rfl

@[simp]
theorem weights_append (first second : List UInt8) :
    weights (first ++ second) = weights first + weights second := by
  simp [weights]

theorem weights_encode (text : List Char) : weights (encode text) = 3 * text.length := by
  induction text with
  | nil => rfl
  | cons char rest ih =>
    rw [encode, List.flatMap_cons, weights_append, weights_utf8EncodeChar, ← encode, ih,
      List.length_cons]
    ring

/-- **Texts with the same bytes are the same.** -/
theorem encode_injective : Function.Injective encode := by
  intro first second same
  have bytes : first.utf8Encode = second.utf8Encode := congrArg List.toByteArray same
  rw [← String.toByteArray_ofList, ← String.toByteArray_ofList] at bytes
  exact String.ofList_injective (String.toByteArray_inj.mp bytes)

/-! ### Digits -/

theorem exists_range_of_holds {ranges : Text.Ranges} {point : Nat}
    (inside : ranges.holds point = true) : ∃ range ∈ ranges, range.1 ≤ point ∧ point ≤ range.2 := by
  induction ranges with
  | nil => cases inside
  | cons range rest ih =>
    rw [Text.Ranges.holds] at inside
    split at inside
    · cases inside
    · split at inside
      · exact ⟨range, List.mem_cons_self, by omega, by omega⟩
      · obtain ⟨other, mem, between⟩ := ih inside
        exact ⟨other, List.mem_cons_of_mem _ mem, between⟩

/-- No digit stands in front of the ASCII digits. -/
theorem le_toNat_of_isDigit {char : Char} (isDigit : Text.isDigit char = true) :
    0x30 ≤ char.toNat := by
  have decimals : ∀ first ∈ Text.decimalZeros, 0x30 ≤ first := by decide
  have others : ∀ range ∈ Text.otherDigitRanges, 0x30 ≤ range.1 := by decide
  rcases Bool.or_eq_true_iff.mp isDigit with decimal | other
  · rw [Text.decimalValue?, Option.isSome_map, List.find?_isSome] at decimal
    obtain ⟨first, mem, between⟩ := decimal
    exact (decimals first mem).trans (of_decide_eq_true (Bool.and_eq_true_iff.mp between).1)
  · obtain ⟨range, mem, between⟩ := exists_range_of_holds other
    exact (others range mem).trans between.1

/-- No digit is white space. -/
theorem isBlank_of_isDigit {char : Char} (isDigit : Text.isDigit char = true) :
    Text.isBlank char = false := by
  have blanks : ∀ range ∈ Text.blankRanges, ∀ point ∈ List.range' range.1 (range.2 + 1 - range.1),
      Text.isDigit (Char.ofNat point) = false := by decide +kernel
  refine Bool.eq_false_iff.mpr fun blank => ?_
  obtain ⟨range, mem, low, high⟩ := exists_range_of_holds blank
  have none := blanks range mem char.toNat (List.mem_range'_1.mpr ⟨low, by omega⟩)
  rw [Char.ofNat_toNat, isDigit] at none
  cases none

theorem toNat_ofNat_of_lt {number : Nat} (small : number < 0x100) :
    (Char.ofNat number).toNat = number := by
  have valid : number.isValidChar := .inl (small.trans (by decide))
  rw [Char.ofNat, dif_pos valid]
  rfl

theorem lt_of_digitValue? {base value : Nat} {char : Char}
    (found : Text.digitValue? base char = some value) : value < base :=
  of_decide_eq_true (Option.filter_eq_some_iff.mp found).2

/-! ### Shares -/

/-- What a part of a literal contributes to its value. -/
inductive Share where
  /-- Whole characters. -/
  | chars (value : List Char)
  /-- One byte, by its number. -/
  | byte (value : UInt8)
  /-- The character behind a backslash which gives it no other meaning. -/
  | itself (char : Char)

namespace Share

/-- The bytes that a part stands for. -/
def bytes : Share → List UInt8
  | chars value => encode value
  | byte value => [value]
  | itself char => String.utf8EncodeChar char

/-- What a part is decoded to by itself. Behind a backslash, a digit of any script is taken for the
number of a character. -/
def read : Share → List Char
  | chars value => value
  | byte value => [Char.ofNat value.toNat]
  | itself char =>
    if Text.isDigit char then
      match Text.digitValue? 8 char with
      | some number => [Char.ofNat number]
      | none => ['\\', char]
    else [char]

/-- A part that is misread: a byte that is no ASCII character, or a digit behind a backslash. -/
def IsMisread : Share → Prop
  | chars _ => False
  | byte value => 0x80 ≤ value
  | itself char => Text.isDigit char = true

variable {share : Share} {shares : List Share} {text : List Char}

/-- The characters that a part stands for if its bytes are those of characters. -/
def meant : Share → List Char
  | chars value => value
  | byte value => [Char.ofNat value.toNat]
  | itself char => [char]

/-- A byte that is no ASCII character. -/
def IsHigh : Share → Prop
  | byte value => 0x80 ≤ value
  | _ => False

theorem utf8EncodeChar_of_ascii {byte : UInt8} (ascii : byte < 0x80) :
    String.utf8EncodeChar (Char.ofNat byte.toNat) = [byte] := by
  have small : byte.toNat < 0x80 := ascii
  have number : (Char.ofNat byte.toNat).val.toNat = byte.toNat :=
    toNat_ofNat_of_lt byte.toNat_lt
  rw [String.utf8EncodeChar, number, if_pos (Nat.le_of_lt_succ small), UInt8.ofNat_toNat]

theorem bytes_eq_encode_meant (low : ¬ share.IsHigh) : share.bytes = encode share.meant := by
  cases share with
  | chars value => rfl
  | byte value =>
    rw [meant, encode, List.flatMap_singleton, utf8EncodeChar_of_ascii (UInt8.not_le.mp low), bytes]
  | itself char => rw [meant, encode, List.flatMap_singleton, bytes]

theorem length_meant_le (share : Share) : share.meant.length ≤ share.read.length := by
  cases share with
  | chars | byte => exact le_rfl
  | itself char =>
    rw [meant, read]
    split
    · split <;> simp
    · exact le_rfl

/-- **What a part stands for weighs no more than what it is decoded to,** and a byte that is no ASCII
character weighs less. -/
theorem weights_bytes_le (share : Share) :
    weights share.bytes ≤ 3 * share.read.length ∧
      (share.IsHigh → weights share.bytes < 3 * share.read.length) := by
  by_cases high : share.IsHigh
  · cases share with
    | byte value =>
      have less : weights [value] < 3 := weight_lt_of_high high
      exact ⟨less.le, fun _ => less⟩
    | chars | itself => exact high.elim
  · refine ⟨?_, fun high' => absurd high' high⟩
    rw [bytes_eq_encode_meant high, weights_encode]
    exact Nat.mul_le_mul_left 3 share.length_meant_le

/-- **A digit behind a backslash is not decoded to itself.** -/
theorem read_ne_meant {char : Char} (isDigit : Text.isDigit char = true) :
    (itself char).read ≠ (itself char).meant := by
  rw [read, meant, if_pos isDigit]
  intro same
  cases found : Text.digitValue? 8 char with
  | none =>
    rw [found] at same
    cases (List.cons_eq_cons.mp same).2
  | some number =>
    rw [found] at same
    have control : (Char.ofNat number).toNat = char.toNat :=
      congrArg Char.toNat (List.singleton_inj.mp same)
    have small := lt_of_digitValue? found
    have large := le_toNat_of_isDigit isDigit
    rw [toNat_ofNat_of_lt (small.trans (by decide))] at control
    omega

theorem read_eq_meant (right : ¬ share.IsMisread) : share.read = share.meant := by
  cases share with
  | chars | byte => rfl
  | itself char => exact if_neg right

theorem IsHigh.isMisread (high : share.IsHigh) : share.IsMisread := by
  cases share with
  | byte => exact high
  | chars | itself => exact high.elim

theorem weights_flatMap_bytes (shares : List Share) :
    weights (shares.flatMap bytes) = (shares.map fun share => weights share.bytes).sum := by
  induction shares with
  | nil => rfl
  | cons share rest ih => rw [List.flatMap_cons, weights_append, ih, List.map_cons, List.sum_cons]

theorem flatMap_bytes_eq (low : ∀ share ∈ shares, ¬ share.IsHigh) :
    shares.flatMap bytes = encode (shares.flatMap meant) := by
  rw [encode, List.flatMap_assoc]
  exact List.flatMap_congr fun share mem => bytes_eq_encode_meant (low share mem)

/-- If what the parts are decoded to has the bytes that they stand for, this holds of the weight of
each: none weighs more, and the whole text is as heavy as its bytes. -/
theorem weights_bytes_eq (encodes : encode (shares.flatMap read) = shares.flatMap bytes) :
    ∀ share ∈ shares, weights share.bytes = 3 * share.read.length := by
  have heavy : (shares.map fun share => weights share.bytes).sum =
      (shares.map fun share => 3 * share.read.length).sum := by
    rw [← weights_flatMap_bytes, ← encodes, weights_encode, List.length_flatMap,
      List.sum_map_mul_left]
  intro share mem
  refine (weights_bytes_le share).1.eq_of_not_lt fun less => ?_
  exact (List.sum_lt_sum _ _ (fun other _ => (weights_bytes_le other).1)
    ⟨share, mem, less⟩).ne heavy

/-- **Decoding each part by itself gives the text that the bytes encode exactly if no part is
misread.** -/
theorem flatMap_read_eq_iff (encodes : encode text = shares.flatMap bytes) :
    shares.flatMap read = text ↔ ∀ share ∈ shares, ¬ share.IsMisread := by
  constructor
  · rintro rfl
    have each := weights_bytes_eq encodes
    have low : ∀ share ∈ shares, ¬ share.IsHigh := fun share mem high =>
      ((weights_bytes_le share).2 high).ne (each share mem)
    have whole : shares.flatMap meant = shares.flatMap read :=
      encode_injective ((flatMap_bytes_eq low).symm.trans encodes.symm)
    have lengths : ∀ share ∈ shares, share.meant.length = share.read.length := by
      intro share mem
      have heavy := each share mem
      rw [bytes_eq_encode_meant (low share mem), weights_encode] at heavy
      exact Nat.eq_of_mul_eq_mul_left (by decide) heavy
    have parts : shares.map meant = shares.map read := by
      refine List.eq_iff_flatten_eq.mpr ⟨by simpa only [List.flatMap_def] using whole, ?_⟩
      rw [List.map_map, List.map_map]
      exact List.map_congr_left lengths
    intro share mem misread
    have decoded : share.meant = share.read := List.map_inj_left.mp parts share mem
    cases share with
    | chars => exact misread
    | byte => exact low _ mem misread
    | itself char => exact read_ne_meant misread decoded.symm
  · intro right
    have low : ∀ share ∈ shares, ¬ share.IsHigh := fun share mem high =>
      right share mem high.isMisread
    have parts : shares.flatMap read = shares.flatMap meant :=
      List.flatMap_congr fun share mem => read_eq_meant (right share mem)
    rw [parts]
    exact encode_injective ((flatMap_bytes_eq low).symm.trans encodes.symm)

end Share

/-! ### Escape sequences -/

/-- An octal digit with its value. -/
structure IsOctalDigit (digit : Char) (value : Nat) : Prop where
  small : value < 8
  shape : digit = Nat.digitChar value

/-- Octal digits that spell a number. -/
def SpellsOctal (digits : List Char) (number : Nat) : Prop :=
  digits ≠ [] ∧ ∃ values, List.Forall₂ IsOctalDigit digits values ∧
    Nat.ofDigits 8 values.reverse = number

/-- A character to which a backslash gives no other meaning: no line feed, no octal digit, no letter
with a meaning there, and none that begins an escape by number, a control or a meta escape. -/
structure IsUnmarked (char : Char) : Prop where
  noLineFeed : char ≠ '\n'
  noOctal : ∀ value, ¬ IsOctalDigit char value
  noMeaning : char ∉ letterMeanings.map Prod.fst
  noOpening : char ∉ ['u', 'x', 'c', 'C', 'M']

/-- The escape sequences between double quotes, with what each contributes. -/
inductive Share.Writes : Share → List Char → Prop
  | short {digits : List Char} {char : Char} (four : digits.length = 4)
      (spells : SpellsHex digits char.toNat) : Writes (.chars [char]) ('\\' :: 'u' :: digits)
  | points {before codes after chars : List Char}
      (blankBefore : ∀ space ∈ before, Text.isBlank space = true)
      (spells : SpellsPoints codes chars)
      (blankAfter : ∀ space ∈ after, Text.isBlank space = true) :
      Writes (.chars chars) ('\\' :: 'u' :: '\x7b' :: (before ++ (codes ++ after) ++ ['\x7d']))
  | hexadecimal {digits : List Char} {value : UInt8} (few : digits.length ≤ 2)
      (spells : SpellsHex digits value.toNat) : Writes (.byte value) ('\\' :: 'x' :: digits)
  | octal {digits : List Char} {value : UInt8} (few : digits.length ≤ 3)
      (spells : SpellsOctal digits value.toNat) : Writes (.byte value) ('\\' :: digits)
  | letter {letter char : Char} (means : (letter, char) ∈ letterMeanings) :
      Writes (.chars [char]) ['\\', letter]
  | itself {char : Char} (unmarked : IsUnmarked char) : Writes (.itself char) ['\\', char]
  /-- A line that goes on behind its end. -/
  | continuation : Writes (.chars []) ['\\', '\n']

theorem words_append_blank {blank : List Char} (isBlank : ∀ space ∈ blank, Text.isBlank space = true)
    (text : List Char) : Text.words (text ++ blank) = Text.words text := by
  have ended (begun : List Char) : Text.wordsFrom begun blank = Text.wordsFrom begun [] := by
    cases blank with
    | nil => rfl
    | cons space blank =>
      obtain ⟨here, later⟩ := List.forall_mem_cons.mp isBlank
      have none : Text.wordsFrom [] blank = [] := by
        have words := words_blank_append later []
        rwa [List.append_nil] at words
      have ends : Text.wordsFrom begun (space :: blank) =
          if begun.isEmpty then Text.wordsFrom [] blank
          else begun.reverse :: Text.wordsFrom [] blank := by
        rw [Text.wordsFrom, if_pos here]
      rw [ends, none]
      rfl
  have each (begun : List Char) : Text.wordsFrom begun (text ++ blank) = Text.wordsFrom begun text := by
    induction text generalizing begun with
    | nil => exact ended begun
    | cons char rest ih => simp only [List.cons_append, Text.wordsFrom, ih]
  exact each []

/-- Code points in braces are decoded to their characters, whatever white space is around them. -/
theorem decodeEscape_points {before codes after chars : List Char}
    (blankBefore : ∀ space ∈ before, Text.isBlank space = true) (spells : SpellsPoints codes chars)
    (blankAfter : ∀ space ∈ after, Text.isBlank space = true) :
    decodeEscape ('\\' :: 'u' :: '\x7b' :: (before ++ (codes ++ after) ++ ['\x7d'])) = .ok chars := by
  have noBrace : ∀ char ∈ before ++ (codes ++ after), isBrace char = false :=
    List.forall_mem_append.mpr ⟨fun space mem => isBrace_of_isBlank (blankBefore space mem),
      List.forall_mem_append.mpr
        ⟨spells.noBrace, fun space mem => isBrace_of_isBlank (blankAfter space mem)⟩⟩
  have read : numericEscape? ('u' :: '\x7b' :: (before ++ (codes ++ after) ++ ['\x7d'])) =
      some (.ok chars) := by
    rw [numericEscape?, trim_braces noBrace, words_blank_append blankBefore,
      words_append_blank blankAfter, spells.mapM_words]
  rw [decodeEscape, List.drop_one, List.tail_cons, read]

theorem octalDigits_plain : ∀ value < 8, Text.isDigit (Nat.digitChar value) = true ∧
    (Nat.digitChar value).toLower ≠ 'o' ∧ Text.digitValue? 8 (Nat.digitChar value) = some value := by
  decide

theorem IsOctalDigit.isHexDigit {digit : Char} {value : Nat} (isDigit : IsOctalDigit digit value) :
    IsHexDigit digit value :=
  ⟨isDigit.small.trans (by decide), isDigit.shape ▸ List.mem_cons_self⟩

/-- **Octal digits are read as the number that they spell.** -/
theorem numeral?_of_spellsOctal {digits : List Char} {number : Nat}
    (spells : SpellsOctal digits number) : Text.numeral? 8 'o' digits = some (number : Int) := by
  obtain ⟨nonempty, values, each, rfl⟩ := spells
  have plain : ∀ digit ∈ digits, IsPlainDigit digit :=
    SpellsHex.plain ⟨nonempty, values, each.imp fun _ _ isDigit => isDigit.isHexDigit, rfl⟩
  have noMark : ∀ digit ∈ digits, digit.toLower ≠ 'o' := by
    clear * - each
    induction each with
    | nil => nofun
    | cons here _ ih =>
      exact List.forall_mem_cons.mpr ⟨here.shape ▸ (octalDigits_plain _ here.small).2.1, ih⟩
  refine numeral?_of_values nonempty plain noMark (each.imp fun digit value isDigit => ⟨?_, ?_⟩)
  · exact isDigit.isHexDigit.plain.noUnderscore
  · exact isDigit.shape ▸ (octalDigits_plain _ isDigit.small).2.2

theorem numericEscape?_of_isDigit {digit : Char} (isDigit : Text.isDigit digit = true)
    (rest : List Char) :
    numericEscape? (digit :: rest) = some ((octalChar (digit :: rest)).map fun char => [char]) := by
  unfold numericEscape?
  split
  · rename_i same
    cases same
    exact absurd isDigit (by decide)
  · rename_i same
    cases same
    exact absurd isDigit (by decide)
  · rename_i same
    cases same
    exact if_pos isDigit
  · rename_i same
    cases same

/-- A digit behind a backslash is taken for the number of a character. -/
theorem octalChar_of_isDigit {char : Char} (isDigit : Text.isDigit char = true) :
    octalChar [char] =
      match Text.digitValue? 8 char with
      | some number => .ok (Char.ofNat number)
      | none => .error .keptAsWritten := by
  have noSign (other : Char) (noDigit : Text.isDigit other = false) : char ≠ other := by
    rintro rfl
    cases isDigit.symm.trans noDigit
  have whole : Text.trim Text.isNumeralBlank [char] = [char] := by
    refine trim_eq_self (List.forall_mem_singleton.mpr ?_)
    rw [Text.isNumeralBlank, isBlank_of_isDigit isDigit, Bool.false_and]
  have magnitude : Text.magnitude? 8 'o' [char] = Text.digitValue? 8 char := by
    show Text.digitsValue? 8 0 false [char] = _
    rw [Text.digitsValue?, if_neg (noSign '_' (by decide))]
    cases Text.digitValue? 8 char with
    | none => rfl
    | some number => simp [Text.digitsValue?]
  have numeral : Text.numeral? 8 'o' [char] =
      (Text.digitValue? 8 char).map fun number => (number : Int) := by
    unfold Text.numeral?
    rw [whole]
    split
    · rename_i same
      exact absurd (List.cons_eq_cons.mp same).1 (noSign '-' (by decide))
    · rename_i same
      exact absurd (List.cons_eq_cons.mp same).1 (noSign '+' (by decide))
    · rw [magnitude]
  rw [octalChar, numeral]
  cases found : Text.digitValue? 8 char with
  | none => rfl
  | some number =>
    have small : number < 0x100 := (lt_of_digitValue? found).trans (by decide)
    show numberedChar number = _
    rw [← toNat_ofNat_of_lt small, numberedChar_toNat, toNat_ofNat_of_lt small]

/-- **An escape sequence is decoded by itself.** -/
theorem decodeEscape_of_writes {sequence : List Char} {share : Share}
    (writes : share.Writes sequence) : decodeEscape sequence = .ok share.read := by
  cases writes with
  | short four spells => exact decodeEscape_of_escapes (.short four spells)
  | points blankBefore spells blankAfter =>
    exact decodeEscape_points blankBefore spells blankAfter
  | @hexadecimal digits value _ spells =>
    rw [← toNat_ofNat_of_lt value.toNat_lt] at spells
    have read : numericEscape? ('x' :: digits) = some (.ok [Char.ofNat value.toNat]) := by
      rw [numericEscape?, hexChar_of_spellsHex spells]
      rfl
    rw [decodeEscape, List.drop_one, List.tail_cons, read]
    rfl
  | @octal digits value _ spells =>
    have char : octalChar digits = .ok (Char.ofNat value.toNat) := by
      rw [octalChar, numeral?_of_spellsOctal spells]
      show numberedChar value.toNat = _
      rw [← toNat_ofNat_of_lt value.toNat_lt, numberedChar_toNat,
        toNat_ofNat_of_lt value.toNat_lt]
    have read : numericEscape? digits = some (.ok [Char.ofNat value.toNat]) := by
      obtain ⟨nonempty, values, each, -⟩ := spells
      cases each with
      | nil => exact absurd rfl nonempty
      | @cons digit number rest _ here _ =>
        rw [numericEscape?_of_isDigit (here.shape ▸ (octalDigits_plain _ here.small).1), char]
        rfl
    rw [decodeEscape, List.drop_one, List.tail_cons, read]
    rfl
  | letter means => exact decodeEscape_of_escapes (.letter means)
  | @itself char unmarked =>
    by_cases isDigit : Text.isDigit char = true
    · rw [decodeEscape, List.drop_one, List.tail_cons, numericEscape?_of_isDigit isDigit,
        octalChar_of_isDigit isDigit, Share.read, if_pos isDigit]
      cases Text.digitValue? 8 char <;> rfl
    · rw [Share.read, if_neg isDigit]
      exact decodeEscape_of_escapes (.unassigned ⟨unmarked.noLineFeed,
        Bool.eq_false_iff.mpr isDigit, unmarked.noMeaning, unmarked.noOpening⟩)
  | continuation => rfl

/-! ### Literals -/

/-- A part of a literal between double quotes, with what it contributes. -/
inductive Contributes : Concrete → Share → Prop
  | plain {part : Concrete} (type : part.type = "string_content") :
      Contributes part (.chars part.text.toList)
  | escaped {part : Concrete} {share : Share} (type : part.type = "escape_sequence")
      (writes : share.Writes part.text.toList) : Contributes part share

/-- A literal between double quotes, a symbol or a string, with what its parts contribute. None of
them is an interpolation. -/
structure IsDoubleQuoted (isSymbol : Bool) (shares : List Share) (literal : Concrete) : Prop where
  type : literal.type = quotedType isSymbol
  quoted : ∃ rest, literal.text.toList =
    (if isSymbol then [':'] else []) ++ Quote.double.mark :: rest
  parts : List.Forall₂ Contributes literal.code shares

theorem type_mem_of_contributes {parts : List Concrete} {shares : List Share}
    (contribute : List.Forall₂ Contributes parts shares) : ∀ part ∈ parts, part.type ∈ partTypes := by
  induction contribute with
  | nil => nofun
  | cons here _ ih =>
    refine List.forall_mem_cons.mpr ⟨?_, ih⟩
    cases here with
    | plain type | escaped type => simp [type, partTypes]

theorem mapM_partValue_of_contributes {parts : List Concrete} {shares : List Share}
    (contribute : List.Forall₂ Contributes parts shares) :
    parts.mapM partValue = .ok (shares.map Share.read) := by
  refine mapM_eq_ok_iff.mpr (List.forall₂_map_right_iff.mpr (contribute.imp fun part share here => ?_))
  cases here with
  | plain type =>
    have noEscape : part.type ≠ "escape_sequence" := by simp [type]
    rw [partValue, if_neg noEscape, Share.read]
  | escaped type writes => rw [partValue, if_pos type, decodeEscape_of_writes writes]

/-- The value of a literal is what its parts are decoded to. -/
theorem convert_of_isDoubleQuoted {isSymbol : Bool} {shares : List Share} {literal : Concrete}
    (written : IsDoubleQuoted isSymbol shares literal) (bound : Names) :
    convert planner literal bound =
      .ok (if isSymbol then .symbol (String.ofList (shares.flatMap Share.read)) (some literal.location)
        else .string (String.ofList (shares.flatMap Share.read)) (some literal.location), bound) := by
  obtain ⟨rest, quoted⟩ := written.quoted
  refine convert_of_literalValue written.type (type_mem_of_contributes written.parts) ?_ bound
  rw [Bool.eq_false_iff.mpr fun single => nomatch (isSingleQuoted_iff quoted).mp single]
  show (literal.code.mapM partValue).map _ = _
  rw [mapM_partValue_of_contributes written.parts, List.flatMap_def]
  rfl

/-- **When the value of a literal is right.** A literal between double quotes always has a value. It has
the text that its bytes encode exactly if no part of it is misread: none is a byte that is no ASCII
character, or a backslash in front of a digit that is not octal. -/
theorem doubleQuoted_value_iff {isSymbol : Bool} {shares : List Share} {literal : Concrete}
    (written : IsDoubleQuoted isSymbol shares literal) (bound : Names) :
    (∃ value, convert planner literal bound =
      .ok (if isSymbol then .symbol value (some literal.location)
        else .string value (some literal.location), bound)) ∧
    ∀ text : String, encode text.toList = shares.flatMap Share.bytes →
      (convert planner literal bound =
          .ok (if isSymbol then .symbol text (some literal.location)
            else .string text (some literal.location), bound) ↔
        ∀ share ∈ shares, ¬ share.IsMisread) := by
  have becomes := convert_of_isDoubleQuoted written bound
  refine ⟨⟨_, becomes⟩, fun text encodes => ?_⟩
  rw [← Share.flatMap_read_eq_iff encodes, becomes]
  have sameText : String.ofList (shares.flatMap Share.read) = text ↔
      shares.flatMap Share.read = text.toList := by
    rw [← String.ofList_toList (s := text), String.ofList_inj, String.toList_ofList]
  rw [← sameText]
  cases isSymbol <;> simp

/-- The string `"a\x62\é"`. -/
def mixedEscapes : Concrete :=
  onLine none "string" "\"a\\x62\\é\"" 0
    [ onLine none "string_content" "a" 1 [], onLine none "escape_sequence" "\\x62" 2 [],
      onLine none "escape_sequence" "\\é" 6 [] ]

/-- No part of `mixedEscapes` is misread. -/
theorem doubleQuoted_value_mixedEscapes :
    IsDoubleQuoted false [.chars ['a'], .byte 0x62, .itself 'é'] mixedEscapes ∧
      convert planner mixedEscapes [] = .ok (.string "abé" (some ⟨1, 0⟩), []) := by
  have six : IsHexDigit '6' 6 := ⟨by decide, by decide⟩
  have two : IsHexDigit '2' 2 := ⟨by decide, by decide⟩
  have byte : (Share.byte 0x62).Writes ['\\', 'x', '6', '2'] :=
    .hexadecimal (by decide) ⟨nofun, [6, 2], .cons six (.cons two .nil), rfl⟩
  have noOctal : ∀ value < 8, 'é' ≠ Nat.digitChar value := by decide
  have unmarked : IsUnmarked 'é' := {
    noLineFeed := by decide
    noOctal value octal := noOctal value octal.small octal.shape
    noMeaning := by decide
    noOpening := by decide }
  have written : IsDoubleQuoted false [.chars ['a'], .byte 0x62, .itself 'é'] mixedEscapes := {
    type := rfl
    quoted := ⟨_, rfl⟩
    parts := .cons (.plain rfl) (.cons (.escaped rfl byte)
      (.cons (.escaped rfl (.itself unmarked)) .nil)) }
  refine ⟨written, ((doubleQuoted_value_iff written []).2 "abé" (by decide)).mpr ?_⟩
  simp only [List.forall_mem_cons, Share.IsMisread]
  refine ⟨id, by decide, by decide, nofun⟩

/-- The string `"\xc3\xa9"`, whose two bytes encode one character. -/
def splitCharacter : Concrete :=
  onLine none "string" "\"\\xc3\\xa9\"" 0
    [onLine none "escape_sequence" "\\xc3" 1 [], onLine none "escape_sequence" "\\xa9" 5 []]

/-- The string `"\8"`. -/
def escapedEight : Concrete :=
  onLine none "string" "\"\\8\"" 0 [onLine none "escape_sequence" "\\8" 1 []]

/-- **Some literals are misread:** `splitCharacter` as two characters, and `escapedEight` with its
backslash. -/
theorem doubleQuoted_misread :
    (IsDoubleQuoted false [.byte 0xC3, .byte 0xA9] splitCharacter ∧
      encode "é".toList = [.byte 0xC3, .byte 0xA9].flatMap Share.bytes ∧
      convert planner splitCharacter [] = .ok (.string "Ã©" (some ⟨1, 0⟩), [])) ∧
    (IsDoubleQuoted false [.itself '8'] escapedEight ∧
      encode "8".toList = [.itself '8'].flatMap Share.bytes ∧
      convert planner escapedEight [] = .ok (.string "\\8" (some ⟨1, 0⟩), [])) := by
  have split : IsDoubleQuoted false [.byte 0xC3, .byte 0xA9] splitCharacter := {
    type := rfl
    quoted := ⟨_, rfl⟩
    parts := by
      have first : (Share.byte 0xC3).Writes ['\\', 'x', 'c', '3'] :=
        .hexadecimal (by decide) ⟨nofun, [12, 3],
          .cons ⟨by decide, by decide⟩ (.cons ⟨by decide, by decide⟩ .nil), rfl⟩
      have second : (Share.byte 0xA9).Writes ['\\', 'x', 'a', '9'] :=
        .hexadecimal (by decide) ⟨nofun, [10, 9],
          .cons ⟨by decide, by decide⟩ (.cons ⟨by decide, by decide⟩ .nil), rfl⟩
      exact .cons (.escaped rfl first) (.cons (.escaped rfl second) .nil) }
  have eight : IsDoubleQuoted false [.itself '8'] escapedEight := {
    type := rfl
    quoted := ⟨_, rfl⟩
    parts := by
      have noOctal : ∀ value < 8, '8' ≠ Nat.digitChar value := by decide
      have unmarked : IsUnmarked '8' := {
        noLineFeed := by decide
        noOctal value octal := noOctal value octal.small octal.shape
        noMeaning := by decide
        noOpening := by decide }
      exact .cons (.escaped rfl (.itself unmarked)) .nil }
  refine ⟨⟨split, by decide, ?_⟩, ⟨eight, by decide, ?_⟩⟩
  · exact (convert_of_isDoubleQuoted split []).trans rfl
  · exact (convert_of_isDoubleQuoted eight []).trans rfl

end LetShadow.Ruby
