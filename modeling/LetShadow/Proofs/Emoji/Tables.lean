/-
**What the tables of emoji hold.**

A report is read by its marks: colons stand between the parts of a line, and line feeds between lines.
Emoji bring no marks into a line, and hardly any number is taken for the name of one. Both are read off
the bytes of the tables, which are much sooner seen than the characters.

* `emoji?_no_mark` — **no emoji of a name has a mark,** be it a plain one, a flag or one in a skin tone.
* `emoji?_isSome_iff_of_numeral` — **only three numerals name emoji:** `-1`, `100` and `1234`.
-/

import LetShadow.Emoji.Named
import Mathlib.Data.Bool.AllAny
import Mathlib.Data.List.Basic

namespace LetShadow.Emoji

/-! ### Texts and their bytes -/

/-- The bytes of a text. -/
def bytesOf (text : String) : List UInt8 :=
  text.toByteArray.data.toList

theorem bytesOf_eq (text : String) : bytesOf text = text.toList.flatMap String.utf8EncodeChar := by
  rw [bytesOf, ← String.utf8Encode_toList, List.utf8Encode, List.toList_data_toByteArray]

/-- A character of a text has its bytes among those of the text. -/
theorem mem_bytesOf {text : String} {char : Char} (mem : char ∈ text.toList) {byte : UInt8}
    (encoded : byte ∈ String.utf8EncodeChar char) : byte ∈ bytesOf text :=
  bytesOf_eq text ▸ List.mem_flatMap_of_mem mem encoded

/-! ### Marks -/

/-- The characters that a report is read by. -/
def isMark (char : Char) : Bool :=
  char = ':' || char = '\n'

theorem not_isMark_iff {char : Char} : isMark char = false ↔ char ≠ ':' ∧ char ≠ '\n' := by
  simp [isMark]

theorem tables_no_markByte :
    tables.all fun table => table.all fun entry =>
      (bytesOf entry.emoji).all fun byte => byte.toNat != 58 && byte.toNat != 10 := by
  decide +kernel

theorem plainEmoji?_no_mark {name emoji : List Char} (named : plainEmoji? name = some emoji) :
    ∀ char ∈ emoji, isMark char = false := by
  obtain ⟨entry, found, rfl⟩ := Option.map_eq_some_iff.mp named
  obtain ⟨table, inTables, inTable⟩ := List.exists_of_findSome?_eq_some found
  have bytes := List.all_eq_true.mp (List.all_eq_true.mp tables_no_markByte table inTables) entry
    (List.mem_of_find?_eq_some inTable)
  have noMark := List.all_eq_true.mp bytes
  intro char mem
  refine not_isMark_iff.mpr ⟨?_, ?_⟩
  · rintro rfl
    exact absurd (noMark 58 (mem_bytesOf mem (by decide))) (by decide)
  · rintro rfl
    exact absurd (noMark 10 (mem_bytesOf mem (by decide))) (by decide)

theorem toNat_ofNat (point : Nat) :
    (Char.ofNat point).toNat = point ∨ (Char.ofNat point).toNat = 0 := by
  by_cases valid : point.isValidChar
  · rw [Char.ofNat, dif_pos valid]
    exact .inl rfl
  · rw [Char.ofNat, dif_neg valid]
    exact .inr rfl

/-- A regional indicator stands far behind the marks. -/
theorem regionalIndicator_no_mark (letter : Char) : isMark (regionalIndicator letter) = false := by
  have far : '🇦'.toNat ≤ (regionalIndicator letter).toNat ∨ (regionalIndicator letter).toNat = 0 :=
    (toNat_ofNat _).imp_left fun same => Nat.le_trans (Nat.le_add_left _ _) (Nat.le_of_eq same.symm)
  refine not_isMark_iff.mpr ⟨fun same => ?_, fun same => ?_⟩
  · exact absurd (same ▸ far) (by decide)
  · exact absurd (same ▸ far) (by decide)

theorem flagOf?_no_mark {name emoji : List Char} (named : flagOf? name = some emoji) :
    ∀ char ∈ emoji, isMark char = false := by
  obtain ⟨code, -, rfl⟩ := Option.map_eq_some_iff.mp named
  exact List.forall_mem_map.mpr fun letter _ => regionalIndicator_no_mark letter

theorem tinted_no_mark (tone : Tone) {emoji : List Char}
    (plain : ∀ char ∈ emoji, isMark char = false) :
    ∀ char ∈ tinted tone emoji, isMark char = false := by
  cases emoji with
  | nil => exact List.forall_mem_nil _
  | cons first rest =>
    obtain ⟨head, tail⟩ := List.forall_mem_cons.mp plain
    have modifier : isMark tone.modifier = false := by cases tone <;> rfl
    refine List.forall_mem_cons.mpr ⟨head, List.forall_mem_cons.mpr ⟨modifier, fun char mem => ?_⟩⟩
    split at mem
    · exact tail char (List.mem_of_mem_drop mem)
    · exact tail char mem

theorem tonedEmoji?_no_mark {name emoji : List Char} (named : tonedEmoji? name = some emoji) :
    ∀ char ∈ emoji, isMark char = false := by
  obtain ⟨⟨name, tone⟩, -, named⟩ := Option.bind_eq_some_iff.mp named
  dsimp only at named
  split at named
  · obtain ⟨plain, found, same⟩ := Option.bind_eq_some_iff.mp named
    obtain rfl := Option.some.inj same
    exact tinted_no_mark tone (plainEmoji?_no_mark found)
  · cases named

theorem emoji?_eq_some_iff {name emoji : List Char} :
    emoji? name = some emoji ↔ plainEmoji? name = some emoji ∨ plainEmoji? name = none ∧
      (flagOf? name = some emoji ∨ flagOf? name = none ∧ tonedEmoji? name = some emoji) := by
  simp only [emoji?, Option.orElse_eq_orElse, Option.orElse_eq_or, Option.or_eq_some_iff]

/-- **No emoji has a mark.** -/
theorem emoji?_no_mark {name emoji : List Char} (named : emoji? name = some emoji) :
    ∀ char ∈ emoji, isMark char = false := by
  obtain plain | ⟨-, flag | ⟨-, toned⟩⟩ := emoji?_eq_some_iff.mp named
  · exact plainEmoji?_no_mark plain
  · exact flagOf?_no_mark flag
  · exact tonedEmoji?_no_mark toned

/-! ### Numerals -/

/-- The characters that integers are written with. -/
def numeralChars : List Char :=
  "-0123456789".toList

theorem repr_numeral (number : Nat) : ∀ char ∈ number.repr.toList, char ∈ numeralChars := by
  have digits : ∀ point ∈ List.range' 48 10, Char.ofNat point ∈ numeralChars := by decide
  intro char mem
  rw [Nat.toList_repr] at mem
  have isDigit := Nat.isDigit_of_mem_toDigits (by decide) (by decide) mem
  rw [Char.isDigit, Bool.and_eq_true, decide_eq_true_iff, decide_eq_true_iff] at isDigit
  have least : 48 ≤ char.toNat := isDigit.1
  have most : char.toNat ≤ 57 := isDigit.2
  rw [← Char.ofNat_toNat char]
  exact digits char.toNat (List.mem_range'_1.mpr ⟨least, by omega⟩)

/-- An integer is written with digits, behind a sign if it is negative. -/
theorem toString_numeral (number : Int) : ∀ char ∈ (toString number).toList, char ∈ numeralChars := by
  rw [Int.toString_eq_repr, Int.repr_eq_if]
  split
  · exact repr_numeral _
  · rw [String.toList_append]
    exact List.forall_mem_append.mpr ⟨List.all_iff_forall_prop.mp (by decide), repr_numeral _⟩

/-- The bytes that integers are written with. -/
def isNumeralByte (byte : UInt8) : Bool :=
  byte.toNat == 45 || 48 ≤ byte.toNat && byte.toNat ≤ 57

/-- A name is written like an integer. -/
def isNumeral (name : String) : Bool :=
  (bytesOf name).all isNumeralByte

/-- The names of emoji that are written like integers. -/
def numerals : List String :=
  ["-1", "100", "1234"]

theorem tables_numerals :
    (tables.flatMap fun table => table.flatMap fun entry => entry.names.filter isNumeral) =
      numerals := by
  decide +kernel

theorem regions_no_numeral :
    (regions ++ regionsAlone).all fun region => !isNumeral region.1 := by
  decide +kernel

section

variable {name : List Char} (numeral : ∀ char ∈ name, char ∈ numeralChars)

include numeral

theorem isNumeral_ofList : isNumeral (String.ofList name) = true := by
  have bytes : ∀ char ∈ numeralChars, (String.utf8EncodeChar char).all isNumeralByte = true :=
    List.all_eq_true.mp (by decide)
  rw [isNumeral, bytesOf_eq, String.toList_ofList, List.all_flatMap, List.all_eq_true]
  exact fun char mem => bytes char (numeral char mem)

theorem plainEmoji?_isSome_iff_of_numeral :
    (plainEmoji? name).isSome ↔ String.ofList name ∈ numerals := by
  have isNumeral := isNumeral_ofList numeral
  rw [plainEmoji?, Option.isSome_map, List.findSome?_isSome_iff, ← tables_numerals]
  simp only [entryOf?, List.find?_isSome, List.mem_flatMap, List.mem_filter, isNumeral, and_true,
    List.contains_iff_mem]

theorem flagOf?_eq_none_of_numeral : flagOf? name = none := by
  have noFlag : regionName? name = none := by
    rw [regionName?, if_neg]
    intro begins
    have first := numeral 'f' ((List.isPrefixOf_iff_prefix.mp begins).mem (by decide))
    revert first
    decide
  rw [flagOf?, noFlag, Option.map_eq_none_iff, List.lookup_eq_none_iff]
  intro region mem
  have other := List.all_eq_true.mp regions_no_numeral region mem
  refine bne_iff_ne.mpr fun same => ?_
  rw [← same, isNumeral_ofList numeral] at other
  cases other

theorem tonedEmoji?_eq_none_of_numeral : tonedEmoji? name = none := by
  have noTone : cutTone? name = none := by
    rw [cutTone?, Option.map_eq_none_iff, List.find?_eq_none]
    intro tone _ ends
    have last := numeral 'e' ((List.isSuffixOf_iff_suffix.mp ends).mem (by cases tone <;> decide))
    revert last
    decide
  rw [tonedEmoji?, noTone]
  rfl

/-- **Only three numerals name emoji.** -/
theorem emoji?_isSome_iff_of_numeral : (emoji? name).isSome ↔ String.ofList name ∈ numerals := by
  rw [← plainEmoji?_isSome_iff_of_numeral numeral, emoji?, flagOf?_eq_none_of_numeral numeral,
    tonedEmoji?_eq_none_of_numeral numeral]
  simp

end

end LetShadow.Emoji
