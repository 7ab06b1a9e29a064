/-
**What a reader of JSON texts comes to.**

A reader goes from moment to moment: at each it has taken in the text before a place, and has the rest
of it ahead. It stops at the first moment at which it fails.

* `Moment.Follows` — **one step,** over white space or over what comes next.
* `run_eq_error_iff` — a run fails with what is wrong at some moment that it comes to.
* `parse_eq_tooManyDigits_iff` — **a text has an integer with too many digits for the reader exactly if
  the reader comes to one** where it awaits a value.
-/

import Mathlib.Data.List.TakeWhile
import Mathlib.Logic.Relation
import LetShadow.Json.Reader
import LetShadow.Proofs.Traversal

namespace LetShadow.Json

open Relation (ReflTransGen)

/-- A moment of a reading: the state of the reader, the place, and what is ahead. -/
structure Moment where
  reader : Reader
  offset : Nat
  ahead : List Char

namespace Moment

/-- The first moment of a reading. -/
def first (text : List Char) : Moment :=
  ⟨{}, 0, text⟩

/-- What becomes of a text from a moment on. -/
def outcome (text : List Char) (moment : Moment) : Except ReadError Value :=
  moment.reader.run text moment.offset moment.ahead

/-- The moment after another. -/
inductive Follows (text : List Char) : Moment → Moment → Prop
  | space {reader : Reader} {offset : Nat} {char : Char} {rest : List Char}
      (blank : Reader.isSpace char = true) :
      Follows text ⟨reader, offset, char :: rest⟩ ⟨reader, offset + 1, rest⟩
  | step {reader next : Reader} {offset taken : Nat} {char : Char} {rest : List Char}
      (mark : Reader.isSpace char = false)
      (takes : reader.step ⟨text, offset⟩ char rest = .ok (next, taken)) :
      Follows text ⟨reader, offset, char :: rest⟩ ⟨next, offset + 1 + taken, rest.drop taken⟩

/-- The reader fails at a moment. -/
inductive Fails (text : List Char) (error : ReadError) : Moment → Prop
  | atEnd {reader : Reader} {offset : Nat} (fails : reader.finish ⟨text, offset⟩ = .error error) :
      Fails text error ⟨reader, offset, []⟩
  | step {reader : Reader} {offset : Nat} {char : Char} {rest : List Char}
      (mark : Reader.isSpace char = false)
      (fails : reader.step ⟨text, offset⟩ char rest = .error error) :
      Fails text error ⟨reader, offset, char :: rest⟩

variable {text : List Char} {error : ReadError} {moment next : Moment}

/-- **A step does not change what becomes of a text.** -/
theorem Follows.outcome (follows : Follows text moment next) :
    moment.outcome text = next.outcome text := by
  cases follows with
  | space blank => rw [Moment.outcome, Reader.run, if_pos blank, Moment.outcome]
  | step mark takes =>
    rw [Moment.outcome, Reader.run, if_neg (ne_true_of_eq_false mark), takes, Moment.outcome]

theorem Fails.outcome (fails : Fails text error moment) : moment.outcome text = .error error := by
  cases fails with
  | atEnd fails => rw [Moment.outcome, Reader.run, fails]
  | step mark fails =>
    rw [Moment.outcome, Reader.run, if_neg (ne_true_of_eq_false mark), fails]

/-- **A text is refused for what is wrong at a moment that the reader comes to.** -/
theorem outcome_eq_error_iff :
    moment.outcome text = .error error ↔
      ∃ last, ReflTransGen (Follows text) moment last ∧ last.Fails text error := by
  constructor
  · obtain ⟨reader, offset, ahead⟩ := moment
    unfold Moment.outcome
    fun_induction Reader.run text reader offset ahead with
    | case1 reader offset => exact fun fails => ⟨_, .refl, .atEnd fails⟩
    | case2 reader offset char rest blank ih =>
      intro fails
      obtain ⟨last, reaches, fails⟩ := ih fails
      exact ⟨last, .head (.space blank) reaches, fails⟩
    | case3 reader offset char rest mark wrong fails =>
      rintro ⟨⟩
      exact ⟨_, .refl, .step (Bool.eq_false_iff.mpr mark) fails⟩
    | case4 reader offset char rest mark next taken takes ih =>
      intro fails
      obtain ⟨last, reaches, fails⟩ := ih fails
      exact ⟨last, .head (.step (Bool.eq_false_iff.mpr mark) takes) reaches, fails⟩
  · rintro ⟨last, reaches, fails⟩
    induction reaches using ReflTransGen.head_induction_on with
    | refl => exact fails.outcome
    | head follows _ ih => exact follows.outcome.trans ih

end Moment

/-! ### Integers with too many digits -/

/-- The reader awaits a value. -/
def Reader.AwaitsValue (reader : Reader) : Prop :=
  reader.expects matches .value | .element

/-- A numeral is an integer with too many digits. -/
structure Numeral.IsLong (numeral : Numeral) : Prop where
  noFraction : numeral.fraction = none
  noExponent : numeral.exponent = none
  long : Text.greatestDigitCount < numeral.whole.length

/-- A value is awaited, and an integer with so many digits, which are too many, is ahead. -/
def Moment.AtLongInteger (moment : Moment) (count : Nat) : Prop :=
  moment.reader.AwaitsValue ∧ ∃ numeral : Numeral, readNumber? moment.ahead = some numeral ∧
    numeral.IsLong ∧ numeral.whole.length = count

/-- The reader of a text comes to an integer with so many digits, which are too many. Of a text that
begins with a byte order mark nothing is read. -/
def HasLongInteger (text : List Char) (count : Nat) : Prop :=
  text.head? ≠ some '\uFEFF' ∧
    ∃ last, ReflTransGen (Moment.Follows text) (.first text) last ∧ last.AtLongInteger count

theorem Numeral.value_eq_tooManyDigits_iff {numeral : Numeral} {count : Nat} :
    numeral.value = .error (.tooManyDigits count) ↔
      numeral.IsLong ∧ numeral.whole.length = count := by
  unfold Numeral.value
  split
  · rename_i integer
    have noFraction := Option.isNone_iff_eq_none.mp integer.1
    have noExponent := Option.isNone_iff_eq_none.mp integer.2
    split
    · rename_i long
      exact ⟨fun same => by cases same; exact ⟨⟨noFraction, noExponent, long⟩, rfl⟩,
        fun ⟨_, same⟩ => by rw [same]⟩
    · rename_i short
      exact ⟨nofun, fun ⟨isLong, _⟩ => absurd isLong.long short⟩
  · rename_i noInteger
    refine ⟨nofun, fun ⟨isLong, _⟩ => ?_⟩
    rw [isLong.noFraction, isLong.noExponent] at noInteger
    exact absurd ⟨rfl, rfl⟩ noInteger

/-- A number begins with a minus sign or a digit. -/
theorem head_of_readNumber? {char : Char} {rest : List Char} {numeral : Numeral}
    (found : readNumber? (char :: rest) = some numeral) : char = '-' ∨ isNumeral char = true := by
  by_cases sign : char = '-'
  · exact .inl sign
  by_cases digit : isNumeral char = true
  · exact .inr digit
  have nothing : wholeDigits (char :: rest) = [] := by
    unfold wholeDigits
    split
    · rename_i same
      cases same
      exact absurd rfl digit
    · rw [List.takeWhile_cons, if_neg digit]
  simp [readNumber?, sign, nothing] at found

/-- No word that is a value is read as a number. -/
theorem readNumber?_word {word : List Char} {value : Value}
    (mem : (word, value) ∈ Reader.wordValues) (rest : List Char) :
    readNumber? (word ++ rest) = none := by
  simp only [Reader.wordValues, List.mem_cons, Prod.mk.injEq, List.not_mem_nil, or_false] at mem
  obtain ⟨rfl, -⟩ | ⟨rfl, -⟩ | ⟨rfl, -⟩ | ⟨rfl, -⟩ | ⟨rfl, -⟩ | ⟨rfl, -⟩ := mem <;> rfl

/-- **A number is taken where a value is awaited.** -/
theorem Reader.takeValue_number {reader : Reader} {place : Reader.Place} {char : Char}
    {rest : List Char} {numeral : Numeral} (found : readNumber? (char :: rest) = some numeral) :
    reader.takeValue place char rest =
      numeral.value.map fun value => (reader.supply value, numeral.length - 1) := by
  have begins := head_of_readNumber? found
  have noWord : (Reader.wordValues.find? fun entry => entry.1.isPrefixOf (char :: rest)) = none := by
    refine List.find?_eq_none.mpr fun ⟨word, value⟩ mem starts => ?_
    obtain ⟨tail, same⟩ := List.isPrefixOf_iff_prefix.mp starts
    rw [← same, readNumber?_word mem] at found
    cases found
  have noMark : char ≠ '"' ∧ char ≠ '[' ∧ char ≠ '\x7b' := by
    refine ⟨?_, ?_, ?_⟩ <;>
      · rintro rfl
        exact begins.elim (by decide) (by decide)
  rw [Reader.takeValue, if_neg noMark.1, if_neg noMark.2.1, if_neg noMark.2.2, noWord]
  dsimp only
  rw [found]
  show (numeral.value >>= _) = _
  cases numeral.value <;> rfl

namespace Reader

variable {reader : Reader} {place : Place} {char : Char} {rest : List Char} {count : Nat}

theorem takeText_ne : takeText place rest ≠ .error (.tooManyDigits count) := by
  unfold takeText Place.fail
  split <;> nofun

theorem takeName_ne : reader.takeName place rest ≠ .error (.tooManyDigits count) := by
  intro fails
  unfold takeName at fails
  obtain fails | ⟨⟨key, taken⟩, -, fails⟩ := bind_eq_error_iff.mp fails
  · exact takeText_ne fails
  · dsimp only at fails
    split at fails <;> cases fails

theorem takeSeparator_ne : reader.takeSeparator place char ≠ .error (.tooManyDigits count) := by
  unfold takeSeparator Place.fail
  split <;> nofun

theorem takeValue_eq_tooManyDigits_iff :
    reader.takeValue place char rest = .error (.tooManyDigits count) ↔
      ∃ numeral, readNumber? (char :: rest) = some numeral ∧
        numeral.value = .error (.tooManyDigits count) := by
  cases found : readNumber? (char :: rest) with
  | some numeral =>
    rw [takeValue_number found]
    cases outcome : numeral.value <;> simp [Except.map, outcome]
  | none =>
    refine ⟨fun fails => ?_, nofun⟩
    simp only [takeValue, found] at fails
    split at fails
    · cases outcome : takeText place rest with
      | error error =>
        rw [outcome] at fails
        cases fails
        exact absurd outcome takeText_ne
      | ok taken =>
        rw [outcome] at fails
        cases fails
    · -- A container is opened, a word is taken, or nothing fits.
      unfold enter Place.fail at fails
      repeat' split at fails
      all_goals cases fails

/-- **Only a step over a value that is awaited meets an integer with too many digits.** -/
theorem step_eq_tooManyDigits_iff :
    reader.step place char rest = .error (.tooManyDigits count) ↔
      reader.AwaitsValue ∧ ∃ numeral, readNumber? (char :: rest) = some numeral ∧
        numeral.value = .error (.tooManyDigits count) := by
  unfold step AwaitsValue
  cases reader.expects with
  | value => simp [takeValue_eq_tooManyDigits_iff]
  | element =>
    -- The bracket that closes an array may stand here too, and is no number.
    by_cases closing : char = ']'
    · have noNumber : readNumber? (']' :: rest) = none := rfl
      simp [closing, noNumber]
    · simp [closing, takeValue_eq_tooManyDigits_iff]
  | firstName =>
    by_cases closing : char = '\x7d'
    · simp [closing]
    · by_cases quote : char = '"' <;> simp [closing, quote, takeName_ne, Place.fail]
  | name => by_cases quote : char = '"' <;> simp [quote, takeName_ne, Place.fail]
  | colon => by_cases colon : char = ':' <;> simp [colon, Place.fail]
  | separator => simp [takeSeparator_ne]
  | nothing value => simp [Place.fail]

end Reader

theorem isSpace_of_readNumber? {char : Char} {rest : List Char} {numeral : Numeral}
    (found : readNumber? (char :: rest) = some numeral) : Reader.isSpace char = false := by
  refine Bool.eq_false_iff.mpr fun blank => ?_
  have begins := head_of_readNumber? found
  simp only [Reader.isSpace, Bool.or_eq_true, decide_eq_true_eq, or_assoc] at blank
  obtain rfl | rfl | rfl | rfl := blank <;> exact begins.elim (by decide) (by decide)

/-- **The reader fails for too many digits at a moment exactly if it meets a long integer there.** -/
theorem Moment.fails_tooManyDigits_iff {text : List Char} {moment : Moment} {count : Nat} :
    moment.Fails text (.tooManyDigits count) ↔ moment.AtLongInteger count := by
  constructor
  · rintro (⟨fails⟩ | ⟨mark, fails⟩)
    · unfold Reader.finish Reader.Place.fail at fails
      split at fails <;> cases fails
    · obtain ⟨awaits, numeral, found, long⟩ := Reader.step_eq_tooManyDigits_iff.mp fails
      exact ⟨awaits, numeral, found, Numeral.value_eq_tooManyDigits_iff.mp long⟩
  · rintro ⟨awaits, numeral, found, long⟩
    obtain ⟨reader, offset, ahead⟩ := moment
    cases ahead with
    | nil => cases found
    | cons char rest =>
      refine .step (isSpace_of_readNumber? found) (Reader.step_eq_tooManyDigits_iff.mpr ?_)
      exact ⟨awaits, numeral, found, Numeral.value_eq_tooManyDigits_iff.mpr long⟩

/-- **A text is given up for the digits of an integer exactly if the reader comes to a long one.** -/
theorem parse_eq_tooManyDigits_iff {text : List Char} {count : Nat} :
    parse text = .error (.tooManyDigits count) ↔ HasLongInteger text count := by
  unfold parse HasLongInteger
  split
  · rename_i mark
    exact ⟨nofun, fun ⟨noMark, _⟩ => absurd mark noMark⟩
  · rename_i noMark
    show Moment.outcome text (.first text) = _ ↔ _
    rw [Moment.outcome_eq_error_iff, and_iff_right noMark]
    simp only [Moment.fails_tooManyDigits_iff]

/-- A text of digits only is a long integer, if they are too many and the first is not zero. -/
theorem hasLongInteger_of_digits {text : List Char} (digits : ∀ char ∈ text, isNumeral char = true)
    (noZero : text.head? ≠ some '0') (long : Text.greatestDigitCount < text.length) :
    HasLongInteger text text.length := by
  have whole : wholeDigits text = text := by
    unfold wholeDigits
    split
    · exact absurd rfl noZero
    · exact List.takeWhile_eq_self_iff.mpr digits
  have noSign : text.head? ≠ some '-' := by
    intro sign
    exact absurd (digits '-' (List.mem_of_mem_head? sign)) (by decide)
  have noMark : text.head? ≠ some '\uFEFF' := by
    intro mark
    exact absurd (digits '\uFEFF' (List.mem_of_mem_head? mark)) (by decide)
  have nonempty : text.isEmpty = false :=
    List.isEmpty_eq_false_iff.mpr (List.ne_nil_of_length_pos (Nat.zero_lt_of_lt long))
  refine ⟨noMark, _, .refl, rfl, ⟨false, text, none, none⟩, ?_, ⟨rfl, rfl, long⟩, rfl⟩
  show readNumber? text = _
  simp [readNumber?, noSign, whole, nonempty, fractionDigits?, exponentParts?]

end LetShadow.Json
