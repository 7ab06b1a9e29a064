/-
**What becomes of a file.**

Nearly everything that can be wrong with a file is told by its result. Three faults are not: a null
character in its path, an integer with too many digits in a dump, and an escape that is too large in a
Ruby literal end the whole run.

* `Aborts` — **what ends the run at a file,** and `analyzeFile_eq_error_iff`.
* `IsJudged` — a file that is loaded, and whose names are resolved: its result has no error.
* `results_goes_iff` — a run goes through all its files exactly if none of them ends it.
* `analyzeFile_outcome` — **any other file gets a result,** which has an error exactly if the file is
  not judged.
-/

import LetShadow.CommandLine.Run
import LetShadow.Proofs.Check.Failure
import LetShadow.Proofs.Json.Moments
import LetShadow.Proofs.Ruby.Oversized

namespace LetShadow

open CommandLine (Options results)
open Json (HasLongInteger)
open Relation (ReflTransGen)

/-! ### Files that are opened, loaded and judged -/

section

variable (root : FileTree) (choice : InputChoice) (path : Path)

/-- The path leads to a file with a text. -/
structure Opens (content : FileContent) (text : List Char) : Prop where
  found : root.content path = .ok content
  decoded : readText content.bytes = .ok text

/-- The file at a path gives a tree: it can be read, parsed and converted. -/
inductive Loads : Node → Prop
  | dump {content : FileContent} {text : List Char} {value : Json.Value} {tree : Node}
      (opens : Opens root path content text) (asDump : choice.readsDump path = true)
      (parsed : Json.parse text = .ok value) (converted : loadValue value = .ok tree) : Loads tree
  | ruby {content : FileContent} {text : List Char} {source : Ruby.Concrete} {tree : Node}
      (opens : Opens root path content text) (asRuby : choice.readsDump path = false)
      (parsed : content.ruby = some source) (converted : Ruby.tree source = .ok tree) : Loads tree

/-- The file at a path gives a tree in which all names of declarations of groups are resolved. -/
def IsJudged : Prop :=
  ∃ tree, Loads root choice path tree ∧
    ∀ group ∈ (⟨0, tree⟩ : Occurrence).groups, ∀ declaration : Occurrence,
      declaration.DirectIn group → declaration.Resolves

/-- What ends the whole run at a path. -/
inductive Aborts : Abort → Prop
  | nullInPath (null : '\x00' ∈ path.toString.toList) : Aborts .nullInPath
  | tooManyDigits {content : FileContent} {text : List Char} {count : Nat}
      (opens : Opens root path content text) (asDump : choice.readsDump path = true)
      (long : HasLongInteger text count) : Aborts (.tooManyDigits count)
  | codePointTooLarge {content : FileContent} {text : List Char} {source literal : Ruby.Concrete}
      (opens : Opens root path content text) (asRuby : choice.readsDump path = false)
      (parsed : content.ruby = some source)
      (reaches : ReflTransGen (fun outer inner => inner ∈ outer.pieces) source literal)
      (oversized : literal.IsOversized) : Aborts .codePointTooLarge

end

variable {root : FileTree} {choice : InputChoice} {path : Path}

/-! ### Opening -/

theorem descend_ne_nullCharacter (above : List FileTree) (here : FileTree) (names : List String) :
    FileTree.descend above here names ≠ .error .nullCharacter := by
  induction names generalizing above here with
  | nil => nofun
  | cons name rest ih =>
    unfold FileTree.descend
    split
    · nofun
    · split
      · split
        · exact ih _ _
        · exact ih _ _
      · split
        · nofun
        · split
          · exact ih _ _
          · nofun

/-- Only the path can have a null character. -/
theorem content_eq_nullCharacter_iff :
    root.content path = .error .nullCharacter ↔ '\x00' ∈ path.toString.toList := by
  unfold FileTree.content FileTree.find
  simp only [List.contains_iff_mem]
  by_cases null : '\x00' ∈ path.toString.toList
  · rw [if_pos null]
    exact iff_of_true rfl null
  · rw [if_neg null]
    refine iff_of_false ?_ null
    split
    · nofun
    · nofun
    · rename_i error outcome
      split at outcome
      · cases outcome
        nofun
      · rintro ⟨⟩
        exact descend_ne_nullCharacter _ _ _ outcome

theorem ofFileError_eq_aborted_iff {error : FileError} {abort : Abort} :
    Failure.ofFileError path error = .aborted abort ↔
      error = .nullCharacter ∧ abort = .nullInPath := by
  cases error <;> simp [Failure.ofFileError, Failure.unreadable, eq_comm]

theorem openFile_eq_ok_iff {content : FileContent} {text : List Char} :
    openFile root path = .ok (content, text) ↔ Opens root path content text := by
  unfold openFile
  simp only [bind_eq_ok_iff, mapError_eq_ok_iff]
  constructor
  · rintro ⟨_, found, _, decoded, ⟨⟩⟩
    exact ⟨found, decoded⟩
  · rintro ⟨found, decoded⟩
    exact ⟨content, found, text, decoded, rfl⟩

/-- **Opening a file ends a run only for a null character in its path.** -/
theorem openFile_eq_aborted_iff {abort : Abort} :
    openFile root path = .error (.aborted abort) ↔
      '\x00' ∈ path.toString.toList ∧ abort = .nullInPath := by
  unfold openFile
  simp only [bind_eq_error_iff, mapError_eq_error_iff, ofFileError_eq_aborted_iff,
    ← @content_eq_nullCharacter_iff root]
  constructor
  · rintro (⟨_, fails, rfl, rfl⟩ | ⟨content, -, ⟨fault, -, same⟩ | ⟨text, -, same⟩⟩)
    · exact ⟨fails, rfl⟩
    -- Of a file that is found, bytes that are no text are told by the result.
    · cases same
    · cases same
  · rintro ⟨fails, rfl⟩
    exact .inl ⟨_, fails, rfl, rfl⟩

/-! ### Loading -/

theorem ofReadError_eq_aborted_iff {error : Json.ReadError} {abort : Abort} :
    Failure.ofReadError error = .aborted abort ↔
      ∃ count, error = .tooManyDigits count ∧ abort = .tooManyDigits count := by
  cases error <;> simp [Failure.ofReadError, eq_comm]

/-- **Reading a dump ends a run only for an integer with too many digits.** -/
theorem loadDump_eq_aborted_iff {text : List Char} {abort : Abort} :
    loadDump (String.ofList text) = .error (.aborted abort) ↔
      ∃ count, HasLongInteger text count ∧ abort = .tooManyDigits count := by
  unfold loadDump
  simp only [String.toList_ofList, bind_eq_error_iff, mapError_eq_error_iff,
    ofReadError_eq_aborted_iff]
  constructor
  · rintro (⟨_, fails, count, rfl, rfl⟩ | ⟨value, -, error, -, same⟩)
    · exact ⟨count, Json.parse_eq_tooManyDigits_iff.mp fails, rfl⟩
    · cases same
  · rintro ⟨count, long, rfl⟩
    exact .inl ⟨_, Json.parse_eq_tooManyDigits_iff.mpr long, count, rfl, rfl⟩

theorem loadDump_eq_ok_iff {text : List Char} {tree : Node} :
    loadDump (String.ofList text) = .ok tree ↔
      ∃ value, Json.parse text = .ok value ∧ loadValue value = .ok tree := by
  unfold loadDump
  simp only [String.toList_ofList, bind_eq_ok_iff, mapError_eq_ok_iff]

/-- **Reading a Ruby file ends a run only for an escape that is too large.** -/
theorem loadRuby_eq_aborted_iff {file : String} {answer : Option Ruby.Concrete} {abort : Abort} :
    loadRuby file answer = .error (.aborted abort) ↔ abort = .codePointTooLarge ∧
      ∃ source literal, answer = some source ∧
        ReflTransGen (fun outer inner => inner ∈ outer.pieces) source literal ∧
          literal.IsOversized := by
  cases answer with
  | none => exact ⟨nofun, nofun⟩
  | some source =>
    show (Ruby.tree source).mapError _ = _ ↔ _
    simp only [mapError_eq_error_iff, Ruby.tree_eq_error_iff]
    constructor
    · rintro ⟨_, ⟨literal, reaches, oversized⟩, ⟨⟩⟩
      exact ⟨rfl, source, literal, rfl, reaches, oversized⟩
    · rintro ⟨rfl, _, literal, ⟨⟩, reaches, oversized⟩
      exact ⟨{}, ⟨literal, reaches, oversized⟩, rfl⟩

theorem loadRuby_eq_ok_iff {file : String} {answer : Option Ruby.Concrete} {tree : Node} :
    loadRuby file answer = .ok tree ↔
      ∃ source, answer = some source ∧ Ruby.tree source = .ok tree := by
  cases answer with
  | none => exact ⟨nofun, nofun⟩
  | some source =>
    show (Ruby.tree source).mapError _ = _ ↔ _
    simp [mapError_eq_ok_iff]

/-- **Loading a file ends a run for one of three faults.** -/
theorem loadFile_eq_aborted_iff {abort : Abort} :
    loadFile root choice path = .error (.aborted abort) ↔ Aborts root choice path abort := by
  unfold loadFile
  rw [bind_eq_error_iff, openFile_eq_aborted_iff]
  constructor
  · rintro (⟨null, rfl⟩ | ⟨⟨content, text⟩, opened, fails⟩)
    · exact .nullInPath null
    · have opens := openFile_eq_ok_iff.mp opened
      dsimp only at fails
      split at fails
      · rename_i asDump
        obtain ⟨count, long, rfl⟩ := loadDump_eq_aborted_iff.mp fails
        exact .tooManyDigits opens asDump long
      · rename_i asRuby
        obtain ⟨rfl, source, literal, parsed, reaches, oversized⟩ := loadRuby_eq_aborted_iff.mp fails
        exact .codePointTooLarge opens (Bool.eq_false_iff.mpr asRuby) parsed reaches oversized
  · rintro (null | ⟨opens, asDump, long⟩ | ⟨opens, asRuby, parsed, reaches, oversized⟩)
    · exact .inl ⟨null, rfl⟩
    · refine .inr ⟨_, openFile_eq_ok_iff.mpr opens, (if_pos asDump).trans ?_⟩
      exact loadDump_eq_aborted_iff.mpr ⟨_, long, rfl⟩
    · refine .inr ⟨_, openFile_eq_ok_iff.mpr opens, (if_neg (ne_true_of_eq_false asRuby)).trans ?_⟩
      exact loadRuby_eq_aborted_iff.mpr ⟨rfl, _, _, parsed, reaches, oversized⟩

theorem loadFile_eq_ok_iff {tree : Node} :
    loadFile root choice path = .ok tree ↔ Loads root choice path tree := by
  unfold loadFile
  rw [bind_eq_ok_iff]
  constructor
  · rintro ⟨⟨content, text⟩, opened, loads⟩
    have opens := openFile_eq_ok_iff.mp opened
    dsimp only at loads
    split at loads
    · rename_i asDump
      obtain ⟨value, parsed, converted⟩ := loadDump_eq_ok_iff.mp loads
      exact .dump opens asDump parsed converted
    · rename_i asRuby
      obtain ⟨source, parsed, converted⟩ := loadRuby_eq_ok_iff.mp loads
      exact .ruby opens (Bool.eq_false_iff.mpr asRuby) parsed converted
  · rintro (⟨opens, asDump, parsed, converted⟩ | ⟨opens, asRuby, parsed, converted⟩)
    · refine ⟨_, openFile_eq_ok_iff.mpr opens, (if_pos asDump).trans ?_⟩
      exact loadDump_eq_ok_iff.mpr ⟨_, parsed, converted⟩
    · refine ⟨_, openFile_eq_ok_iff.mpr opens, (if_neg (ne_true_of_eq_false asRuby)).trans ?_⟩
      exact loadRuby_eq_ok_iff.mpr ⟨_, parsed, converted⟩

/-! ### Results -/

/-- **The analysis of a file ends the run exactly for what ends it at its path.** -/
theorem analyzeFile_eq_error_iff {file : String} {abort : Abort} :
    analyzeFile root choice file = .error abort ↔ Aborts root choice (.ofString file) abort := by
  rw [← loadFile_eq_aborted_iff, analyzeFile]
  cases loadFile root choice (.ofString file) with
  | error failure => cases failure <;> simp [resultOf]
  | ok tree =>
    refine iff_of_false ?_ nofun
    unfold resultOf
    dsimp only
    split <;> nofun

theorem analyzeTree_fails_iff {tree : Node} {file : String} :
    (∃ error, analyzeTree tree file = .error error) ↔
      ∃ group ∈ (⟨0, tree⟩ : Occurrence).groups, ∃ declaration : Occurrence,
        declaration.DirectIn group ∧ ¬ declaration.Resolves := by
  rw [← contribution_fails_iff, analyzeTree_eq]
  cases (contribution ⟨0, tree⟩ ⟨0, tree⟩).failure <;> simp

/-- **The result of a file that is judged has no error,** and that of any other file says nothing but
an error. -/
theorem analyzeFile_eq_ok {file : String} {result : Result}
    (outcome : analyzeFile root choice file = .ok result) :
    result.file = file ∧
      (IsJudged root choice (.ofString file) → result.error = none) ∧
      (¬ IsJudged root choice (.ofString file) → ∃ error, result = .failed file error) := by
  rw [analyzeFile] at outcome
  cases loaded : loadFile root choice (.ofString file) with
  | error failure =>
    have noTree : ¬ IsJudged root choice (.ofString file) := by
      rintro ⟨tree, loads, -⟩
      cases loaded.symm.trans (loadFile_eq_ok_iff.mpr loads)
    rw [loaded] at outcome
    cases failure with
    | aborted abort => cases outcome
    | refused error =>
      cases outcome
      exact ⟨rfl, fun judged => absurd judged noTree, fun _ => ⟨_, rfl⟩⟩
  | ok tree =>
    -- With a tree at hand only a name that is not resolved is left to be wrong.
    have judged_iff : IsJudged root choice (.ofString file) ↔
        ¬ ∃ error, analyzeTree tree file = .error error := by
      rw [analyzeTree_fails_iff]
      constructor
      · rintro ⟨other, loads, resolves⟩ ⟨group, mem, declaration, direct, unresolved⟩
        cases loaded.symm.trans (loadFile_eq_ok_iff.mpr loads)
        exact unresolved (resolves group mem declaration direct)
      · intro resolved
        refine ⟨tree, loadFile_eq_ok_iff.mp loaded, fun group mem declaration direct => ?_⟩
        exact by_contra fun unresolved => resolved ⟨group, mem, declaration, direct, unresolved⟩
    rw [judged_iff]
    rw [loaded, resultOf] at outcome
    cases checked : analyzeTree tree file with
    | ok found =>
      rw [checked] at outcome
      cases outcome
      obtain ⟨-, rfl⟩ := analyzeTree_eq_ok_iff.mp checked
      exact ⟨rfl, fun _ => rfl, fun fails => absurd nofun fails⟩
    | error error =>
      rw [checked] at outcome
      cases outcome
      exact ⟨rfl, fun goes => absurd ⟨error, rfl⟩ goes, fun _ => ⟨_, rfl⟩⟩

/-! ### Runs -/

/-- **The results of a run are those of its files,** in their order. -/
theorem results_eq_ok_iff {options : Options} {paths : List Path} {found : List Result}
    (collected : collect root options.targets = .ok paths) :
    results root options = .ok found ↔
      List.Forall₂ (fun path result => analyzeFile root options.input path.toString = .ok result)
        paths found := by
  rw [results, collected]
  show paths.mapM _ = _ ↔ _
  simp only [mapM_eq_ok_iff, mapError_eq_ok_iff]

/-- **A run goes through all its files exactly if none of them ends it.** -/
theorem results_goes_iff {options : Options} {paths : List Path}
    (collected : collect root options.targets = .ok paths) :
    (∃ found, results root options = .ok found) ↔
      ∀ path ∈ paths, ∀ abort, ¬ Aborts root options.input (.ofString path.toString) abort := by
  have goes : ∀ path : Path, (∃ result, analyzeFile root options.input path.toString = .ok result) ↔
      ∀ abort, ¬ Aborts root options.input (.ofString path.toString) abort := by
    intro path
    simp only [← analyzeFile_eq_error_iff]
    cases analyzeFile root options.input path.toString <;> simp
  simp only [results_eq_ok_iff collected, ← mapM_eq_ok_iff, mapM_goes_iff, goes]

/-! ### Files of plain characters -/

/-- The bytes of a text of ASCII. -/
def asciiBytes (text : List Char) : List UInt8 :=
  text.map fun char => UInt8.ofNat char.toNat

theorem enter_ascii {char : Char} (ascii : char.toNat < 0x80) (pieces : List Text.Utf8.Piece) :
    Text.Utf8.State.enter pieces (UInt8.ofNat char.toNat) =
      { reversed := .char char :: pieces } := by
  have value : (UInt8.ofNat char.toNat).toNat = char.toNat :=
    Nat.mod_eq_of_lt (Nat.lt_trans ascii (by decide))
  have small : UInt8.ofNat char.toNat < 0x80 := by
    rw [UInt8.lt_iff_toNat_lt, value]
    exact ascii
  rw [Text.Utf8.State.enter, Text.Utf8.first, if_pos small, value, Char.ofNat_toNat]

theorem pieces_asciiBytes {text : List Char} (ascii : ∀ char ∈ text, char.toNat < 0x80) :
    Text.Utf8.pieces (asciiBytes text) = text.map .char := by
  -- Said for any pieces that are read already, for the induction on the text.
  have reads : ∀ pieces, (asciiBytes text).foldl Text.Utf8.State.step { reversed := pieces } =
      { reversed := (text.map .char).reverse ++ pieces } := by
    induction text with
    | nil => exact fun _ => rfl
    | cons char rest ih =>
      intro pieces
      obtain ⟨here, later⟩ := List.forall_mem_cons.mp ascii
      rw [asciiBytes, List.map_cons, List.foldl_cons]
      show List.foldl _ (Text.Utf8.State.enter pieces _) (asciiBytes rest) = _
      rw [enter_ascii here, ih later, List.map_cons, List.reverse_cons, List.append_assoc]
      rfl
  rw [Text.Utf8.pieces, reads]
  simp [Text.Utf8.State.finish]

theorem join_chars (offset : Nat) (reversed text : List Char) :
    Text.Utf8.join offset reversed (text.map .char) = .ok (reversed.reverse ++ text) := by
  induction text generalizing offset reversed with
  | nil => rw [List.map_nil, Text.Utf8.join, List.append_nil]
  | cons char rest ih =>
    rw [List.map_cons, Text.Utf8.join, ih, List.reverse_cons, List.append_assoc]
    rfl

theorem unifyLineEnds_of_none {text : List Char} (none : '\r' ∉ text) :
    Text.unifyLineEnds text = text := by
  induction text using Text.unifyLineEnds.induct with
  | case1 => rfl
  | case2 rest ih => exact absurd List.mem_cons_self none
  | case3 char rest single ih =>
    have here : char ≠ '\r' := fun same => none (same ▸ List.mem_cons_self)
    have later : '\r' ∉ rest := fun mem => none (List.mem_cons_of_mem _ mem)
    rw [Text.unifyLineEnds, ih later, if_neg here]
    exact single

/-- A character of ASCII that is no carriage return. -/
def isPlain (char : Char) : Bool :=
  char.toNat < 0x80 && char != '\r'

/-- **A text of plain characters is read as it is.** -/
theorem readText_asciiBytes {text : List Char} (plain : text.all isPlain = true) :
    readText (asciiBytes text) = .ok text := by
  have each : ∀ char ∈ text, char.toNat < 0x80 ∧ char ≠ '\r' := by
    simpa [isPlain] using plain
  rw [readText, Text.Utf8.decode, pieces_asciiBytes fun char mem => (each char mem).1, join_chars]
  exact congrArg Except.ok (unifyLineEnds_of_none fun mem => (each _ mem).2 rfl)

/-- A file with a text of ASCII. -/
def plainFile (text : List Char) (ruby : Option Ruby.Concrete) : FileTree :=
  .file ⟨asciiBytes text, ruby⟩

/-- A string whose only part is an escape of a number that is no machine integer. -/
def oversizedLiteral : Ruby.Concrete :=
  let escape : Ruby.Concrete :=
    ⟨"escape_sequence", none, Thunk.pure "\\u\x7b80000000\x7d", ⟨1, 1⟩, []⟩
  ⟨"string", none, Thunk.pure "\"\\u\x7b80000000\x7d\"", ⟨1, 0⟩, [escape]⟩

/-- The Ruby file that holds the string only. -/
def oversizedSource : Ruby.Concrete :=
  ⟨"program", none, Thunk.pure oversizedLiteral.text, ⟨1, 0⟩, [oversizedLiteral]⟩

/-- A Ruby file with an escape that is too large, a dump that is an integer with too many digits, and
an empty dump. -/
def spoiledFiles : FileTree :=
  .directory
    [ ("a_spec.rb", plainFile oversizedLiteral.text.toList (some oversizedSource)),
      ("b.json", plainFile (List.replicate 4301 '1') none),
      ("c.json", plainFile "null".toList none) ]

theorem oversizedLiteral_isOversized : oversizedLiteral.IsOversized where
  quoted := by decide
  known := by decide
  decoded := by decide
  oversized := by
    have oversized : Ruby.IsOversized 0x80000000 := .inr (Int.le_refl _)
    exact ⟨_, List.mem_cons_self, rfl,
      .points (rfl : _ = [] ++ "80000000".toList :: []) nofun rfl oversized⟩

theorem spoiledFiles_abort :
    Aborts spoiledFiles .auto (.ofString "a_spec.rb") .codePointTooLarge ∧
      Aborts spoiledFiles .auto (.ofString "b.json") (.tooManyDigits 4301) := by
  constructor
  · have opens : Opens spoiledFiles (.ofString "a_spec.rb") _ oversizedLiteral.text.toList :=
      ⟨rfl, readText_asciiBytes rfl⟩
    exact .codePointTooLarge opens rfl rfl (.single List.mem_cons_self)
      oversizedLiteral_isOversized
  · have one : ∀ {char : Char}, char ∈ List.replicate 4301 '1' → char = '1' :=
      List.eq_of_mem_replicate
    have opens : Opens spoiledFiles (.ofString "b.json") _ (List.replicate 4301 '1') :=
      ⟨rfl, readText_asciiBytes (List.all_eq_true.mpr fun char mem => one mem ▸ rfl)⟩
    have long : HasLongInteger (List.replicate 4301 '1') (List.replicate 4301 '1').length := by
      refine Json.hasLongInteger_of_digits (fun char mem => one mem ▸ by decide) ?_ ?_
      · exact fun zero => absurd (one (List.mem_of_mem_head? zero)) (by decide)
      · rw [List.length_replicate]
        decide
    rw [List.length_replicate] at long
    exact .tooManyDigits opens rfl long

/-- **What becomes of files.** A file ends the run exactly for one of three faults; any other has a
result, with an error exactly if the file is not judged; and a run goes through all its files exactly
if none of them ends it. -/
theorem analyzeFile_outcome (root : FileTree) :
    (∀ choice file abort, analyzeFile root choice file = .error abort ↔
      Aborts root choice (.ofString file) abort) ∧
    (∀ choice file result, analyzeFile root choice file = .ok result → result.file = file ∧
      (IsJudged root choice (.ofString file) → result.error = none) ∧
      (¬ IsJudged root choice (.ofString file) → ∃ error, result = .failed file error)) ∧
    ∀ options paths, collect root options.targets = .ok paths →
      ((∃ found, results root options = .ok found) ↔ ∀ path ∈ paths, ∀ abort,
        ¬ Aborts root options.input (.ofString path.toString) abort) ∧
      ∀ found, results root options = .ok found ↔
        List.Forall₂ (fun path result => analyzeFile root options.input path.toString = .ok result)
          paths found :=
  ⟨fun _ _ _ => analyzeFile_eq_error_iff, fun _ _ _ => analyzeFile_eq_ok,
    fun _ _ collected => ⟨results_goes_iff collected, fun _ => results_eq_ok_iff collected⟩⟩

/-- The escape and the integer keep their files from having a result of any kind. -/
theorem no_result_of_spoiledFiles :
    (¬ ∃ result, analyzeFile spoiledFiles .auto "a_spec.rb" = .ok result) ∧
      ¬ ∃ result, analyzeFile spoiledFiles .auto "b.json" = .ok result := by
  obtain ⟨ofEscape, ofInteger⟩ := spoiledFiles_abort
  constructor
  · rintro ⟨result, outcome⟩
    cases outcome.symm.trans (analyzeFile_eq_error_iff.mpr ofEscape)
  · rintro ⟨result, outcome⟩
    cases outcome.symm.trans (analyzeFile_eq_error_iff.mpr ofInteger)

/-- The empty dump has a result without an error, and a run over it alone goes through; with the long
integer behind it there are no results at all. -/
theorem analyzeFile_outcome_spoiledFiles :
    analyzeFile spoiledFiles .auto "b.json" = .error (.tooManyDigits 4301) ∧
      (∃ result, analyzeFile spoiledFiles .auto "c.json" = .ok result ∧ result.error = none) ∧
      (∃ found, results spoiledFiles { targets := [.ofString "c.json"] } = .ok found) ∧
      ¬ ∃ found, results spoiledFiles { targets := [.ofString "c.json", .ofString "b.json"] } =
        .ok found := by
  obtain ⟨aborts, results_say, runs⟩ := analyzeFile_outcome spoiledFiles
  have ofInteger := (aborts .auto "b.json" _).mpr spoiledFiles_abort.2
  have judged : IsJudged spoiledFiles .auto (.ofString "c.json") := by
    have opens : Opens spoiledFiles (.ofString "c.json") _ "null".toList :=
      ⟨rfl, readText_asciiBytes rfl⟩
    have parsed : Json.parse "null".toList = .ok .null := by
      simp [Json.parse, Json.Reader.run, Json.Reader.isSpace, Json.Reader.step,
        Json.Reader.takeValue, Json.Reader.wordValues, Json.Reader.supply, Json.Reader.finish]
    have noGroups : (⟨0, .sequence [] none⟩ : Occurrence).groups = [] := rfl
    refine ⟨.sequence [] none, .dump opens rfl parsed rfl, fun group mem => ?_⟩
    rw [noGroups] at mem
    exact absurd mem List.not_mem_nil
  have goes : (analyzeFile spoiledFiles .auto "c.json").toOption.isSome = true := by
    decide +kernel
  refine ⟨ofInteger, ?_, ?_, ?_⟩
  · cases outcome : analyzeFile spoiledFiles .auto "c.json" with
    | ok result =>
      obtain ⟨-, noError, -⟩ := results_say .auto "c.json" result outcome
      exact ⟨result, rfl, noError judged⟩
    | error abort =>
      rw [outcome] at goes
      cases goes
  · have collected : collect spoiledFiles [.ofString "c.json"] = .ok [.ofString "c.json"] := rfl
    refine (runs { targets := [.ofString "c.json"] } _ collected).1.mpr fun path mem abort fails => ?_
    cases List.mem_singleton.mp mem
    rw [show (Path.ofString "c.json").toString = "c.json" by decide] at fails
    rw [(aborts .auto "c.json" abort).mpr fails] at goes
    cases goes
  · have collected : collect spoiledFiles [.ofString "c.json", .ofString "b.json"] =
        .ok [.ofString "c.json", .ofString "b.json"] := rfl
    intro goThrough
    have fine := (runs { targets := [.ofString "c.json", .ofString "b.json"] } _ collected).1.mp
      goThrough (.ofString "b.json") (List.mem_cons_of_mem _ List.mem_cons_self)
    rw [show (Path.ofString "b.json").toString = "b.json" by decide] at fine
    exact fine _ spoiledFiles_abort.2

end LetShadow
