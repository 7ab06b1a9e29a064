/-
**Reports with a table, cell by cell.**

A row of the table says of an offense where it is, which name it is about and what is wrong. The three
are not treated alike: names are set as they are, but places and messages are read as texts with tags,
though nobody has written any into a path.

* `ShowsRow` — what a drawn row shows: the lines of its texts side by side, each with blanks around it.
* `rowLines_shows`, `Grid.drawn_eq` — **a table is drawn row by row,** and each row shows its texts.
* `offenseTable_eq_ok_iff` — the table exists exactly if all places and messages can be shown.
* `isVerbatimMarkup_place_iff` — the places that are shown as they stand, told by path and line number.
* `tableReport_faithful_iff` — **what a report with a table shows,** and when it says what was found.
-/

import LetShadow.Report.Table
import LetShadow.Proofs.Report.Plain

namespace LetShadow

open Report

namespace Report

/-! ### Rows as they are drawn -/

/-- A cell that shows a line: blanks stand around it, one at least at either side. -/
def ShowsLine (line cell : List Char) : Prop :=
  ∃ blanks, cell = ' ' :: line ++ List.replicate (blanks + 1) ' '

/-- The number of lines of the tallest of some texts. -/
def tallest (texts : List (List Char)) : Nat :=
  (texts.map fun text => (lines text).length).foldl max 0

/-- A drawn row shows texts side by side, between bars. Below the last line of a text its cells are
blank. -/
structure ShowsRow (bar : Char) (texts drawn : List (List Char)) : Prop where
  height : drawn.length = tallest texts
  shows : ∀ level (inside : level < drawn.length), ∃ cells,
    List.Forall₂ ShowsLine (texts.map fun text => (lines text).getD level []) cells ∧
      drawn[level] = bar :: [bar].intercalate cells ++ [bar]

theorem showsLine_fill (width : Nat) (line : List Char) :
    ShowsLine line (' ' :: fill width line ++ [' ']) := by
  have once (line : List Char) : ∃ blanks, fillOnce width line = line ++ List.replicate blanks ' ' :=
    ⟨_, rfl⟩
  obtain ⟨first, firstly⟩ := once line
  obtain ⟨second, secondly⟩ := once (fillOnce width line)
  refine ⟨first + second, ?_⟩
  rw [fill, secondly, firstly, List.replicate_succ', ← List.replicate_append_replicate]
  simp

namespace Grid

theorem rowLine_shows {widths : List Nat} {texts : List (List Char)} (bar : Char)
    (fits : widths.length = texts.length) : ∃ cells, List.Forall₂ ShowsLine texts cells ∧
      rowLine bar widths texts = bar :: [bar].intercalate cells ++ [bar] := by
  refine ⟨_, ?_, rfl⟩
  induction widths generalizing texts with
  | nil =>
    obtain rfl := List.length_eq_zero_iff.mp fits.symm
    exact .nil
  | cons width widths ih =>
    cases texts with
    | nil => cases fits
    | cons text texts => exact .cons (showsLine_fill width text) (ih (Nat.succ.inj fits))

/-- **A drawn row shows its cells,** with blanks for their tabs. -/
theorem rowLines_shows {widths : List Nat} {cells : List (List Char)} (bar : Char)
    (fits : widths.length = cells.length) :
    ShowsRow bar (cells.map expandTabs) (rowLines bar widths cells) := by
  refine ⟨?_, fun level inside => ?_⟩
  · simp [rowLines, tallest, Function.comp_def]
  · let texts := cells.map fun cell => (lines (expandTabs cell)).getD level []
    have fitsHere : widths.length = texts.length := by simpa [texts] using fits
    simpa [rowLines, texts, Function.comp_def] using rowLine_shows bar fitsHere

theorem length_widths {grid : Grid} (fits : ∀ row ∈ grid.rows, row.length = grid.headings.length) :
    grid.widths.length = grid.headings.length := by
  have wide : ∀ rows : List (List (List Char)), (∀ row ∈ rows, row.length = grid.headings.length) →
      ∀ widths : List Nat, widths.length = grid.headings.length →
      (rows.foldl (fun widths row => List.zipWith max widths (row.map widest)) widths).length =
        grid.headings.length := by
    intro rows fits
    induction rows with
    | nil => exact fun _ same => same
    | cons row rows ih =>
      obtain ⟨here, later⟩ := List.forall_mem_cons.mp fits
      exact fun widths same => ih later _ (by simp [same, here])
  exact wide grid.rows fits _ (List.length_map _)

/-- The lines of a table above its rows: the title and the headings. -/
def head (grid : Grid) : List (List Char) :=
  let top := rule '┏' '━' '┳' '┓' grid.widths
  [centre (Text.width top) grid.title, top] ++ rowLines '┃' grid.widths grid.headings ++
    [rule '┡' '━' '╇' '┩' grid.widths]

/-- The line below them. -/
def foot (grid : Grid) : List Char :=
  rule '└' '─' '┴' '┘' grid.widths

/-- **A table is drawn row by row.** -/
theorem drawn_eq {grid : Grid} (fits : ∀ row ∈ grid.rows, row.length = grid.headings.length) :
    ∃ groups, grid.drawn = grid.head ++ groups.flatten ++ [grid.foot] ∧
      List.Forall₂ (fun row group => ShowsRow '│' (row.map expandTabs) group) grid.rows groups := by
  refine ⟨grid.rows.map (rowLines '│' grid.widths), ?_, ?_⟩
  · rw [← List.flatMap_def]
    rfl
  · rw [List.forall₂_map_right_iff, List.forall₂_same]
    exact fun row mem => rowLines_shows '│' ((length_widths fits).trans (fits row mem).symm)

end Grid

end Report

/-! ### What the table says of an offense -/

namespace TableRow

variable (row : TableRow)

/-- The place as it is shown, if it can be shown. -/
def shownPlace : List Char :=
  expandTabs (shownText row.place.toList)

/-- The name as it is shown. -/
def shownName : List Char :=
  printable row.name.toList

/-- The message as it is shown, if it can be shown. -/
def shownMessage : List Char :=
  expandTabs (shownText row.message.toList)

/-- The texts with tags in the row can be shown. -/
structure CanBeShown : Prop where
  place : ∃ line, shown row.place.toList = .ok line
  message : ∃ line, shown row.message.toList = .ok line

/-- The cells of the row, before tabs are expanded. -/
def texts : List (List Char) :=
  [shownText row.place.toList, dropControls row.name.toList, shownText row.message.toList]

/-- What becomes of the row once its texts have been read. -/
def Gives (cells : List (List Char)) : Prop :=
  ∃ place message, readMarkup row.place.toList = .ok place ∧
    readMarkup row.message.toList = .ok message ∧ row.cells place message = .ok cells

variable {row}

theorem gives_iff {cells : List (List Char)} :
    row.Gives cells ↔ row.CanBeShown ∧ cells = row.texts := by
  constructor
  · rintro ⟨place, message, readsPlace, readsMessage, goes⟩
    obtain ⟨placeLine, showsPlace, goes⟩ := bind_eq_ok_iff.mp goes
    obtain ⟨messageLine, showsMessage, same⟩ := bind_eq_ok_iff.mp goes
    have place := bind_eq_ok_iff.mpr ⟨place, readsPlace, showsPlace⟩
    have message := bind_eq_ok_iff.mpr ⟨message, readsMessage, showsMessage⟩
    cases same
    refine ⟨⟨⟨_, place⟩, _, message⟩, ?_⟩
    rw [texts, ← eq_shownText_of_shown place, ← eq_shownText_of_shown message]
  · rintro ⟨⟨⟨placeLine, place⟩, messageLine, message⟩, rfl⟩
    rw [texts, ← eq_shownText_of_shown place, ← eq_shownText_of_shown message]
    obtain ⟨place, readsPlace, showsPlace⟩ := bind_eq_ok_iff.mp place
    obtain ⟨message, readsMessage, showsMessage⟩ := bind_eq_ok_iff.mp message
    exact ⟨place, message, readsPlace, readsMessage,
      bind_eq_ok_iff.mpr ⟨_, showsPlace, bind_eq_ok_iff.mpr ⟨_, showsMessage, rfl⟩⟩⟩

end TableRow

/-- All places are read before all messages, and both before any style is checked; what comes of it is
the same as row by row. -/
theorem exists_reads_iff {rows : List TableRow} {cells : List (List (List Char))} :
    (∃ places messages,
      List.Forall₂ (fun row place => readMarkup row.place.toList = .ok place) rows places ∧
      List.Forall₂ (fun row message => readMarkup row.message.toList = .ok message) rows messages ∧
      List.Forall₂ (fun (row, place, message) cells => row.cells place message = .ok cells)
        (rows.zip (places.zip messages)) cells) ↔ List.Forall₂ TableRow.Gives rows cells := by
  constructor
  · rintro ⟨places, messages, readsPlaces, readsMessages, goes⟩
    induction readsPlaces generalizing messages cells with
    | nil =>
      cases readsMessages
      cases goes
      exact .nil
    | cons place _ ih =>
      cases readsMessages with
      | cons message readsMessages =>
        cases goes with
        | cons here goes => exact .cons ⟨_, _, place, message, here⟩ (ih _ readsMessages goes)
  · intro gives
    induction gives with
    | nil => exact ⟨[], [], .nil, .nil, .nil⟩
    | cons here _ ih =>
      obtain ⟨place, message, readsPlace, readsMessage, goes⟩ := here
      obtain ⟨places, messages, readsPlaces, readsMessages, others⟩ := ih
      exact ⟨place :: places, message :: messages, .cons readsPlace readsPlaces,
        .cons readsMessage readsMessages, .cons goes others⟩

/-- The table of rows whose texts can be shown. -/
def gridOf (rows : List TableRow) : Grid where
  title := tableTitle.toList
  headings := tableHeadings.map String.toList
  rows := rows.map TableRow.texts

/-- **The table exists exactly if all its texts can be shown.** -/
theorem offenseTable_eq_ok_iff {rows : List TableRow} {grid : Grid} :
    offenseTable rows = .ok grid ↔ (∀ row ∈ rows, row.CanBeShown) ∧ gridOf rows = grid := by
  have all (cells : List (List (List Char))) : List.Forall₂ TableRow.Gives rows cells ↔
      (∀ row ∈ rows, row.CanBeShown) ∧ rows.map TableRow.texts = cells := by
    have each : TableRow.Gives = fun row cells => row.CanBeShown ∧ row.texts = cells := by
      funext row cells
      rw [TableRow.gives_iff, eq_comm (a := cells)]
    have map := List.forall₂_map_left_iff (R := Eq) (f := TableRow.texts) (l := rows) (u := cells)
    rw [List.forall₂_eq_eq_eq] at map
    rw [each, List.forall₂_and_left, map]
  constructor
  · intro goes
    obtain ⟨places, readsPlaces, goes⟩ := bind_eq_ok_iff.mp goes
    obtain ⟨messages, readsMessages, goes⟩ := bind_eq_ok_iff.mp goes
    obtain ⟨cells, draws, same⟩ := bind_eq_ok_iff.mp goes
    obtain ⟨canBeShown, rfl⟩ := (all cells).mp (exists_reads_iff.mp
      ⟨places, messages, mapM_eq_ok_iff.mp readsPlaces, mapM_eq_ok_iff.mp readsMessages,
        mapM_eq_ok_iff.mp draws⟩)
    exact ⟨canBeShown, Except.ok.inj same⟩
  · rintro ⟨canBeShown, rfl⟩
    obtain ⟨places, messages, readsPlaces, readsMessages, draws⟩ :=
      exists_reads_iff.mpr ((all _).mpr ⟨canBeShown, rfl⟩)
    refine bind_eq_ok_iff.mpr ⟨places, mapM_eq_ok_iff.mpr readsPlaces, ?_⟩
    refine bind_eq_ok_iff.mpr ⟨messages, mapM_eq_ok_iff.mpr readsMessages, ?_⟩
    exact bind_eq_ok_iff.mpr ⟨_, mapM_eq_ok_iff.mpr draws, rfl⟩

/-- What is drawn of rows: nothing, if there are none. -/
def drawnRows (rows : List TableRow) : List (List Char) :=
  if rows = [] then [] else (gridOf rows).drawn

theorem drawnRows_eq_nil_iff {rows : List TableRow} : drawnRows rows = [] ↔ rows = [] := by
  unfold drawnRows
  split
  · next none => exact iff_of_true rfl none
  · next some => exact iff_of_false (by simp [Grid.drawn]) some

theorem tableLines_eq_ok_iff {results : List Result} {table : List String} :
    tableLines results = .ok table ↔ (∀ row ∈ tableRows results, row.CanBeShown) ∧
      (drawnRows (tableRows results)).map String.ofList = table := by
  unfold tableLines drawnRows
  split
  · next none =>
    rw [none]
    simp
  · next rows some =>
    rw [if_neg some, bind_eq_ok_iff]
    simp only [offenseTable_eq_ok_iff]
    constructor
    · rintro ⟨_, ⟨canBeShown, rfl⟩, same⟩
      exact ⟨canBeShown, Except.ok.inj same⟩
    · rintro ⟨canBeShown, rfl⟩
      exact ⟨_, ⟨canBeShown, rfl⟩, rfl⟩

theorem tableReport_eq_ok_iff {results : List Result} {lines : List String} :
    tableReport results = .ok lines ↔ ∃ errors, errorLines results = .ok errors ∧
      (∀ row ∈ tableRows results, row.CanBeShown) ∧
      errors ++ (drawnRows (tableRows results)).map String.ofList ++
        (Summary.ofResults results).lines = lines := by
  rw [tableReport, bind_eq_ok_iff]
  simp only [bind_eq_ok_iff, tableLines_eq_ok_iff]
  constructor
  · rintro ⟨errors, shows, _, ⟨canBeShown, rfl⟩, same⟩
    exact ⟨errors, shows, canBeShown, Except.ok.inj same⟩
  · rintro ⟨errors, shows, canBeShown, rfl⟩
    exact ⟨errors, shows, _, ⟨canBeShown, rfl⟩, rfl⟩

/-- **The rows of the table are drawn one after the other.** -/
theorem drawnRows_shows (rows : List TableRow) : ∃ groups,
    List.Forall₂ (fun row group =>
        ShowsRow '│' [row.shownPlace, row.shownName, row.shownMessage] group) rows groups ∧
      drawnRows rows = if rows = [] then []
        else (gridOf rows).head ++ groups.flatten ++ [(gridOf rows).foot] := by
  have fits : ∀ cells ∈ (gridOf rows).rows, cells.length = (gridOf rows).headings.length := by
    intro cells mem
    obtain ⟨row, -, rfl⟩ := List.mem_map.mp mem
    rfl
  obtain ⟨groups, draws, shows⟩ := Grid.drawn_eq fits
  change List.Forall₂ _ (rows.map TableRow.texts) groups at shows
  have each := List.forall₂_map_left_iff.mp shows
  exact ⟨groups, each, by rw [drawnRows, draws]⟩

theorem printable_eq_self_iff {text : List Char} :
    printable text = text ↔ ∀ char ∈ changedChars, char ∉ text :=
  ⟨fun same char changed mem => not_mem_printable text char changed (same.symm ▸ mem),
    printable_eq_self⟩

/-! ### Places -/

/-- What stands behind the path in a place. -/
def behindPath : Option Location → List Char
  | none => []
  | some location =>
    ':' :: ((toString location.line).toList ++ ':' :: (toString (location.column + 1)).toList)

theorem toList_place (offense : Offense) (file : String) :
    (offense.place file).toList = file.toList ++ behindPath offense.location := by
  unfold Offense.place
  split <;> simp [behindPath, *]

/-- Behind the path stand colons and numbers only. -/
theorem mem_behindPath {location : Option Location} :
    ∀ char ∈ behindPath location, char ∈ ':' :: Emoji.numeralChars := by
  cases location with
  | none => exact List.forall_mem_nil _
  | some location =>
    have number (number : Int) : ∀ char ∈ (toString number).toList, char ∈ ':' :: Emoji.numeralChars :=
      fun char mem => List.mem_cons_of_mem _ (Emoji.toString_numeral number char mem)
    refine List.forall_mem_cons.mpr ⟨List.mem_cons_self, List.forall_mem_append.mpr ⟨number _, ?_⟩⟩
    exact List.forall_mem_cons.mpr ⟨List.mem_cons_self, number _⟩

/-- **The only code in a place** is its line number, if the path has no colon. -/
theorem hasCode_place_iff {file : String} {offense : Offense} {code : List Char}
    (noColon : ':' ∉ file.toList) : HasCode code (offense.place file).toList ↔
      ∃ location, offense.location = some location ∧ code = (toString location.line).toList := by
  have nothing : ¬ HasCode code [] := nofun
  rw [toList_place, hasCode_append_iff noColon]
  cases place : offense.location with
  | none => simp [behindPath, nothing]
  | some location =>
    have column : ¬ HasCode code (toString (location.column + 1)).toList := by
      rw [← List.append_nil (toString (location.column + 1)).toList,
        hasCode_append_iff fun colon => (toString_no_colon _ _ colon).1 rfl]
      exact nothing
    rw [behindPath, Closes.hasCode_iff ⟨toString_no_colon location.line, rfl⟩, or_iff_left column]
    simp

/-- **Which places are shown as they stand,** if the path has no colon: the path holds no tag, no
backslash before a bracket and nothing that is changed, and the line number is none of the three that
name emoji. -/
theorem isVerbatimMarkup_place_iff {file : String} {offense : Offense} (noColon : ':' ∉ file.toList) :
    IsVerbatimMarkup (offense.place file).toList ↔
      ¬ HasTag file.toList ∧ ¬ ['\\', '['] <:+: file.toList ∧
      (∀ char ∈ changedChars, char ∉ file.toList) ∧
      ∀ location, offense.location = some location → toString location.line ∉ Emoji.numerals := by
  have noBrackets : ']' ∉ behindPath offense.location ∧ '[' ∉ behindPath offense.location :=
    ⟨fun mem => absurd (mem_behindPath _ mem) (by decide),
      fun mem => absurd (mem_behindPath _ mem) (by decide)⟩
  have tag : HasTag (offense.place file).toList ↔ HasTag file.toList := by
    rw [toList_place, hasTag_append_iff noBrackets.1]
  have slash : ['\\', '['] <:+: (offense.place file).toList ↔ ['\\', '['] <:+: file.toList := by
    rw [toList_place]
    change ['\\'] ++ ['['] <:+: _ ↔ ['\\'] ++ ['['] <:+: _
    exact infix_append_iff noBrackets.2
  have changed : ∀ char ∈ changedChars,
      (char ∈ (offense.place file).toList ↔ char ∈ file.toList) := by
    have apart : ∀ char ∈ changedChars, char ∉ ':' :: Emoji.numeralChars :=
      List.all_iff_forall_prop.mp (by decide)
    intro char changed
    rw [toList_place, List.mem_append]
    exact or_iff_left fun mem => apart char changed (mem_behindPath char mem)
  constructor
  · rintro ⟨noTag, noSlash, noEmoji, unchanged⟩
    refine ⟨fun has => noTag (tag.mpr has), fun has => noSlash (slash.mpr has),
      fun char isChanged mem => unchanged char isChanged ((changed char isChanged).mpr mem),
      fun location place names => ?_⟩
    exact noEmoji _ ((hasCode_place_iff noColon).mpr ⟨location, place, rfl⟩)
      ((namesEmoji_toString_iff _).mpr names)
  · rintro ⟨noTag, noSlash, unchanged, numbers⟩
    refine ⟨fun has => noTag (tag.mp has), fun has => noSlash (slash.mp has), fun code has names => ?_,
      fun char isChanged mem => unchanged char isChanged ((changed char isChanged).mp mem)⟩
    obtain ⟨location, place, rfl⟩ := (hasCode_place_iff noColon).mp has
    exact numbers location place ((namesEmoji_toString_iff _).mp names)

/-! ### Reports -/

/-- **What a report with a table shows.** The lines of errors come first, then the table if there are
any offenses, then the summary. The table has a row for each offense, in the order of the results and
of their offenses. Names are shown as they stand but for tabs and control characters. A place is shown
as it stands exactly if it is verbatim as a text with tags; and if the path has no colon, that depends on
what is in the path, and on the line number. If some place or message cannot be shown, there is no
report. -/
theorem tableReport_faithful_iff (results : List Result) :
    (∀ lines, tableReport results = .ok lines ↔ ∃ errors, errorLines results = .ok errors ∧
      (∀ row ∈ tableRows results, row.CanBeShown) ∧
      errors ++ (drawnRows (tableRows results)).map String.ofList ++
        (Summary.ofResults results).lines = lines) ∧
    (∃ groups,
      List.Forall₂ (fun row group =>
        ShowsRow '│' [row.shownPlace, row.shownName, row.shownMessage] group)
        (tableRows results) groups ∧
      drawnRows (tableRows results) = if tableRows results = [] then []
        else (gridOf (tableRows results)).head ++ groups.flatten ++
          [(gridOf (tableRows results)).foot]) ∧
    (∀ row ∈ tableRows results,
      (¬ HasTag row.place.toList → ¬ HasTag row.message.toList → row.CanBeShown) ∧
      (row.shownPlace = row.place.toList ↔ IsVerbatimMarkup row.place.toList) ∧
      (row.shownName = row.name.toList ↔ ∀ char ∈ changedChars, char ∉ row.name.toList) ∧
      (row.shownMessage = row.message.toList ↔ IsVerbatimMarkup row.message.toList)) ∧
    ∀ result ∈ results, ∀ offense ∈ result.offenses, ':' ∉ result.file.toList →
      (IsVerbatimMarkup (offense.place result.file).toList ↔
        ¬ HasTag result.file.toList ∧ ¬ ['\\', '['] <:+: result.file.toList ∧
        (∀ char ∈ changedChars, char ∉ result.file.toList) ∧
        ∀ location, offense.location = some location →
          toString location.line ∉ Emoji.numerals) := by
  refine ⟨fun _ => tableReport_eq_ok_iff, drawnRows_shows _, fun row _ => ?_,
    fun result _ offense _ noColon => isVerbatimMarkup_place_iff noColon⟩
  exact ⟨fun place message => ⟨⟨_, shown_of_not_hasTag place⟩, _, shown_of_not_hasTag message⟩,
    expandTabs_shownText_eq_self_iff, printable_eq_self_iff, expandTabs_shownText_eq_self_iff⟩

/-- A file with brackets in its name, and an offense without a location. -/
def bracketedFile : Result where
  file := "[red]x.rb"
  offenses := [{ declaration := ⟨0, .call { method := "let" }⟩, name := "a" }]

/-- Its place is not shown as it stands, but its name is. -/
theorem tableReport_faithful_iff_bracketed :
    ∃ row, tableRows [bracketedFile] = [row] ∧ row.place = "[red]x.rb" ∧
      row.shownPlace ≠ row.place.toList ∧ row.shownName = row.name.toList := by
  obtain ⟨-, -, cells, places⟩ := tableReport_faithful_iff [bracketedFile]
  have rows : tableRows [bracketedFile] = [⟨"[red]x.rb", ":a", offenseMessage⟩] := by decide +kernel
  have tag : HasTag bracketedFile.file.toList :=
    ⟨"red".toList, ⟨rfl, by decide, by decide⟩, [], "x.rb".toList, rfl⟩
  have verbatim_iff := places bracketedFile List.mem_cons_self _ List.mem_cons_self (by decide)
  obtain ⟨-, place, name, -⟩ := cells _ (rows ▸ List.mem_cons_self)
  refine ⟨_, rows, rfl, fun same => ?_, name.mpr (List.all_iff_forall_prop.mp (by decide))⟩
  exact (verbatim_iff.mp (place.mp same)).1 tag

/-- **A part of a path can be lost:** between brackets it is taken for a tag. -/
theorem tableReport_not_faithful_bracketed :
    (tableRows [bracketedFile]).map TableRow.place = ["[red]x.rb"] ∧
      tableLines [bracketedFile] = .ok
        [ "       Overridden let Declarations       ",
          "┏━━━━━━━━━━┳━━━━━┳━━━━━━━━━━━━━━━━━━━━━━┓",
          "┃ Location ┃ Let ┃ Message              ┃",
          "┡━━━━━━━━━━╇━━━━━╇━━━━━━━━━━━━━━━━━━━━━━┩",
          "│ x.rb     │ :a  │ Do not override let. │",
          "└──────────┴─────┴──────────────────────┘" ] := by
  decide +kernel

end LetShadow
