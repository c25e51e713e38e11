import Ram.Table
import Ram.Proofs.Text.Blank

/-!
# The lines of a table

The text of a table is a list of lines, each ended by a newline (`text_eq_unlines`).  A line is made
of columns (`line`), and no line holds a newline of its own, so the lines can be read back from the
text (`Clean.linesOf_text`).  That is what makes a table fit into a cell of another table: the lines
of the inner table stand in the lines of the outer one, in their order and padded at the end
(`getElem?_rowLines`).

Cells of one line are the other case.  They make a row of one line, which holds the texts of the
cells with spaces at one side (`rowLines_of_low`, `lineAt_left`, `lineAt_right`).
-/

namespace Ram

namespace Text

/-- Some lines as a text, each ended by a newline. -/
def unlines (lines : List String) : String := String.join (lines.map (· ++ "\n"))

/-- A number of spaces. -/
def blanks (count : Nat) : String := String.ofList (List.replicate count ' ')

/-- Whether a text can be a line: it holds no newline and does not end in a carriage return. -/
structure IsLine (text : String) : Prop where
  noNewline : '\n' ∉ text.toList
  noReturn : text.toList.getLast? ≠ some '\r'

theorem unlines_append (first second : List String) :
    unlines (first ++ second) = unlines first ++ unlines second := by
  simp [unlines]

theorem unlines_singleton (line : String) : unlines [line] = line ++ "\n" := by
  simp [unlines]

theorem newline_not_mem_blanks (count : Nat) : '\n' ∉ (blanks count).toList := by
  simp [blanks, List.mem_replicate]

end Text

open Text

/-! ## Reading lines back -/

namespace Cell

/-- A text without a newline is one line, and none if it is empty. -/
theorem linesOf_of_no_newline {text : String} (single : '\n' ∉ text.toList) :
    linesOf text = if text = "" then [] else [text] := by
  simp only [linesOf, List.splitOn_eq_singleton single]
  by_cases empty : text = ""
  · simp [empty]
  · simp [empty]

/-- A line that a newline ends is the first one. -/
theorem linesOf_append {line : String} (proper : IsLine line) (rest : String) :
    linesOf (line ++ "\n" ++ rest) = line :: linesOf rest := by
  have spelled : (line ++ "\n" ++ rest).toList = line.toList ++ '\n' :: rest.toList := by simp
  have kept : dropReturn line.toList = line.toList := if_neg proper.noReturn
  obtain ⟨first, others, pieces⟩ :=
    List.exists_cons_of_ne_nil (List.splitOn_ne_nil '\n' rest.toList)
  simp only [linesOf, spelled, List.splitOn_append_cons_self_of_not_mem proper.noNewline, pieces,
    List.dropLast_cons_cons, List.getLastD_cons, List.map_cons, kept]
  -- what follows the last newline is in `rest` in either case
  split
  next => rw [List.map_cons, String.ofList_toList]
  next => rw [List.cons_append, List.map_cons, String.ofList_toList]

/-- Lines that are put together and taken apart again are the same lines. -/
theorem linesOf_unlines : ∀ {lines : List String}, (∀ line ∈ lines, IsLine line) →
    linesOf (unlines lines) = lines
  | [], _ => rfl
  | line :: lines, proper => by
      obtain ⟨first, others⟩ := List.forall_mem_cons.mp proper
      have spelled : unlines (line :: lines) = line ++ "\n" ++ unlines lines := by simp [unlines]
      rw [spelled, linesOf_append first, linesOf_unlines others]

theorem newline_not_mem_of_mem_linesOf {text line : String} (member : line ∈ linesOf text) :
    '\n' ∉ line.toList := by
  have pieces {piece : List Char} (split : piece ∈ text.toList.splitOn '\n') : '\n' ∉ piece :=
    fun inside => (mem_of_mem_splitOn split '\n' inside).2 rfl
  have ended {piece : List Char} (split : piece ∈ (text.toList.splitOn '\n').dropLast) :
      '\n' ∉ dropReturn piece := by
    intro inside
    refine pieces (List.dropLast_subset _ split) ?_
    unfold dropReturn at inside
    split at inside
    next => exact List.dropLast_subset _ inside
    next => exact inside
  simp only [linesOf, List.mem_map] at member
  obtain ⟨piece, member, rfl⟩ := member
  rw [String.toList_ofList]
  split at member
  next =>
    obtain ⟨original, split, rfl⟩ := List.mem_map.mp member
    exact ended split
  next nonempty =>
    rcases List.mem_append.mp member with early | last
    · obtain ⟨original, split, rfl⟩ := List.mem_map.mp early
      exact ended split
    · have known : (text.toList.splitOn '\n').getLastD [] ∈ [] :: text.toList.splitOn '\n' :=
        List.getLastD_mem_cons
      rw [List.mem_singleton.mp last]
      exact pieces ((List.mem_cons.mp known).resolve_left nonempty)

end Cell

/-! ## The lines of a table -/

namespace Table

/-- A line of a table with the given columns. -/
def line (columns : List String) : String :=
  " " ++ "│".intercalate (columns.map fun column => " " ++ column ++ " ") ++ " "

/-- One line of a row in columns of the given widths. -/
def rowLine (widths : List Nat) (row : List Cell) (index : Nat) : String :=
  line (row.zipWith (fun cell width => cell.lineAt width index) widths)

/-- The lines of a row in columns of the given widths. -/
def rowLines (widths : List Nat) (row : List Cell) : List String :=
  (List.range ((row.map Cell.height).foldl max 1)).map (rowLine widths row)

/-- The line of a rule. -/
def ruleLine (widths : List Nat) (crossing : String) : String :=
  " " ++ crossing.intercalate (widths.map fun width => String.join (List.replicate (width + 2) "─"))
    ++ " "

/-- The lines of the text of a table. -/
def lines (table : Table) : List String :=
  rowLines table.columnWidths table.titles ++ [ruleLine table.columnWidths "┼"] ++
    table.rows.flatMap (rowLines table.columnWidths) ++ [ruleLine table.columnWidths "┴"]

theorem rowText_eq_unlines (widths : List Nat) (row : List Cell) :
    rowText widths row = unlines (rowLines widths row) := by
  have ends : " \n" = " " ++ "\n" := rfl
  simp only [rowText, unlines, rowLines, rowLine, line, List.map_map, List.map_zipWith,
    Function.comp_def, ends, String.append_assoc]

theorem rule_eq_unlines (widths : List Nat) (crossing : String) :
    rule widths crossing = unlines [ruleLine widths crossing] := by
  have ends : " \n" = " " ++ "\n" := rfl
  simp only [rule, unlines_singleton, ruleLine, ends, String.append_assoc]

/-- The text of a table is its lines, each ended by a newline. -/
theorem text_eq_unlines (table : Table) : table.text = unlines table.lines := by
  have rows (rows : List (List Cell)) :
      String.join (rows.map (rowText table.columnWidths)) =
        unlines (rows.flatMap (rowLines table.columnWidths)) := by
    induction rows with
    | nil => rfl
    | cons row rest hypothesis =>
        rw [List.map_cons, String.join_cons, List.flatMap_cons, unlines_append, hypothesis,
          rowText_eq_unlines]
  simp only [text, lines, unlines_append, rowText_eq_unlines, rule_eq_unlines, rows]

/-! ## Lines that are lines -/

theorem newline_not_mem_intercalate {mark : String} (noNewline : '\n' ∉ mark.toList) :
    ∀ {columns : List String}, (∀ column ∈ columns, '\n' ∉ column.toList) →
      '\n' ∉ (mark.intercalate columns).toList
  | [], _ => by simp
  | [column], clean => by simpa using clean
  | first :: second :: rest, clean => by
      obtain ⟨firstClean, others⟩ := List.forall_mem_cons.mp clean
      have later := newline_not_mem_intercalate noNewline others
      rw [String.intercalate_cons_cons, String.toList_append, String.toList_append]
      simp only [List.mem_append, not_or]
      exact ⟨⟨firstClean, noNewline⟩, later⟩

/-- What stands between two spaces is a line if it has no newline. -/
theorem isLine_between {inner : String} (clean : '\n' ∉ inner.toList) :
    IsLine (" " ++ inner ++ " ") := by
  refine ⟨by simpa using clean, ?_⟩
  rw [String.toList_append, List.getLast?_append]
  simp

/-- A line of cells without newlines is a line. -/
theorem isLine_line {columns : List String} (clean : ∀ column ∈ columns, '\n' ∉ column.toList) :
    IsLine (line columns) := by
  apply isLine_between
  apply newline_not_mem_intercalate (by decide)
  intro padded member
  obtain ⟨column, known, rfl⟩ := List.mem_map.mp member
  simpa using clean column known

theorem isLine_ruleLine (widths : List Nat) {crossing : String} (clean : '\n' ∉ crossing.toList) :
    IsLine (ruleLine widths crossing) := by
  apply isLine_between
  apply newline_not_mem_intercalate clean
  intro dashes member
  obtain ⟨width, _, rfl⟩ := List.mem_map.mp member
  rw [String.toList_join, List.mem_flatMap]
  rintro ⟨dash, known, inside⟩
  rw [(List.mem_replicate.mp known).2] at inside
  exact absurd inside (by decide)

end Table

/-- Whether no line of a cell holds a newline. -/
def Cell.Clean (cell : Cell) : Prop := ∀ line ∈ cell.lines, '\n' ∉ line.toList

namespace Cell

theorem clean_left (text : String) : (left text).Clean := fun _ => newline_not_mem_of_mem_linesOf

theorem clean_right (text : String) : (right text).Clean := fun _ => newline_not_mem_of_mem_linesOf

theorem Clean.lineAt {cell : Cell} (clean : cell.Clean) (width index : Nat) :
    '\n' ∉ (cell.lineAt width index).toList := by
  have inside : '\n' ∉ (cell.lines.getD index "").toList := by
    rw [List.getD_eq_getElem?_getD]
    cases found : cell.lines[index]? with
    | none => simp
    | some line => exact clean line (List.mem_of_getElem? found)
  have padding := newline_not_mem_blanks (width - shownWidth (cell.lines.getD index ""))
  unfold Cell.lineAt
  cases cell.side with
  | left =>
      rw [String.toList_append, List.mem_append, not_or]
      exact ⟨inside, padding⟩
  | right =>
      rw [String.toList_append, List.mem_append, not_or]
      exact ⟨padding, inside⟩

end Cell

namespace Table

/-- Whether no cell of a table holds a newline in one of its lines. -/
def Clean (table : Table) : Prop := ∀ row ∈ table.titles :: table.rows, ∀ cell ∈ row, cell.Clean

variable {table : Table}

theorem isLine_of_mem_rowLines {widths : List Nat} {row : List Cell}
    (clean : ∀ cell ∈ row, cell.Clean) {shown : String} (member : shown ∈ rowLines widths row) :
    IsLine shown := by
  obtain ⟨index, _, rfl⟩ := List.mem_map.mp member
  apply isLine_line
  intro column known
  rw [← List.map_uncurry_zip_eq_zipWith] at known
  obtain ⟨⟨cell, width⟩, paired, rfl⟩ := List.mem_map.mp known
  exact (clean cell (List.of_mem_zip paired).1).lineAt width index

theorem Clean.isLine (clean : table.Clean) {shown : String} (member : shown ∈ table.lines) :
    IsLine shown := by
  obtain ⟨titles, rows⟩ := List.forall_mem_cons.mp clean
  simp only [lines, List.mem_append, List.mem_singleton, List.mem_flatMap] at member
  rcases member with ((title | rfl) | ⟨row, known, inside⟩) | rfl
  · exact isLine_of_mem_rowLines titles title
  · exact isLine_ruleLine _ (by decide)
  · exact isLine_of_mem_rowLines (rows row known) inside
  · exact isLine_ruleLine _ (by decide)

/-- The lines of a table are read back from its text. -/
theorem Clean.linesOf_text (clean : table.Clean) : Cell.linesOf table.text = table.lines := by
  rw [text_eq_unlines]
  exact Cell.linesOf_unlines fun _ => clean.isLine

end Table

/-! ## Low rows and high rows -/

namespace Cell

/-- A text without a newline is one line at most. -/
theorem height_le_one {text : String} (single : '\n' ∉ text.toList) :
    (linesOf text).length ≤ 1 := by
  rw [linesOf_of_no_newline single]
  split <;> simp

theorem getD_linesOf {text : String} (single : '\n' ∉ text.toList) :
    (linesOf text).getD 0 "" = text := by
  rw [linesOf_of_no_newline single]
  split
  next empty => simp [empty]
  next => rfl

/-- A single line at the left of its column is followed by blanks. -/
theorem lineAt_left {text : String} (single : '\n' ∉ text.toList) (width : Nat) :
    (left text).lineAt width 0 = text ++ blanks (width - shownWidth text) := by
  simp only [Cell.lineAt, left, getD_linesOf single]
  rfl

theorem lineAt_left_of_getElem? {text line : String} {index : Nat}
    (found : (linesOf text)[index]? = some line) (width : Nat) :
    (left text).lineAt width index = line ++ blanks (width - shownWidth line) := by
  simp only [Cell.lineAt, left, List.getD_eq_getElem?_getD, found, Option.getD_some]
  rfl

/-- A single line at the right of its column comes after blanks. -/
theorem lineAt_right {text : String} (single : '\n' ∉ text.toList) (width : Nat) :
    (right text).lineAt width 0 = blanks (width - shownWidth text) ++ text := by
  simp only [Cell.lineAt, right, getD_linesOf single]
  rfl

end Cell

namespace Table

variable {table : Table} {widths : List Nat} {row : List Cell} {index : Nat}

/-- The highest is no higher than a bound exactly if none is. -/
theorem foldl_max_le_iff {bound : Nat} :
    ∀ {heights : List Nat} {start : Nat},
      heights.foldl max start ≤ bound ↔ start ≤ bound ∧ ∀ height ∈ heights, height ≤ bound
  | [], start => by simp
  | height :: heights, start => by
      rw [List.foldl_cons, foldl_max_le_iff, Nat.max_le, List.forall_mem_cons, and_assoc]

/-- Cells of one line at most make a row of one line. -/
theorem rowLines_of_low (low : ∀ cell ∈ row, cell.height ≤ 1) :
    rowLines widths row = [rowLine widths row 0] := by
  have height : (row.map Cell.height).foldl max 1 = 1 := by
    refine Nat.le_antisymm (foldl_max_le_iff.mpr ⟨Nat.le_refl 1, ?_⟩)
      (foldl_max_le_iff.mp (Nat.le_refl _)).1
    exact List.forall_mem_map.mpr low
  rw [rowLines, height]
  rfl

/-- A row has a line for every line of a cell. -/
theorem getElem?_rowLines {cell : Cell} (member : cell ∈ row) (inside : index < cell.height) :
    (rowLines widths row)[index]? = some (rowLine widths row index) := by
  have below := (foldl_max_le_iff.mp (Nat.le_refl ((row.map Cell.height).foldl max 1))).2
    cell.height (List.mem_map_of_mem member)
  rw [rowLines, List.getElem?_map, List.getElem?_range (by omega)]
  rfl

/-- A line of a row in a table of three columns. -/
theorem rowLine_of_three (three : table.titles.length = 3) (first second third : Cell) :
    rowLine table.columnWidths [first, second, third] index =
      line [first.lineAt (table.columnWidth 0) index, second.lineAt (table.columnWidth 1) index,
        third.lineAt (table.columnWidth 2) index] := by
  rw [rowLine, columnWidths, three]
  rfl

/-- Below titles of one line and the rule are the lines of the rows. -/
theorem getElem?_lines_of_low_titles (low : ∀ cell ∈ table.titles, cell.height ≤ 1)
    {shown : String}
    (found : (table.rows.flatMap (rowLines table.columnWidths))[index]? = some shown) :
    table.lines[index + 2]? = some shown := by
  rw [lines, rowLines_of_low low]
  exact (List.getElem?_append_left (List.getElem?_eq_some_iff.mp found).1).trans found

/-- Where all cells have one line at most, a row is the line with its index below the rule. -/
theorem getElem?_lines_of_low
    (low : ∀ row ∈ table.titles :: table.rows, ∀ cell ∈ row, cell.height ≤ 1)
    (found : table.rows[index]? = some row) :
    table.lines[index + 2]? = some (rowLine table.columnWidths row 0) := by
  obtain ⟨titles, rows⟩ := List.forall_mem_cons.mp low
  have flat : table.rows.flatMap (rowLines table.columnWidths) =
      table.rows.map (rowLine table.columnWidths · 0) := by
    rw [List.map_eq_flatMap]
    exact List.flatMap_congr fun row member => rowLines_of_low (rows row member)
  apply getElem?_lines_of_low_titles titles
  rw [flat, List.getElem?_map, found]
  rfl

end Table

end Ram
