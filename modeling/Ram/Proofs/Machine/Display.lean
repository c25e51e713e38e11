import Ram.Machine.Display
import Ram.Proofs.Machine.WriteSet
import Ram.Proofs.Numeral
import Ram.Proofs.Table

/-!
# What the text of a machine shows

The text of a machine has a line for every register and one for every cell of the tape, with a mark
that says what the last step did there.  `Machine.ShowsTrace` says which marks these are.

*Lines.*  The table of the registers is a cell of the table of the machine.  Its rows have one line
each, so the row with a given index stands that many lines below the titles and the rule of the
machine's table and those of its own (`showsRegister_of_registerRows`).  The same holds for the tape
(`showsCell_of_tapeRows`).

*Marks.*  The accumulator is shown as the first register, and one register at most is shown as read
and one as written.  Of a step that reads the accumulator and a register, only the accumulator is
shown as read.  For writing there is no such case, since a step writes one place at most
(`Reachable.single_changed`).
-/

namespace Ram

open Text

/-! ## Texts of one line -/

namespace Numeral

theorem not_mem_decimal {c : Char} (other : c.isDigit = false) (n : Nat) :
    c ∉ (decimal n).toList := by
  rw [toList_decimal]
  intro member
  rw [isDigit_of_mem_toDigits member] at other
  cases other

theorem not_mem_integer {c : Char} (other : c.isDigit = false) (unsigned : c ≠ '-') (n : Int) :
    c ∉ (integer n).toList := by
  cases n with
  | ofNat n => exact not_mem_decimal other n
  | negSucc n => simpa [integer, unsigned] using not_mem_decimal other (n + 1)

end Numeral

theorem Mark.newline_not_mem_text (mark : Mark) : '\n' ∉ mark.text.toList := by
  obtain ⟨_ | _, _ | _⟩ := mark <;> decide

theorem Mark.bar_not_mem_text (mark : Mark) : '│' ∉ mark.text.toList := by
  obtain ⟨_ | _, _ | _⟩ := mark <;> decide

/-- A mark can be read off the letters of its text. -/
theorem Mark.eq_of_filter {first second : Mark}
    (letters : first.text.toList.filter (· ≠ ' ') = second.text.toList.filter (· ≠ ' ')) :
    first = second := by
  revert letters
  obtain ⟨_ | _, _ | _⟩ := first <;> obtain ⟨_ | _, _ | _⟩ := second <;> decide

/-! ## Rows -/

namespace MemoryRow

/-- Whether a column shows a register or a cell of the tape: its name, its value and its mark. -/
def ShownIn (row : MemoryRow) (column : String) : Prop :=
  ∃ before behind after rest, column =
    Table.line [blanks before ++ (row.name ++ " ="),
      Numeral.integer row.value.toInt ++ blanks behind, row.mark.text ++ blanks after] ++
        blanks rest

variable {row : MemoryRow}

theorem height_of_mem_cells (named : '\n' ∉ row.name.toList) :
    ∀ cell ∈ row.cells, cell.height ≤ 1 := by
  have name : '\n' ∉ (row.name ++ " =").toList := by simpa using named
  simp only [cells, List.forall_mem_cons]
  exact ⟨Cell.height_le_one name,
    Cell.height_le_one (Numeral.not_mem_integer (by decide) (by decide) _),
    Cell.height_le_one row.mark.newline_not_mem_text, nofun⟩

theorem getElem?_ofValues {values : List Value} {name : Nat → String} {read written : Option Nat}
    {index : Nat} {value : Value} (found : values[index]? = some value) :
    (ofValues values name read written)[index]? =
      some ⟨name index, value, ⟨read = some index, written = some index⟩⟩ := by
  rw [ofValues, List.getElem?_mapIdx, found]
  rfl

theorem newline_not_mem_name {values : List Value} {name : Nat → String} {read written : Option Nat}
    (clean : ∀ index, '\n' ∉ (name index).toList) :
    ∀ row ∈ ofValues values name read written, '\n' ∉ row.name.toList := by
  intro row member
  obtain ⟨index, _, rfl⟩ := List.mem_mapIdx.mp member
  exact clean index

theorem clean_of_mem_cells (row : MemoryRow) : ∀ cell ∈ row.cells, cell.Clean := by
  simp only [cells, List.forall_mem_cons]
  exact ⟨Cell.clean_right _, Cell.clean_left _, Cell.clean_left _, nofun⟩

/-- In a line with a row in its second column, the mark stands between the second and the third bar
behind the first column. -/
theorem ShownIn.toList_line {column : String} (shown : row.ShownIn column)
    (named : '│' ∉ row.name.toList) (first third : String) :
    ∃ name value mark rest,
      (Table.line [first, column, third]).toList =
        ("  " ++ first ++ " │").toList ++ (name ++ '│' :: (value ++ '│' :: (mark ++ '│' :: rest))) ∧
      '│' ∉ name ∧ '│' ∉ value ∧ '│' ∉ mark ∧
      mark.filter (· ≠ ' ') = row.mark.text.toList.filter (· ≠ ' ') := by
  obtain ⟨before, behind, after, rest, rfl⟩ := shown
  have digits : '│' ∉ (Numeral.integer row.value.toInt).toList :=
    Numeral.not_mem_integer (by decide) (by decide) _
  refine ⟨("   " ++ blanks before ++ row.name ++ " = ").toList,
    (" " ++ Numeral.integer row.value.toInt ++ blanks behind ++ " ").toList,
    (" " ++ row.mark.text ++ blanks after ++ "  " ++ blanks rest ++ " ").toList,
    (" " ++ third ++ "  ").toList, ?_, ?_, ?_, ?_, ?_⟩
  · simp [Table.line, String.intercalate_cons_cons]
  · simp [blanks, named]
  · simp [blanks, digits]
  · simp [blanks, row.mark.bar_not_mem_text]
  · simp [blanks]

end MemoryRow

namespace Machine

theorem clean_memoryTable (title : String) (rows : List MemoryRow) :
    (memoryTable title rows).Clean := by
  simp only [Table.Clean, memoryTable, List.forall_mem_cons, List.forall_mem_map]
  exact ⟨⟨Cell.clean_right _, Cell.clean_left _, Cell.clean_left _, nofun⟩,
    fun row _ => row.clean_of_mem_cells⟩

/-- The row with a given index stands below the titles and their rule. -/
theorem exists_line_of_memoryTable {title : String} (titled : '\n' ∉ title.toList)
    {rows : List MemoryRow} (named : ∀ row ∈ rows, '\n' ∉ row.name.toList) {index : Nat}
    {row : MemoryRow} (found : rows[index]? = some row) :
    ∃ shown, (memoryTable title rows).lines[index + 2]? = some shown ∧
      ∀ rest, row.ShownIn (shown ++ blanks rest) := by
  have low : ∀ row ∈ (memoryTable title rows).titles :: (memoryTable title rows).rows,
      ∀ cell ∈ row, cell.height ≤ 1 := by
    simp only [memoryTable, List.forall_mem_cons, List.forall_mem_map]
    refine ⟨⟨Cell.height_le_one titled, Cell.height_le_one (by decide),
      Cell.height_le_one (by decide), nofun⟩, fun row member => ?_⟩
    exact row.height_of_mem_cells (named row member)
  have there : (memoryTable title rows).rows[index]? = some row.cells := by
    rw [memoryTable, List.getElem?_map, found]
    rfl
  refine ⟨_, Table.getElem?_lines_of_low low there, fun rest => ?_⟩
  have name : '\n' ∉ (row.name ++ " =").toList := by
    simpa using named row (List.mem_of_getElem? found)
  rw [MemoryRow.cells, Table.rowLine_of_three rfl, Cell.lineAt_right name,
    Cell.lineAt_left (Numeral.not_mem_integer (by decide) (by decide) _),
    Cell.lineAt_left row.mark.newline_not_mem_text]
  exact ⟨_, _, _, rest, rfl⟩

variable {machine : Machine} {index : Nat} {row : MemoryRow}

/-! ## The lines of a machine -/

theorem clean_table (machine : Machine) : machine.table.Clean := by
  simp only [Table.Clean, table, tableWith, List.forall_mem_cons]
  exact ⟨⟨Cell.clean_left _, Cell.clean_left _, Cell.clean_left _, nofun⟩,
    ⟨Cell.clean_left _, Cell.clean_left _, Cell.clean_left _, nofun⟩, nofun⟩

/-- A line of the first column of a machine's table, which is for the program. -/
def programColumn (machine : Machine) (index : Nat) : String :=
  (Cell.left machine.programTable.text).lineAt (machine.table.columnWidth 0) index

/-- Whether some lines show a register with a given index in the second column. -/
def ShowsRegister (machine : Machine) (lines : List String) (index : Nat) (row : MemoryRow) :
    Prop :=
  ∃ register tape, row.ShownIn register ∧
    lines[index + 4]? = some (Table.line [machine.programColumn (index + 2), register, tape])

/-- Whether some lines show a cell with a given address in the third column. -/
def ShowsCell (machine : Machine) (lines : List String) (address : Nat) (row : MemoryRow) :
    Prop :=
  ∃ register tape, row.ShownIn tape ∧
    lines[address + 4]? = some (Table.line [machine.programColumn (address + 2), register, tape])

/-- Below the titles is a line for every line of a cell. -/
theorem getElem?_lines_table {cells : List Cell} (single : machine.table.rows = [cells])
    {text line : String} (member : .left text ∈ cells)
    (found : (Cell.linesOf text)[index]? = some line) :
    machine.table.lines[index + 2]? =
      some (Table.rowLine machine.table.columnWidths cells index) := by
  have low : ∀ cell ∈ machine.table.titles, cell.height ≤ 1 := by
    simp only [table, tableWith, List.forall_mem_cons]
    exact ⟨Cell.height_le_one (by decide), Cell.height_le_one (by decide),
      Cell.height_le_one (by decide), nofun⟩
  apply Table.getElem?_lines_of_low_titles low
  rw [single, List.flatMap_singleton]
  exact Table.getElem?_rowLines member (List.getElem?_eq_some_iff.mp found).1

/-- The rows of a table that is a cell of the machine's table stand below both titles. -/
theorem shown_of_memoryTable {title : String} (titled : '\n' ∉ title.toList)
    {rows : List MemoryRow} (named : ∀ row ∈ rows, '\n' ∉ row.name.toList)
    (found : rows[index]? = some row) {cells : List Cell} (single : machine.table.rows = [cells])
    (member : .left (memoryTable title rows).text ∈ cells) :
    machine.table.lines[index + 4]? =
        some (Table.rowLine machine.table.columnWidths cells (index + 2)) ∧
      ∀ width,
        row.ShownIn ((Cell.left (memoryTable title rows).text).lineAt width (index + 2)) := by
  obtain ⟨shown, there, shows⟩ := exists_line_of_memoryTable titled named found
  rw [← (clean_memoryTable title rows).linesOf_text] at there
  refine ⟨getElem?_lines_table single member there, fun width => ?_⟩
  rw [Cell.lineAt_left_of_getElem? there]
  exact shows _

theorem registerName_of_pos {number : Nat} (positive : 0 < number) :
    registerName number = "R" ++ Numeral.decimal number := by
  cases number with
  | zero => cases positive
  | succ number => rfl

theorem newline_not_mem_registerName : ∀ index, '\n' ∉ (registerName index).toList
  | 0 => by decide
  | number + 1 => by simpa [registerName] using Numeral.not_mem_decimal (by decide) (number + 1)

theorem newline_not_mem_cellName (address : Nat) : '\n' ∉ (cellName address).toList := by
  simpa [cellName] using Numeral.not_mem_decimal (by decide) address

/-- The table shows each row of the registers. -/
theorem showsRegister_of_registerRows (found : machine.registerRows[index]? = some row) :
    machine.ShowsRegister machine.table.lines index row := by
  have named : ∀ row ∈ machine.registerRows, '\n' ∉ row.name.toList :=
    MemoryRow.newline_not_mem_name newline_not_mem_registerName
  obtain ⟨line, shown⟩ := shown_of_memoryTable (by decide) named found rfl (.tail _ (.head _))
  rw [Table.rowLine_of_three rfl] at line
  exact ⟨_, _, shown _, line⟩

/-- The table shows each row of the tape. -/
theorem showsCell_of_tapeRows (found : machine.tapeRows[index]? = some row) :
    machine.ShowsCell machine.table.lines index row := by
  have named : ∀ row ∈ machine.tapeRows, '\n' ∉ row.name.toList :=
    MemoryRow.newline_not_mem_name newline_not_mem_cellName
  obtain ⟨line, shown⟩ :=
    shown_of_memoryTable (by decide) named found rfl (.tail _ (.tail _ (.head _)))
  rw [Table.rowLine_of_three rfl] at line
  exact ⟨_, _, shown _, line⟩

/-- Two rows that the same line shows in the second column have the same mark. -/
theorem ShowsRegister.mark_eq {lines : List String} {first second : MemoryRow}
    (one : machine.ShowsRegister lines index first)
    (other : machine.ShowsRegister lines index second)
    (named : '│' ∉ first.name.toList) (alsoNamed : '│' ∉ second.name.toList) :
    first.mark = second.mark := by
  obtain ⟨_, tape, shown, found⟩ := one
  obtain ⟨_, otherTape, alsoShown, alsoFound⟩ := other
  obtain ⟨_, _, mark, _, spelled, one, two, three, letters⟩ :=
    shown.toList_line named (machine.programColumn (index + 2)) tape
  obtain ⟨_, _, otherMark, _, alsoSpelled, alsoOne, alsoTwo, alsoThree, alsoLetters⟩ :=
    alsoShown.toList_line alsoNamed (machine.programColumn (index + 2)) otherTape
  have same := congrArg String.toList (Option.some.inj (found.symm.trans alsoFound))
  rw [spelled, alsoSpelled, List.append_cancel_left_eq] at same
  have pieces := congrArg (List.splitOn '│') same
  simp only [List.splitOn_append_cons_self_of_not_mem, one, two, three, alsoOne, alsoTwo, alsoThree,
    not_false_eq_true, List.cons.injEq] at pieces
  obtain ⟨_, _, sameMark, _⟩ := pieces
  apply Mark.eq_of_filter
  rw [← letters, ← alsoLetters, sameMark]

/-- The text of a machine is a line about its state and the lines of its table. -/
theorem text_eq_unlines (machine : Machine) :
    machine.text = machine.status ++ "\n" ++ unlines machine.table.lines := by
  rw [text, Table.text_eq_unlines]

/-- There is one way to read the text of a machine as lines below its status. -/
theorem eq_lines_of_text {lines : List String} (proper : ∀ line ∈ lines, IsLine line)
    (same : machine.text = machine.status ++ "\n" ++ unlines lines) :
    lines = machine.table.lines := by
  rw [text_eq_unlines] at same
  have below : unlines machine.table.lines = unlines lines := (String.append_right_inj _).mp same
  rw [← Cell.linesOf_unlines proper, ← below,
    Cell.linesOf_unlines fun _ => machine.clean_table.isLine]

/-! ## Marks -/

/-- No command makes a machine show two places as changed. -/
theorem single_changed_apply (single : machine.trace.changed.Single) (command : Command) :
    (machine.apply command).1.trace.changed.Single := by
  cases command with
  | step => exact single_changed_step machine
  | run budget =>
      have kept (machine : Machine) (_ : machine.trace.changed.Single) :
          machine.step.1.trace.changed.Single := single_changed_step machine
      exact run_induction kept budget single
  | reset => exact Footprint.single_empty
  | setProgram program => exact single
  | setAccumulator value => exact single
  | setRegister number value =>
      simp only [apply, setRegister]
      split <;> exact single
  | setTape address value =>
      simp only [apply, setTape]
      split <;> exact single

/-- A machine shows one place at most as changed, whatever was done with it. -/
theorem Reachable.single_changed (reachable : machine.Reachable) :
    machine.trace.changed.Single := by
  obtain ⟨_, _, commands, _, rfl⟩ := reachable
  have kept (machine : Machine) (command : Command) (_ : command ∈ commands)
      (single : machine.trace.changed.Single) : (machine.apply command).1.trace.changed.Single :=
    single_changed_apply single command
  exact applyAll_induction kept Footprint.single_empty

end Machine

namespace Footprint

variable {footprint : Footprint}

/-- The accumulator is shown exactly if it is touched, since no register has the number 0. -/
theorem shownRegister_eq_zero_iff {tapeLength registerCount : Nat}
    (within : footprint.Within tapeLength registerCount) :
    footprint.shownRegister = some 0 ↔ footprint.accumulator = true := by
  unfold shownRegister
  cases footprint.accumulator with
  | true => simp
  | false =>
      simp only [Bool.false_eq_true, if_false, Option.map_eq_some_iff, iff_false]
      rintro ⟨number, named, zero⟩
      have positive := (within.register number named).1
      omega

/-- A general register is shown as touched only if the accumulator is not. -/
theorem shownRegister_eq_some_iff {number : RegisterNumber} (general : number ≠ 0) :
    footprint.shownRegister = some number.toNat ↔
      footprint.accumulator = false ∧ footprint.register = some number := by
  unfold shownRegister
  cases footprint.accumulator with
  | true =>
      -- the row of the accumulator is taken for the one that is touched
      have positive := Memory.toNat_pos general
      simp only [if_true, Option.some.injEq, Bool.true_eq_false, false_and, iff_false]
      omega
  | false => simp [UInt64.toNat_inj]

/-- Where one place is touched at most, a register is shown exactly if it is the one. -/
theorem Single.shownRegister_eq_some_iff (single : footprint.Single) {number : RegisterNumber}
    (general : number ≠ 0) :
    footprint.shownRegister = some number.toNat ↔ footprint.register = some number := by
  rw [Footprint.shownRegister_eq_some_iff general, and_iff_right_iff_imp]
  intro named
  refine Bool.eq_false_iff.mpr fun accumulator => ?_
  rw [single.register accumulator] at named
  cases named

end Footprint

namespace Machine

/-- Whether some lines of a machine's table show the registers and the tape with marks for what the
last step did. -/
structure ShowsTrace (machine : Machine) (lines : List String) : Prop where
  /-- The accumulator is marked as its part of the trace says. -/
  accumulator : machine.ShowsRegister lines 0 ⟨"A", machine.memory.accumulator,
    ⟨machine.trace.read.accumulator, machine.trace.changed.accumulator⟩⟩
  /-- A register is marked as written as the trace says.  It is marked as read only if the
  accumulator was not read. -/
  register : ∀ number value, number ≠ 0 → machine.memory.register? number = some value →
    machine.ShowsRegister lines number.toNat ⟨"R" ++ Numeral.decimal number.toNat, value,
      ⟨machine.trace.read.accumulator = false ∧ machine.trace.read.register = some number,
        machine.trace.changed.register = some number⟩⟩
  /-- A cell of the tape is marked as the trace says. -/
  cell : ∀ address value, machine.memory.cell? address = some value →
    machine.ShowsCell lines address ⟨"T[" ++ Numeral.decimal address ++ "]", value,
      ⟨machine.trace.read.cell = some address, machine.trace.changed.cell = some address⟩⟩

/-- The text of a machine is a line about its state and the lines of a table, and the table marks
what the last step touched.  Only the mark of a register that was read together with the accumulator
is missing. -/
theorem text_showsTrace {machine : Machine} (reachable : machine.Reachable) :
    ∃ lines, machine.text = machine.status ++ "\n" ++ unlines lines ∧
      (∀ line ∈ lines, IsLine line) ∧ machine.ShowsTrace lines := by
  obtain ⟨tapeLength, registerCount, consistent⟩ := reachable.consistent
  refine ⟨machine.table.lines, machine.text_eq_unlines, fun _ => machine.clean_table.isLine, ?_⟩
  refine ⟨?_, fun number value general holds => ?_, fun address value holds => ?_⟩
  · apply showsRegister_of_registerRows
    have holds : machine.memory.registers[0]? = some machine.memory.accumulator := rfl
    rw [registerRows, MemoryRow.getElem?_ofValues holds]
    simp only [Footprint.shownRegister_eq_zero_iff consistent.read,
      Footprint.shownRegister_eq_zero_iff consistent.changed, Bool.decide_eq_true]
    rfl
  · apply showsRegister_of_registerRows
    rw [← Memory.getElem?_registers] at holds
    have read : machine.trace.read.shownRegister = some number.toNat ↔ _ :=
      Footprint.shownRegister_eq_some_iff general
    have written := reachable.single_changed.shownRegister_eq_some_iff general
    rw [registerRows, MemoryRow.getElem?_ofValues holds,
      registerName_of_pos (Memory.toNat_pos general)]
    simp only [read, written]
  · apply showsCell_of_tapeRows
    rw [Memory.cell?, ← Array.getElem?_toList] at holds
    rw [tapeRows, MemoryRow.getElem?_ofValues holds]
    rfl

/-- The last of three steps writes the accumulator to the cell whose address is in a register.  It
reads the register and the accumulator. -/
theorem text_showsTrace_write :
    let program : Program := ⟨[⟨.add, [], [.literal 2], rfl⟩, ⟨.store, [], [.register 1], rfl⟩,
      ⟨.write, [], [.register 1], rfl⟩]⟩
    let machine := (applyAll { memory := .zero 3 2 } [.setProgram program, .run 3]).1
    machine.Reachable ∧ machine.trace = ⟨⟨true, some 1, none⟩, ⟨false, none, some 2⟩⟩ ∧
      ∃ lines, machine.text = machine.status ++ "\n" ++ unlines lines ∧
        (∀ line ∈ lines, IsLine line) ∧ machine.ShowsTrace lines := by
  intro program machine
  have reachable : machine.Reachable := ⟨3, 2, _, by decide, rfl⟩
  exact ⟨reachable, by decide, text_showsTrace reachable⟩

/-- The mark of a register that is read is not always there: `ADD R1` reads the accumulator too, and
only that is shown. -/
theorem not_forall_mark_read :
    ¬ ∀ machine : Machine, machine.Reachable →
      ∃ lines, machine.text = machine.status ++ "\n" ++ unlines lines ∧
        (∀ line ∈ lines, IsLine line) ∧
        ∀ number value, number ≠ 0 → machine.memory.register? number = some value →
          ∃ written, machine.ShowsRegister lines number.toNat
            ⟨"R" ++ Numeral.decimal number.toNat, value,
              ⟨machine.trace.read.register = some number, written⟩⟩ := by
  intro claimed
  let program : Program := ⟨[⟨.add, [], [.register 1], rfl⟩, ⟨.halt, [], [], rfl⟩]⟩
  let machine := (applyAll { memory := .zero 1 1 } [.setProgram program, .step]).1
  have reachable : machine.Reachable := ⟨1, 1, _, by decide, rfl⟩
  obtain ⟨lines, same, proper, shows⟩ := claimed machine reachable
  obtain rfl := eq_lines_of_text proper same
  have row : machine.registerRows[1]? = some ⟨"R1", 0, ⟨false, false⟩⟩ := by decide
  have unmarked := showsRegister_of_registerRows row
  obtain ⟨written, marked⟩ := shows 1 0 (by decide) (by decide)
  have named : '│' ∉ ("R" ++ Numeral.decimal (1 : RegisterNumber).toNat).toList := by decide
  have read : false = decide (machine.trace.read.register = some 1) :=
    congrArg Mark.read (unmarked.mark_eq marked (by decide) named)
  exact absurd read (by decide)

end Machine

end Ram
