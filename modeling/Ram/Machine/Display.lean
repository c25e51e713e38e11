import Ram.Machine.InPlace
import Ram.Table

/-!
# Machines as text

A machine is shown as a line about its state above a table of three columns: the program,
the registers and the tape.  Each of them is a table of its own.

The registers and the cells of the tape have a mark that says what the last step did with
them.  The accumulator is shown as the first register.  A step that reads the accumulator
marks its row as read, and then no other register is marked as read, even if the step read
one.  The same holds for writing.

A machine in place is shown in the same way, with as many rows as its bank has registers.
-/

namespace Ram

/-- What the last step did with a place of the memory. -/
structure Mark where
  /-- Whether it is shown as read. -/
  read : Bool
  /-- Whether it is shown as written. -/
  written : Bool
deriving DecidableEq, Repr

/-- The mark in words. -/
def Mark.text : Mark → String
  | ⟨true, true⟩ => "read, written"
  | ⟨true, false⟩ => "read"
  | ⟨false, true⟩ => "written"
  | ⟨false, false⟩ => ""

/-- A register or a cell of the tape as it is shown. -/
structure MemoryRow where
  /-- Its name. -/
  name : String
  /-- What it holds. -/
  value : Value
  /-- What the last step did with it. -/
  mark : Mark
deriving DecidableEq, Repr

namespace MemoryRow

/-- The rows for some values, where one index may be shown as read and one as written. -/
def ofValues (values : List Value) (name : Nat → String) (read written : Option Nat) :
    List MemoryRow :=
  values.mapIdx fun index value =>
    ⟨name index, value, ⟨read = some index, written = some index⟩⟩

/-- The cells of a row. -/
def cells (row : MemoryRow) : List Cell :=
  [.right (row.name ++ " ="), .left (Numeral.integer row.value.toInt), .left row.mark.text]

end MemoryRow

namespace Footprint

/-- The index of the register that is shown as touched, where 0 is the accumulator. -/
def shownRegister (footprint : Footprint) : Option Nat :=
  if footprint.accumulator then some 0 else footprint.register.map UInt64.toNat

end Footprint

namespace Machine

/-- The name of the register with the given index. -/
def registerName : Nat → String
  | 0 => "A"
  | number => "R" ++ Numeral.decimal number

/-- The name of the cell with the given address. -/
def cellName (address : Nat) : String := "T[" ++ Numeral.decimal address ++ "]"

/-- The registers as they are shown, the accumulator first. -/
def registerRows (machine : Machine) : List MemoryRow :=
  MemoryRow.ofValues machine.memory.registers registerName machine.trace.read.shownRegister
    machine.trace.changed.shownRegister

/-- The cells of the tape as they are shown. -/
def tapeRows (machine : Machine) : List MemoryRow :=
  MemoryRow.ofValues machine.memory.tape.toList cellName machine.trace.read.cell
    machine.trace.changed.cell

/-- The table of some registers or cells. -/
def memoryTable (title : String) (rows : List MemoryRow) : Table :=
  { titles := [.right title, .left "Value", .left ""]
    rows := rows.map MemoryRow.cells }

/-- The text in front of an instruction: its position, with an arrow if it comes next. -/
def lineMark (machine : Machine) (position : Nat) : String :=
  if !machine.halted && position = machine.programCounter then
    "* --> " ++ Numeral.decimal position
  else Numeral.decimal position

/-- The table of the program. -/
def programTable (machine : Machine) : Table :=
  { titles := [.right "Line", .left "Instruction"]
    rows := machine.program.instructions.mapIdx fun index instruction =>
      [.right (machine.lineMark (index + 1)), .left instruction.text] }

/-- The table of the whole machine, with the given rows for its registers. -/
def tableWith (machine : Machine) (registers : List MemoryRow) : Table :=
  { titles := [.left "Program", .left "Registers", .left "Tape"]
    rows := [[.left machine.programTable.text,
      .left (memoryTable "Register" registers).text,
      .left (memoryTable "Address" machine.tapeRows).text]] }

/-- The table of the whole machine. -/
def table (machine : Machine) : Table := machine.tableWith machine.registerRows

/-- The line about the state of the machine. -/
def status (machine : Machine) : String :=
  if machine.halted then
    match machine.lastError with
    | some error => "Halted. " ++ error.message
    | none => "Halted."
  else "Running at line #" ++ Numeral.decimal machine.programCounter ++ "."

/-- The machine as text. -/
def text (machine : Machine) : String := machine.status ++ "\n" ++ machine.table.text

end Machine

/-- The machine as text, with a row for each register of the bank. -/
def InPlace.text (machine : InPlace) : String :=
  let rest : Machine :=
    { memory := ⟨0, #[], machine.tape⟩
      program := machine.program
      programCounter := machine.programCounter
      halted := machine.halted
      trace := machine.trace
      lastError := machine.lastError }
  let registers := MemoryRow.ofValues machine.registers.toList Machine.registerName
    machine.trace.read.shownRegister machine.trace.changed.shownRegister
  rest.status ++ "\n" ++ (rest.tableWith registers).text

end Ram
