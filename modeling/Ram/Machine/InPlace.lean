import Ram.Machine.Command

/-!
# Machines in place

In the memory of a computer a machine is a bank of registers, the first of which is the
accumulator, and a tape.  An instruction works on them in place.  It reads, writes and marks
what it touched as it goes, and where it fails it breaks off and leaves everything as it is
then.  An `InPlace` is a machine of this kind, and a `Work` is what changes one.

The accumulator is taken out of the bank without a check, so a bank without registers makes
the work that needs the accumulator crash, and the whole program with it.  There is such a
bank.  Sizes are words of 64 bits, a bank has one register more than the machine has general
ones, and the sum wraps around.

A tape and a bank are blocks of memory, and no block is larger than half of what can be
addressed.  Asking for a larger one is a crash, too.
-/

namespace Ram

/-- What breaks off a work. -/
inductive Stop where
  /-- An instruction ends in a fault. -/
  | fault (fault : Fault)
  /-- The first register is taken out of a bank that has none. -/
  | crash
deriving DecidableEq, Repr

/-- A machine as it is in the memory of a computer. -/
structure InPlace where
  /-- The bank, the accumulator first. -/
  registers : Array Value
  /-- The cells of the tape. -/
  tape : Array Value
  /-- The program. -/
  program : Program := {}
  /-- The position of the instruction that comes next. -/
  programCounter : Nat := 1
  /-- Whether the machine is halted. -/
  halted : Bool := false
  /-- What the last step touched. -/
  trace : Trace := {}
  /-- The error that halted the machine. -/
  lastError : Option ExecutionError := none
deriving DecidableEq

/-- A computation that changes a machine in place and may break off. -/
abbrev Work (α : Type) := ExceptT Stop (StateM InPlace) α

/-- What comes of a work, and the machine as it leaves it. -/
def Work.on {α : Type} (work : Work α) (machine : InPlace) : Except Stop α × InPlace :=
  Id.run (work.run.run machine)

namespace InPlace

/-! ## Making -/

/-- The largest number of words in one block of memory. -/
def maxCells : Nat := 0xFFFFFFFFFFFFFFF

/-- What comes of making a machine. -/
inductive Creation where
  /-- The machine is made. -/
  | made (machine : InPlace)
  /-- The sizes are refused. -/
  | refused (error : MachineError)
  /-- One of the blocks would be too large. -/
  | crash
deriving DecidableEq

/-- Makes a machine with nothing but zeros in its memory and no program.  The number of
registers in the bank is the sum of two words and wraps around. -/
def create (tapeLength registerCount : UInt64) : Creation :=
  if registerCount < 1 then .refused .noRegisters
  else if maxCells < tapeLength.toNat then .crash
  else if maxCells < (registerCount + 1).toNat then .crash
  else
    .made
      { registers := Array.replicate (registerCount + 1).toNat 0
        tape := Array.replicate tapeLength.toNat 0 }

/-! ## Access to the memory -/

/-- Marks places as read. -/
def markRead (footprint : Footprint) : Work Unit :=
  modify fun machine =>
    { machine with trace := { machine.trace with read := machine.trace.read.merge footprint } }

/-- Marks places as changed. -/
def markChanged (footprint : Footprint) : Work Unit :=
  modify fun machine =>
    { machine with
      trace := { machine.trace with changed := machine.trace.changed.merge footprint } }

/-- Reads the accumulator. -/
def readAccumulator : Work Value := do
  markRead .ofAccumulator
  match (← get).registers[0]? with
  | some value => return value
  | none => throw .crash

/-- Writes the accumulator. -/
def writeAccumulator (value : Value) : Work Unit := do
  markChanged .ofAccumulator
  if (← get).registers.size = 0 then throw .crash
  else modify fun machine => { machine with registers := machine.registers.setIfInBounds 0 value }

/-- Reads a register. -/
def readRegister (number : RegisterNumber) : Work Value := do
  match (← get).registers[number.toNat]? with
  | some value =>
    markRead (.ofRegister number)
    return value
  | none => throw (.fault (.registerOutOfBounds number))

/-- Writes a register. -/
def writeRegister (number : RegisterNumber) (value : Value) : Work Unit := do
  if (← get).registers.size ≤ number.toNat then throw (.fault (.registerOutOfBounds number))
  else
    modify fun machine =>
      { machine with registers := machine.registers.setIfInBounds number.toNat value }
    markChanged (.ofRegister number)

/-- Reads a cell. -/
def readCell (address : Nat) : Work Value := do
  match (← get).tape[address]? with
  | some value =>
    markRead (.ofCell address)
    return value
  | none => throw (.fault (.tapeReadOutOfBounds address))

/-- Writes a cell. -/
def writeCell (address : Nat) (value : Value) : Work Unit := do
  if (← get).tape.size ≤ address then throw (.fault (.tapeWriteOutOfBounds address))
  else
    modify fun machine => { machine with tape := machine.tape.setIfInBounds address value }
    markChanged (.ofCell address)

/-! ## The instructions -/

/-- The value of a literal, or of the register that is named. -/
def operand : Option Argument → Work Value
  | some (.register number) => readRegister number
  | some argument =>
    match argument.value? with
    | some value => return value
    | none => throw (.fault .malformedInstruction)
  | none => throw (.fault .malformedInstruction)

/-- The address that an operand stands for. -/
def address (argument : Option Argument) : Work Nat := do
  let value ← operand argument
  if value < 0 then throw (.fault (.invalidAddress value)) else return value.toNatClampNeg

/-- The register that an argument names. -/
def register : Option Argument → Work RegisterNumber
  | some (.register number) => return number
  | _ => throw (.fault .malformedInstruction)

/-- The jump to the target that an argument names.  The position right after the last
instruction is a target too. -/
def jump (argument : Option Argument) : Work Flow := do
  match argument.bind Argument.position? with
  | none => throw (.fault .malformedInstruction)
  | some target =>
    if target = 0 ∨ (← get).program.length + 1 < target then
      throw (.fault (.invalidJumpTarget target))
    else return .jump target

/-- Carries out an instruction, and says how control moves. -/
def execute (mnemonic : Mnemonic) (argument : Option Argument) : Work Flow := do
  match mnemonic with
  | .nop => return .next
  | .add =>
    let operand ← operand argument
    let accumulator ← readAccumulator
    writeAccumulator (accumulator + operand)
    return .next
  | .sub =>
    let operand ← operand argument
    let accumulator ← readAccumulator
    writeAccumulator (accumulator - operand)
    return .next
  | .half =>
    let accumulator ← readAccumulator
    writeAccumulator (accumulator / 2)
    return .next
  | .load =>
    let number ← register argument
    let value ← readRegister number
    writeAccumulator value
    return .next
  | .store =>
    let accumulator ← readAccumulator
    let number ← register argument
    writeRegister number accumulator
    return .next
  | .read =>
    let address ← address argument
    let value ← readCell address
    writeAccumulator value
    return .next
  | .write =>
    let address ← address argument
    let accumulator ← readAccumulator
    writeCell address accumulator
    return .next
  | .jzero =>
    let accumulator ← readAccumulator
    if accumulator = 0 then jump argument else return .next
  | .jpos =>
    let accumulator ← readAccumulator
    if 0 < accumulator then jump argument else return .next
  | .jump => jump argument
  | .halt => return .halt

/-! ## Steps -/

/-- The machine with nothing shown as touched. -/
def clear (machine : InPlace) : InPlace := { machine with trace := {} }

/-- The machine halted. -/
def halt (machine : InPlace) : InPlace :=
  { machine with halted := true, programCounter := 1 }

/-- The machine with control at a position, or halted if the program ends before it. -/
def proceed (machine : InPlace) (position : Nat) : InPlace × Outcome :=
  if machine.program.length < position then (machine.halt, .halted)
  else ({ machine with programCounter := position }, .executed)

/-- The machine after control has moved. -/
def follow (machine : InPlace) : Flow → InPlace × Outcome
  | .next => machine.proceed (machine.programCounter + 1)
  | .jump target => machine.proceed target
  | .halt => (machine.halt, .halted)

/-- The machine halted by an error. -/
def fail (machine : InPlace) (error : ExecutionError) : InPlace × Outcome :=
  ({ machine.halt with lastError := some error }, .faulted error)

/-- The machine after one step, and what came of it, unless the step crashes. -/
def step (machine : InPlace) : Option (InPlace × Outcome) :=
  let cleared := machine.clear
  if cleared.halted then some (cleared, .idle)
  else
    match cleared.program.get? cleared.programCounter with
    | none => some (cleared.halt, .halted)
    | some instruction =>
      match (execute instruction.mnemonic (instruction.argument? 0)).on cleared with
      | (.ok flow, after) => some (after.follow flow)
      | (.error (.fault fault), after) =>
        some (after.fail ⟨instruction.mnemonic, cleared.programCounter, fault⟩)
      | (.error .crash, _) => none

/-- The machine after it has stepped until it halts, at most as often as the number says,
and the number of steps, counted on from those that were made before. -/
def runFrom (machine : InPlace) (made : Nat) : Nat → Option (InPlace × Nat)
  | 0 => some (machine, made)
  | budget + 1 =>
    if machine.halted then some (machine, made)
    else do
      let (next, _) ← machine.step
      next.runFrom (made + 1) budget

/-! ## Commands -/

/-- The machine at the first instruction of its program, with zeros in its registers. -/
def reset (machine : InPlace) : InPlace :=
  { registers := machine.registers.map fun _ => 0
    tape := machine.tape
    program := machine.program }

/-- The machine with another value in the accumulator, unless there is none. -/
def setAccumulator (machine : InPlace) (value : Value) : Option InPlace :=
  if machine.registers.size = 0 then none
  else some { machine with registers := machine.registers.setIfInBounds 0 value }

/-- The machine with another value in a register. -/
def setRegister (machine : InPlace) (number : RegisterNumber) (value : Value) :
    Except MachineError InPlace :=
  if machine.registers.size ≤ number.toNat then .error (.registerOutOfRange number)
  else .ok { machine with registers := machine.registers.setIfInBounds number.toNat value }

/-- The machine with another value in a cell of the tape. -/
def setTape (machine : InPlace) (address : Nat) (value : Value) : Except MachineError InPlace :=
  if machine.tape.size ≤ address then .error (.tapeAddressOutOfRange address)
  else .ok { machine with tape := machine.tape.setIfInBounds address value }

/-- The machine after an edit, or as it was if the edit is refused. -/
def edited (machine : InPlace) : Except MachineError InPlace → InPlace × Reply
  | .ok next => (next, .done)
  | .error error => (machine, .refused error)

/-- The machine after a command, and the reply, unless the command crashes. -/
def apply (machine : InPlace) : Command → Option (InPlace × Reply)
  | .step => machine.step.map fun after => (after.1, .outcome after.2)
  | .run budget => (machine.runFrom 0 budget).map fun after => (after.1, .steps after.2)
  | .reset => some (machine.reset, .done)
  | .setProgram program => some ({ machine with program }, .done)
  | .setAccumulator value => (machine.setAccumulator value).map fun after => (after, .done)
  | .setRegister number value => some (machine.edited (machine.setRegister number value))
  | .setTape address value => some (machine.edited (machine.setTape address value))

/-- The machine after some commands, and their replies, unless one of them crashes. -/
def applyAll (machine : InPlace) : List Command → Option (InPlace × List Reply)
  | [] => some (machine, [])
  | command :: rest => do
    let (after, reply) ← machine.apply command
    let (final, replies) ← after.applyAll rest
    return (final, reply :: replies)

/-- The machine with the values in the cells from the given address on. -/
def loadTape (machine : InPlace) (address : Nat) : List Value → Except MachineError InPlace
  | [] => .ok machine
  | value :: rest => do
    let next ← machine.setTape address value
    next.loadTape (address + 1) rest

/-! ## Machines with an accumulator -/

/-- The machine that is in place, if its bank has an accumulator. -/
def machine? (machine : InPlace) : Option Machine :=
  match machine.registers.toList with
  | [] => none
  | accumulator :: general =>
    some
      { memory := ⟨accumulator, general.toArray, machine.tape⟩
        program := machine.program
        programCounter := machine.programCounter
        halted := machine.halted
        trace := machine.trace
        lastError := machine.lastError }

end InPlace

/-- The machine put in place. -/
def Machine.inPlace (machine : Machine) : InPlace :=
  { registers := machine.memory.registers.toArray
    tape := machine.memory.tape
    program := machine.program
    programCounter := machine.programCounter
    halted := machine.halted
    trace := machine.trace
    lastError := machine.lastError }

end Ram
