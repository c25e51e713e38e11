import Ram.Machine.Action
import Ram.Program

/-!
# The machine

A machine has a memory and a program, and it executes the program one instruction a step.
It is either running or halted.  A running machine has a program counter, the position of
the instruction that comes next.  A halted one does nothing until it is reset, and its
program counter is 1.

A machine also shows what its last step touched, and the error of the instruction that
halted it, if one did.

A step executes one instruction.  The machine halts at a `HALT`, when control leaves the
program, and at a fault.  Giving a machine another program changes neither its program
counter nor whether it is halted.
-/

namespace Ram

/-- A random access machine. -/
structure Machine where
  /-- The accumulator, the registers and the tape. -/
  memory : Memory
  /-- The program. -/
  program : Program := {}
  /-- The position of the instruction that comes next. -/
  programCounter : Nat := 1
  /-- Whether the machine is halted. -/
  halted : Bool := false
  /-- What the last step touched. -/
  trace : Trace := {}
  /-- The error that halted the machine. -/
  lastError : Option ExecutionError := none
deriving DecidableEq

/-- What came of a step. -/
inductive Outcome where
  /-- An instruction was executed and the machine is still running. -/
  | executed
  /-- The machine halted. -/
  | halted
  /-- The instruction failed and the machine halted. -/
  | faulted (error : ExecutionError)
  /-- The machine was halted before the step. -/
  | idle
deriving DecidableEq, Repr

namespace Machine

/-! ## Editing -/

/-- The number of cells on the tape. -/
def tapeLength (machine : Machine) : Nat := machine.memory.tape.size

/-- The number of general registers. -/
def registerCount (machine : Machine) : Nat := machine.memory.general.size

/-- The instruction that the next step executes. -/
def currentInstruction? (machine : Machine) : Option Instruction :=
  if machine.halted then none else machine.program.get? machine.programCounter

/-- The machine with another program. -/
def setProgram (machine : Machine) (program : Program) : Machine :=
  { machine with program }

/-- The machine with another value in the accumulator. -/
def setAccumulator (machine : Machine) (value : Value) : Machine :=
  { machine with memory := machine.memory.setAccumulator value }

/-- The machine with another value in a register. -/
def setRegister (machine : Machine) (number : RegisterNumber) (value : Value) :
    Except MachineError Machine :=
  if machine.memory.hasRegister number then
    .ok { machine with memory := machine.memory.setRegister number value }
  else .error (.registerOutOfRange number)

/-- The machine with another value in a cell of the tape. -/
def setTape (machine : Machine) (address : Nat) (value : Value) :
    Except MachineError Machine :=
  if machine.memory.hasCell address then
    .ok { machine with memory := machine.memory.setCell address value }
  else .error (.tapeAddressOutOfRange address)

/-- The machine at the first instruction of its program, with zeros in its registers.  The
tape stays as it is. -/
def reset (machine : Machine) : Machine :=
  { memory := machine.memory.clearRegisters, program := machine.program }

/-! ## Running -/

/-- The machine halted. -/
def halt (machine : Machine) : Machine :=
  { machine with halted := true, programCounter := 1 }

/-- The machine with control at a position, or halted if the program ends before it. -/
def proceed (machine : Machine) (position : Nat) : Machine × Outcome :=
  if machine.program.length < position then (machine.halt, .halted)
  else ({ machine with programCounter := position }, .executed)

/-- The machine after control has moved. -/
def follow (machine : Machine) : Flow → Machine × Outcome
  | .next => machine.proceed (machine.programCounter + 1)
  | .jump target => machine.proceed target
  | .halt => (machine.halt, .halted)

/-- What the machine reads for an instruction, and what comes of it. -/
def reading (machine : Machine) (instruction : Instruction) : Reading Action :=
  machine.memory.action machine.program.length instruction.mnemonic (instruction.argument? 0)

/-- The machine after an action that came of reading some places. -/
def commit (machine : Machine) (read : Footprint) (action : Action) : Machine × Outcome :=
  follow
    { machine with
      memory := machine.memory.perform action
      trace := { read, changed := action.footprint } }
    action.flow

/-- The machine after an error that came up after reading some places. -/
def fail (machine : Machine) (read : Footprint) (error : ExecutionError) : Machine × Outcome :=
  ({ machine with
      programCounter := 1, halted := true, trace := { read }, lastError := some error },
    .faulted error)

/-- The machine after it has executed an instruction. -/
def execute (machine : Machine) (instruction : Instruction) : Machine × Outcome :=
  let reading := machine.reading instruction
  match reading.result with
  | .ok action => machine.commit reading.touched action
  | .error fault =>
    machine.fail reading.touched ⟨instruction.mnemonic, machine.programCounter, fault⟩

/-- The machine after one step, and what came of it. -/
def step (machine : Machine) : Machine × Outcome :=
  if machine.halted then ({ machine with trace := {} }, .idle)
  else
    match machine.program.get? machine.programCounter with
    | some instruction => machine.execute instruction
    | none => ({ machine.halt with trace := {} }, .halted)

/-- The machine after it has stepped until it halts, at most as often as the number says,
and the number of steps, counted on from those that were made before. -/
def runFrom (machine : Machine) (made : Nat) : Nat → Machine × Nat
  | 0 => (machine, made)
  | budget + 1 =>
    if machine.halted then (machine, made) else machine.step.1.runFrom (made + 1) budget

/-- The machine after it has stepped until it halts, at most as often as the number says,
and the number of steps. -/
def run (machine : Machine) (budget : Nat) : Machine × Nat := machine.runFrom 0 budget

/-- A halted machine does nothing but clear its trace. -/
theorem step_of_halted {machine : Machine} (halted : machine.halted = true) :
    machine.step = ({ machine with trace := {} }, .idle) := by
  simp [step, halted]

/-- A running machine executes the instruction that comes next. -/
theorem step_of_running {machine : Machine} {instruction : Instruction}
    (running : machine.halted = false)
    (fetched : machine.program.get? machine.programCounter = some instruction) :
    machine.step = machine.execute instruction := by
  simp [step, running, fetched]

/-- A running machine halts where there is no instruction. -/
theorem step_of_outside {machine : Machine} (running : machine.halted = false)
    (outside : machine.program.get? machine.programCounter = none) :
    machine.step = ({ machine.halt with trace := {} }, .halted) := by
  simp [step, running, outside]

@[simp] theorem run_zero (machine : Machine) : machine.run 0 = (machine, 0) := rfl

end Machine

end Ram
