import Ram.Machine.Fault

/-!
# What an instruction does

An instruction first reads the memory and then does one thing: it moves control, and it
may write one place of the memory.  Whatever can go wrong goes wrong while it reads and
decides, so a fault leaves the memory as it was.

A `Reading` is a computation of the first part.  It keeps the footprint of what was read
up to the end or up to the fault.  `Memory.action` is the reading of an instruction, and
its result is the second part, an `Action`.
-/

namespace Ram

/-! ## Readings -/

/-- A computation that reads the memory and may end in a fault. -/
structure Reading (α : Type) where
  /-- What was read. -/
  touched : Footprint
  /-- What came of it. -/
  result : Except Fault α

namespace Reading

/-- The reading that touches nothing. -/
def done {α : Type} (value : α) : Reading α := ⟨.empty, .ok value⟩

/-- The reading that touches nothing and ends in a fault. -/
def fail {α : Type} (fault : Fault) : Reading α := ⟨.empty, .error fault⟩

/-- One reading after another. -/
def andThen {α β : Type} (first : Reading α) (next : α → Reading β) : Reading β :=
  match first.result with
  | .error fault => ⟨first.touched, .error fault⟩
  | .ok value => ⟨first.touched.merge (next value).touched, (next value).result⟩

instance : Monad Reading where
  pure := done
  bind := andThen

@[simp] theorem bind_eq {α β : Type} (first : Reading α) (next : α → Reading β) :
    first >>= next = first.andThen next := rfl

/-- What follows a value goes on reading. -/
theorem andThen_of_ok {α β : Type} {first : Reading α} {value : α}
    (success : first.result = .ok value) (next : α → Reading β) :
    first.andThen next = ⟨first.touched.merge (next value).touched, (next value).result⟩ := by
  simp only [andThen, success]

/-- Nothing follows a fault. -/
theorem andThen_of_error {α β : Type} {first : Reading α} {fault : Fault}
    (failed : first.result = .error fault) (next : α → Reading β) :
    first.andThen next = ⟨first.touched, .error fault⟩ := by
  simp only [andThen, failed]

end Reading

/-! ## Actions -/

/-- The writing of one place of the memory. -/
inductive Update where
  /-- Writes the accumulator. -/
  | accumulator (value : Value)
  /-- Writes a register. -/
  | register (number : RegisterNumber) (value : Value)
  /-- Writes a cell of the tape. -/
  | cell (address : Nat) (value : Value)
deriving DecidableEq, Repr

/-- The place that an update writes. -/
def Update.footprint : Update → Footprint
  | accumulator _ => .ofAccumulator
  | register number _ => .ofRegister number
  | cell address _ => .ofCell address

/-- How control moves after an instruction. -/
inductive Flow where
  /-- To the next instruction. -/
  | next
  /-- To the instruction at a position. -/
  | jump (target : Nat)
  /-- Nowhere: the machine halts. -/
  | halt
deriving DecidableEq, Repr

/-- What an instruction does once it has read. -/
structure Action where
  /-- What it writes, if anything. -/
  update : Option Update := none
  /-- How control moves. -/
  flow : Flow := .next
deriving DecidableEq, Repr

/-- The place that an action writes. -/
def Action.footprint (action : Action) : Footprint :=
  match action.update with
  | some update => update.footprint
  | none => .empty

/-- The action that writes one place and goes on with the next instruction. -/
def Action.write (update : Update) : Action := { update := some update }

/-- The action that moves control and writes nothing. -/
def Action.move (flow : Flow) : Action := { flow }

namespace Memory

/-- The memory after an update. -/
def update (memory : Memory) : Update → Memory
  | .accumulator value => memory.setAccumulator value
  | .register number value => memory.setRegister number value
  | .cell address value => memory.setCell address value

/-- The memory after an action. -/
def perform (memory : Memory) (action : Action) : Memory :=
  match action.update with
  | some update => memory.update update
  | none => memory

/-! ## Reading the memory -/

/-- Reads the accumulator. -/
def readAccumulator (memory : Memory) : Reading Value :=
  ⟨.ofAccumulator, .ok memory.accumulator⟩

/-- Reads a register. -/
def readRegister (memory : Memory) (number : RegisterNumber) : Reading Value :=
  match memory.register? number with
  | some value => ⟨.ofRegister number, .ok value⟩
  | none => .fail (.registerOutOfBounds number)

/-- Reads a cell. -/
def readCell (memory : Memory) (address : Nat) : Reading Value :=
  match memory.cell? address with
  | some value => ⟨.ofCell address, .ok value⟩
  | none => .fail (.tapeReadOutOfBounds address)

/-- The value of a literal, or of the register that is named. -/
def operand (memory : Memory) : Option Argument → Reading Value
  | some (.register number) => memory.readRegister number
  | some argument =>
    match argument.value? with
    | some value => .done value
    | none => .fail .malformedInstruction
  | none => .fail .malformedInstruction

/-- The address that an operand stands for. -/
def address (memory : Memory) (argument : Option Argument) : Reading Nat := do
  let value ← memory.operand argument
  if value < 0 then .fail (.invalidAddress value) else .done value.toNatClampNeg

end Memory

/-- The register that an argument names. -/
def registerArgument : Option Argument → Reading RegisterNumber
  | some (.register number) => .done number
  | _ => .fail .malformedInstruction

/-- The jump to the target that an argument names, in a program of the given length.  The
position right after the last instruction is a target too. -/
def jumpTo (length : Nat) (argument : Option Argument) : Reading Action :=
  match argument.bind Argument.position? with
  | none => .fail .malformedInstruction
  | some target =>
    if target = 0 ∨ length + 1 < target then .fail (.invalidJumpTarget target)
    else .done (.move (.jump target))

/-! ## The instructions -/

/-- What an instruction does in a program of the given length. -/
def Memory.action (memory : Memory) (length : Nat) (mnemonic : Mnemonic)
    (argument : Option Argument) : Reading Action :=
  match mnemonic with
  | .nop => .done {}
  | .add => do
    let operand ← memory.operand argument
    let accumulator ← memory.readAccumulator
    return .write (.accumulator (accumulator + operand))
  | .sub => do
    let operand ← memory.operand argument
    let accumulator ← memory.readAccumulator
    return .write (.accumulator (accumulator - operand))
  | .half => do
    let accumulator ← memory.readAccumulator
    return .write (.accumulator (accumulator / 2))
  | .load => do
    let number ← registerArgument argument
    let value ← memory.readRegister number
    return .write (.accumulator value)
  | .store => do
    let accumulator ← memory.readAccumulator
    let number ← registerArgument argument
    if memory.hasRegister number then return .write (.register number accumulator)
    else .fail (.registerOutOfBounds number)
  | .read => do
    let address ← memory.address argument
    let value ← memory.readCell address
    return .write (.accumulator value)
  | .write => do
    let address ← memory.address argument
    let accumulator ← memory.readAccumulator
    if memory.hasCell address then return .write (.cell address accumulator)
    else .fail (.tapeWriteOutOfBounds address)
  | .jzero => do
    let accumulator ← memory.readAccumulator
    if accumulator = 0 then jumpTo length argument else return {}
  | .jpos => do
    let accumulator ← memory.readAccumulator
    if 0 < accumulator then jumpTo length argument else return {}
  | .jump => jumpTo length argument
  | .halt => .done (.move .halt)

end Ram
