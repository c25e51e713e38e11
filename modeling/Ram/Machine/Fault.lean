import Ram.Mnemonic
import Ram.Machine.Memory

/-!
# Faults

A *fault* is what goes wrong inside an instruction, and an `ExecutionError` is a fault
with the instruction in which it came up.  A `MachineError` is what goes wrong when a
machine is made or edited from outside.
-/

namespace Ram

/-- What goes wrong inside an instruction. -/
inductive Fault where
  /-- The cell to be read is not on the tape. -/
  | tapeReadOutOfBounds (address : Nat)
  /-- The cell to be written is not on the tape. -/
  | tapeWriteOutOfBounds (address : Nat)
  /-- The address of a cell is negative. -/
  | invalidAddress (value : Value)
  /-- There is no such register. -/
  | registerOutOfBounds (number : RegisterNumber)
  /-- The target of a jump is not in the program. -/
  | invalidJumpTarget (position : Nat)
  /-- The instruction lacks the argument that its mnemonic takes. -/
  | malformedInstruction
deriving DecidableEq, Repr

/-- The fault in words. -/
def Fault.message : Fault → String
  | tapeReadOutOfBounds address =>
    "attempted to read out-of-bounds tape address " ++ Numeral.decimal address
  | tapeWriteOutOfBounds address =>
    "attempted to write to out-of-bounds tape address " ++ Numeral.decimal address
  | invalidAddress value => Numeral.integer value.toInt ++ " is not a tape address"
  | registerOutOfBounds number =>
    "register R" ++ Numeral.decimal number.toNat ++ " does not exist"
  | invalidJumpTarget position => "cannot jump to instruction " ++ Numeral.decimal position
  | malformedInstruction => "the instruction is missing a required argument"

/-- A fault with the instruction in which it came up. -/
structure ExecutionError where
  /-- The mnemonic of the instruction. -/
  mnemonic : Mnemonic
  /-- The position of the instruction. -/
  programCounter : Nat
  /-- What went wrong. -/
  fault : Fault
deriving DecidableEq, Repr

/-- The error in words. -/
def ExecutionError.message (error : ExecutionError) : String :=
  "Failed to execute " ++ error.mnemonic.name ++ " at line #"
    ++ Numeral.decimal error.programCounter ++ ": " ++ error.fault.message ++ "."

/-- What goes wrong when a machine is made or edited. -/
inductive MachineError where
  /-- The machine would have no general register. -/
  | noRegisters
  /-- There is no such register. -/
  | registerOutOfRange (number : RegisterNumber)
  /-- There is no such cell. -/
  | tapeAddressOutOfRange (address : Nat)
deriving DecidableEq, Repr

/-- The error in words. -/
def MachineError.message : MachineError → String
  | noRegisters => "There must be at least one register."
  | registerOutOfRange number =>
    "Register R" ++ Numeral.decimal number.toNat ++ " does not exist."
  | tapeAddressOutOfRange address =>
    "Tape address " ++ Numeral.decimal address ++ " is out of bounds."

end Ram
