import Ram.Argument

/-!
# The memory of a machine

The memory is an accumulator, a bank of general registers and a tape of cells, all of
which hold values.  The accumulator is also register 0, and the general registers count
from 1.  The cells of the tape count from 0.

A *footprint* names the places of the memory that a step touched, at most one of each
kind.  Register 0 is named as the accumulator.
-/

namespace Ram

/-! ## Memory -/

/-- What a machine remembers. -/
structure Memory where
  /-- The accumulator, which is also register 0. -/
  accumulator : Value
  /-- The general registers, the first of which is register 1. -/
  general : Array Value
  /-- The cells of the tape. -/
  tape : Array Value
deriving DecidableEq, Repr

namespace Memory

/-- A memory that holds nothing but zeros. -/
def zero (tapeLength registerCount : Nat) : Memory :=
  { accumulator := 0
    general := Array.replicate registerCount 0
    tape := Array.replicate tapeLength 0 }

/-- The register with the given number. -/
def register? (memory : Memory) (number : RegisterNumber) : Option Value :=
  if number = 0 then some memory.accumulator else memory.general[number.toNat - 1]?

/-- The cell with the given address. -/
def cell? (memory : Memory) (address : Nat) : Option Value := memory.tape[address]?

/-- All registers, the accumulator first. -/
def registers (memory : Memory) : List Value := memory.accumulator :: memory.general.toList

/-- Whether there is a register with the given number. -/
def hasRegister (memory : Memory) (number : RegisterNumber) : Bool :=
  number.toNat ≤ memory.general.size

/-- Whether there is a cell with the given address. -/
def hasCell (memory : Memory) (address : Nat) : Bool := address < memory.tape.size

/-- The memory with another value in the accumulator. -/
def setAccumulator (memory : Memory) (value : Value) : Memory :=
  { memory with accumulator := value }

/-- The memory with another value in a register, if there is such a register. -/
def setRegister (memory : Memory) (number : RegisterNumber) (value : Value) : Memory :=
  if number = 0 then memory.setAccumulator value
  else { memory with general := memory.general.setIfInBounds (number.toNat - 1) value }

/-- The memory with another value in a cell, if there is such a cell. -/
def setCell (memory : Memory) (address : Nat) (value : Value) : Memory :=
  { memory with tape := memory.tape.setIfInBounds address value }

/-- The memory with zeros in all registers. -/
def clearRegisters (memory : Memory) : Memory :=
  { memory with accumulator := 0, general := Array.replicate memory.general.size 0 }

/-! ### What is there after writing -/

/-- A register other than the accumulator has a positive number. -/
theorem toNat_pos {number : RegisterNumber} (nonzero : number ≠ 0) : 0 < number.toNat := by
  rw [Nat.pos_iff_ne_zero]
  intro zero
  exact nonzero (UInt64.toNat.inj (by simpa using zero))

/-- The registers are those with a number up to the size of the bank. -/
theorem isSome_register? {memory : Memory} {number : RegisterNumber} :
    (memory.register? number).isSome = memory.hasRegister number := by
  unfold register? hasRegister
  split
  next zero => simp [zero]
  next nonzero =>
    have positive := toNat_pos nonzero
    rw [Bool.eq_iff_iff, Option.isSome_iff_ne_none, Ne, Array.getElem?_eq_none_iff,
      decide_eq_true_eq]
    omega

/-- The cells are those with an address below the length of the tape. -/
theorem isSome_cell? {memory : Memory} {address : Nat} :
    (memory.cell? address).isSome = memory.hasCell address := by
  rw [cell?, hasCell, Bool.eq_iff_iff, Option.isSome_iff_ne_none, Ne, Array.getElem?_eq_none_iff,
    decide_eq_true_eq]
  omega

@[simp] theorem size_general_setRegister (memory : Memory) (number : RegisterNumber)
    (value : Value) :
    (memory.setRegister number value).general.size = memory.general.size := by
  unfold setRegister
  split
  · rfl
  · simp

@[simp] theorem tape_setRegister (memory : Memory) (number : RegisterNumber) (value : Value) :
    (memory.setRegister number value).tape = memory.tape := by
  unfold setRegister
  split <;> rfl

@[simp] theorem size_tape_setCell (memory : Memory) (address : Nat) (value : Value) :
    (memory.setCell address value).tape.size = memory.tape.size := by
  simp [setCell]

/-- A register that was written holds the value, and the others hold what they held. -/
theorem register?_setRegister {memory : Memory} {number : RegisterNumber} {value : Value}
    (present : memory.hasRegister number = true) (other : RegisterNumber) :
    (memory.setRegister number value).register? other =
      if other = number then some value else memory.register? other := by
  unfold setRegister register? setAccumulator
  by_cases zero : number = 0
  · subst zero
    by_cases same : other = 0
    · simp [same]
    · simp [same]
  · have := toNat_pos zero
    by_cases otherZero : other = 0
    · subst otherZero
      simp [zero, Ne.symm zero]
    · have := toNat_pos otherZero
      simp only [hasRegister, decide_eq_true_eq] at present
      simp only [zero, otherZero, if_false, Array.getElem?_setIfInBounds]
      by_cases same : other = number
      · subst same
        simp
        omega
      · have : ¬ number.toNat - 1 = other.toNat - 1 := by
          intro h
          exact same (UInt64.toNat.inj (by omega))
        simp [this, same]

/-- A cell that was written holds the value, and the others hold what they held. -/
theorem cell?_setCell {memory : Memory} {address : Nat} {value : Value}
    (present : memory.hasCell address = true) (other : Nat) :
    (memory.setCell address value).cell? other =
      if other = address then some value else memory.cell? other := by
  simp only [hasCell, decide_eq_true_eq] at present
  simp only [setCell, cell?, Array.getElem?_setIfInBounds, present, if_true]
  by_cases same : other = address
  · simp [same]
  · simp [same, Ne.symm same]

end Memory

/-! ## Footprints -/

/-- Places of the memory, at most one of each kind. -/
structure Footprint where
  /-- Whether the accumulator is among them. -/
  accumulator : Bool := false
  /-- The general register among them. -/
  register : Option RegisterNumber := none
  /-- The cell of the tape among them. -/
  cell : Option Nat := none
deriving DecidableEq, Repr

namespace Footprint

/-- No place. -/
def empty : Footprint := {}

/-- The accumulator alone. -/
def ofAccumulator : Footprint := { accumulator := true }

/-- One register alone, which is the accumulator if its number is 0. -/
def ofRegister (number : RegisterNumber) : Footprint :=
  if number = 0 then ofAccumulator else { register := some number }

/-- One cell alone. -/
def ofCell (address : Nat) : Footprint := { cell := some address }

/-- The places of two footprints, where those of the second one count if both name a
place of the same kind. -/
def merge (first second : Footprint) : Footprint :=
  { accumulator := first.accumulator || second.accumulator
    register := second.register.or first.register
    cell := second.cell.or first.cell }

end Footprint

/-- What the last step touched. -/
structure Trace where
  /-- What it read. -/
  read : Footprint := {}
  /-- What it wrote. -/
  changed : Footprint := {}
deriving DecidableEq, Repr

end Ram
