import Ram.Argument

/-!
# Mnemonics

A mnemonic is a kind of instruction.  It fixes the name, the opcode, and the shapes
of the arguments.  Names are written in capitals and read in either case, letter by
letter in ASCII.  The opcodes count from 0 in the order of the catalog.
-/

namespace Ram

/-- The kinds of instruction. -/
inductive Mnemonic where
  /-- Does nothing. -/
  | nop
  /-- Adds to the accumulator. -/
  | add
  /-- Subtracts from the accumulator. -/
  | sub
  /-- Halves the accumulator. -/
  | half
  /-- Copies a register into the accumulator. -/
  | load
  /-- Copies the accumulator into a register. -/
  | store
  /-- Copies a tape cell into the accumulator. -/
  | read
  /-- Copies the accumulator into a tape cell. -/
  | write
  /-- Jumps if the accumulator is zero. -/
  | jzero
  /-- Jumps if the accumulator is positive. -/
  | jpos
  /-- Jumps. -/
  | jump
  /-- Halts the machine. -/
  | halt
deriving DecidableEq, Repr

namespace Mnemonic

/-- Every mnemonic, in the order of the opcodes. -/
def catalog : List Mnemonic :=
  [nop, add, sub, half, load, store, read, write, jzero, jpos, jump, halt]

/-- The name of the mnemonic. -/
def name : Mnemonic → String
  | nop => "NOP"
  | add => "ADD"
  | sub => "SUB"
  | half => "HALF"
  | load => "LOAD"
  | store => "STORE"
  | read => "READ"
  | write => "WRITE"
  | jzero => "JZERO"
  | jpos => "JPOS"
  | jump => "JUMP"
  | halt => "HALT"

/-- The opcode of the mnemonic. -/
def opcode : Mnemonic → UInt8
  | nop => 0
  | add => 1
  | sub => 2
  | half => 3
  | load => 4
  | store => 5
  | read => 6
  | write => 7
  | jzero => 8
  | jpos => 9
  | jump => 10
  | halt => 11

/-- The shapes of the arguments, from the first. -/
def shapes : Mnemonic → List Shape
  | nop | half | halt => []
  | add | sub | read | write => [.literalOrRegister]
  | load | store => [.register]
  | jzero | jpos | jump => [.label]

/-- The number of arguments. -/
def arity (mnemonic : Mnemonic) : Nat := mnemonic.shapes.length

/-- The shape of the argument with the given index, counted from 0. -/
def shape? (mnemonic : Mnemonic) (index : Nat) : Option Shape := mnemonic.shapes[index]?

/-- The mnemonic with the given name, in either case. -/
def ofName? (text : List Char) : Option Mnemonic :=
  catalog.find? fun mnemonic => mnemonic.name.toList = text.map Char.toUpper

/-- The mnemonic with the given opcode. -/
def ofOpcode? (code : UInt8) : Option Mnemonic :=
  catalog.find? fun mnemonic => mnemonic.opcode = code

@[simp] theorem ofOpcode?_opcode (mnemonic : Mnemonic) :
    ofOpcode? mnemonic.opcode = some mnemonic := by
  cases mnemonic <;> decide

end Mnemonic

end Ram
