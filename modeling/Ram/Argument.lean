import Ram.Numeral

/-!
# Arguments of instructions

The values of the machine are signed words of 64 bits, and arithmetic on them
wraps.  An argument of an instruction is a literal, a register or a label.  A
label has a name and the position of an instruction, counted from 1.  The name is
for readers.  Only the position means anything to the machine.

A *shape* says which kinds of argument stand at a place of an instruction.
-/

namespace Ram

/-- What registers and tape cells hold, and what literals stand for. -/
abbrev Value := Int64

/-- The number of a register.  Register 0 is the accumulator and the general
registers count from 1. -/
abbrev RegisterNumber := UInt64

/-- An argument of an instruction. -/
inductive Argument where
  /-- A constant. -/
  | literal (value : Value)
  /-- A register, by its number. -/
  | register (number : RegisterNumber)
  /-- An instruction, by its position and a name for it. -/
  | label (name : String) (position : Nat)
deriving DecidableEq, Repr

namespace Argument

/-- Whether the argument is a literal. -/
def isLiteral : Argument → Bool
  | literal _ => true
  | _ => false

/-- Whether the argument is a register. -/
def isRegister : Argument → Bool
  | register _ => true
  | _ => false

/-- Whether the argument is a label. -/
def isLabel : Argument → Bool
  | label _ _ => true
  | _ => false

/-- The number that the argument stands for by itself.  A register has none until
it is read.  The position of a label wraps like every other value. -/
def value? : Argument → Option Value
  | literal value => some value
  | register _ => none
  | label _ position => some (Int64.ofNat position)

/-- The position that a label stands for. -/
def position? : Argument → Option Nat
  | label _ position => some position
  | _ => none

/-- The argument in assembly. -/
def text : Argument → String
  | literal value => Numeral.integer value.toInt
  | register number => "R" ++ Numeral.decimal number.toNat
  | label name _ => name

end Argument

/-- The kinds of argument that a place of an instruction takes. -/
inductive Shape where
  /-- A register. -/
  | register
  /-- A literal or a register. -/
  | literalOrRegister
  /-- A label. -/
  | label
deriving DecidableEq, Repr

namespace Shape

/-- Whether an argument has the shape. -/
def admits : Shape → Argument → Bool
  | register, argument => argument.isRegister
  | literalOrRegister, argument => argument.isLiteral || argument.isRegister
  | label, argument => argument.isLabel

/-- The shape in words. -/
def text : Shape → String
  | register => "a register"
  | literalOrRegister => "either a literal or a register"
  | label => "a label"

end Shape

end Ram
