import Ram.Image.Basic
import Ram.Program

/-!
# Encoding

Each instruction becomes one word, with zeros in the reserved field.  Encoding fails at
the first argument whose number does not fit 32 bits without a sign.
-/

namespace Ram

namespace Image

/-- The tag of an argument. -/
def tagOf : Option Argument → Tag
  | .none => .none
  | some (.literal _) => .literal
  | some (.register _) => .register
  | some (.label _ _) => .label

/-- The number of an argument. -/
def numberOf : Option Argument → Int
  | .none => 0
  | some (.literal value) => value.toInt
  | some (.register number) => number.toNat
  | some (.label _ position) => position

/-- The word of an instruction. -/
def encodeInstruction (instruction : Instruction) : Except Cause Word :=
  let argument := instruction.argument? 0
  let number := numberOf argument
  if 0 ≤ number ∧ number < 0x100000000 then
    .ok (Word.pack (UInt32.ofNat number.toNat) (tagOf argument).code instruction.mnemonic.opcode)
  else .error (.valueOutOfRange number)

/-- The words of some instructions, the first of which has the given position. -/
def encodeFrom (position : Nat) : List Instruction → Except Error (List Word)
  | [] => .ok []
  | instruction :: rest => do
    let word ← (encodeInstruction instruction).mapError (Error.mk position)
    let words ← encodeFrom (position + 1) rest
    return word :: words

end Image

/-- The image of a program. -/
def Program.encode (program : Program) : Except Image.Error (List Word) :=
  Image.encodeFrom 1 program.instructions

end Ram
