import Ram.Instruction

/-!
# Programs

A program is a sequence of instructions.  Positions in it count from 1, and jump
targets are such positions.
-/

namespace Ram

/-- A sequence of instructions. -/
structure Program where
  /-- The instructions, the first at position 1. -/
  instructions : List Instruction := []
deriving DecidableEq

namespace Program

/-- The number of instructions. -/
def length (program : Program) : Nat := program.instructions.length

/-- Whether the program has no instructions. -/
def isEmpty (program : Program) : Bool := program.instructions.isEmpty

/-- The instruction at a position. -/
def get? (program : Program) : Nat → Option Instruction
  | 0 => none
  | index + 1 => program.instructions[index]?

/-- The program in assembly, one instruction a line. -/
def text (program : Program) : String :=
  "\n".intercalate (program.instructions.map Instruction.text)

@[simp] theorem get?_zero (program : Program) : program.get? 0 = none := rfl

@[simp] theorem get?_succ (program : Program) (index : Nat) :
    program.get? (index + 1) = program.instructions[index]? := rfl

theorem mem_of_get? {program : Program} {position : Nat} {instruction : Instruction}
    (found : program.get? position = some instruction) : instruction ∈ program.instructions := by
  cases position with
  | zero => cases found
  | succ index => exact List.mem_of_getElem? found

/-- There is an instruction exactly at the positions from 1 to the length. -/
theorem isSome_get?_iff {program : Program} {position : Nat} :
    (program.get? position).isSome ↔ 1 ≤ position ∧ position ≤ program.length := by
  cases position with
  | zero => simp
  | succ index =>
      rw [get?_succ, Option.isSome_iff_ne_none, Ne, List.getElem?_eq_none_iff, length]
      omega

end Program

end Ram
