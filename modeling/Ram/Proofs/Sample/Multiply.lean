import Ram.Proofs.Machine.Bounds
import Ram.Proofs.Machine.Path
import Ram.Proofs.Sample.Basic

/-!
# The multiplication program

`Sample.multiply` adds register 1 to the first cell of the tape, as often as register 2 says.  It
copies register 2 to register 3 and counts register 3 down to zero.

*The parts of the loop.*  `path_enter` goes from the start to the head of the loop, `path_test` and
`path_leave` from the head of the loop into a round and out of the loop, `path_count` and
`path_add` through a round and back to the head.

*The loop.*  `Multiplying` is the memory at the head of the loop after some rounds.  A round takes 8
steps (`Multiplying.round`), so the program takes 2 steps before the loop, 8 a round, and 3 after
the last one.
-/

namespace Ram.Sample

namespace Multiply

/-! ## The parts of the loop -/

section Parts

variable {memory : Memory}

/-- The part before the loop, which sets up the counter. -/
theorem path_enter {count : Value} (holds : memory.register? 2 = some count)
    (present : memory.hasRegister 3 = true) :
    code.Path 2 1 memory 3 ((memory.setAccumulator count).setRegister 3 count) :=
  .cons (.write rfl (Memory.action_load holds) rfl) <|
    .cons (.write rfl (Memory.action_store present) rfl) .nil

/-- The head of the loop, while the counter is not 0. -/
theorem path_test {left : Value} (holds : memory.register? 3 = some left) (more : left ≠ 0) :
    code.Path 2 3 memory 5 (memory.setAccumulator left) :=
  .cons (.write rfl (Memory.action_load holds) rfl) <|
    .cons (.pass rfl (Memory.action_jzero_of_ne more) rfl) .nil

/-- The head of the loop, once the counter is 0. -/
theorem path_leave (holds : memory.register? 3 = some 0) :
    code.Path 2 3 memory 11 (memory.setAccumulator 0) :=
  .cons (.write rfl (Memory.action_load holds) rfl) <|
    .cons (.jump rfl ((Memory.action_jzero_of_eq rfl).trans (jumpTo_label rfl)) rfl) .nil

/-- The part that counts down. -/
theorem path_count {left : Value} (holds : memory.accumulator = left)
    (present : memory.hasRegister 3 = true) :
    code.Path 2 5 memory 7
      ((memory.setAccumulator (left - 1)).setRegister 3 (left - 1)) := by
  subst holds
  exact .cons (.write rfl (Memory.action_sub (memory.operand_literal 1)) rfl) <|
    .cons (.write rfl (Memory.action_store present) rfl) .nil

/-- The part that adds the factor to the sum and goes back to the head. -/
theorem path_add {sum factor : Value} (cell : memory.cell? 0 = some sum)
    (register : memory.register? 1 = some factor) :
    code.Path 4 7 memory 3
      ((memory.setAccumulator (sum + factor)).setCell 0 (sum + factor)) :=
  have present : memory.hasCell 0 = true := Memory.hasCell_of_cell? cell
  .cons (.write rfl (Memory.action_read (Memory.address_zero _) cell) rfl) <|
    .cons (.write rfl (Memory.action_add (Memory.operand_register register)) rfl) <|
    .cons (.write rfl (Memory.action_write (Memory.address_zero _) present) rfl) <|
    .cons (.jump rfl (jumpTo_label rfl) rfl) .nil

/-- The memory after a round that leaves some rounds and comes to a sum. -/
def afterRound (memory : Memory) (left sum : Value) : Memory :=
  (((memory.setAccumulator left).setRegister 3 left).setAccumulator sum).setCell 0 sum

theorem register?_afterRound {number : RegisterNumber} (present : memory.hasRegister 3 = true)
    (general : number ≠ 0) (left sum : Value) :
    (afterRound memory left sum).register? number =
      if number = 3 then some left else memory.register? number := by
  have there : (memory.setAccumulator left).hasRegister 3 = true := present
  rw [afterRound, Memory.register?_setCell, Memory.register?_setAccumulator general,
    Memory.register?_setRegister there, Memory.register?_setAccumulator general]

theorem cell?_afterRound (present : memory.hasCell 0 = true) (left sum : Value) (address : Nat) :
    (afterRound memory left sum).cell? address =
      if address = 0 then some sum else memory.cell? address := by
  rw [afterRound, Memory.cell?_setCell, Memory.cell?_setAccumulator, Memory.cell?_setRegister,
    Memory.cell?_setAccumulator]
  simpa using present

theorem path_round {left sum factor : Value} (counter : memory.register? 3 = some left)
    (more : left ≠ 0) (cell : memory.cell? 0 = some sum)
    (register : memory.register? 1 = some factor) :
    code.Path 8 3 memory 3 (afterRound memory (left - 1) (sum + factor)) := by
  have present : memory.hasRegister 3 = true := Memory.hasRegister_of_register? counter
  have counted := (path_test counter more).trans (path_count rfl (by simpa using present))
  refine counted.trans (path_add (by simpa using cell) ?_)
  simpa [Memory.register?_setRegister, Memory.register?_setAccumulator, present] using register

end Parts

/-! ## The loop -/

section Loop

variable {start memory : Memory} {factor initial : Value} {count index : Nat}

/-- The memory at the head of the loop after some rounds. -/
structure Multiplying (start : Memory) (factor initial : Value) (count index : Nat)
    (memory : Memory) : Prop where
  /-- Register 3 has the number of rounds that are left. -/
  left : memory.register? 3 = some (Int64.ofNat (count - index))
  /-- The factor was added once a round. -/
  sum : memory.cell? 0 = some (initial + factor * Int64.ofNat index)
  /-- The factor is in register 1. -/
  factor : memory.register? 1 = some factor
  /-- The other registers are as they were. -/
  registers : ∀ number, number ≠ 0 → number ≠ 3 → memory.register? number = start.register? number
  /-- The other cells are as they were. -/
  cells : ∀ address, address ≠ 0 → memory.cell? address = start.cell? address

theorem multiplying_start (present : start.hasRegister 3 = true)
    (register : start.register? 1 = some factor) (cell : start.cell? 0 = some initial)
    (value : Value) :
    Multiplying start factor initial count 0
      ((start.setAccumulator value).setRegister 3 (Int64.ofNat count)) where
  left := by simp [Memory.register?_setRegister, present]
  sum := by simp [cell]
  factor := by
    simp [Memory.register?_setRegister, Memory.register?_setAccumulator, present, register]
  registers number general other := by
    simp [Memory.register?_setRegister, Memory.register?_setAccumulator, present, general, other]
  cells address _ := by simp

/-- The sum has the factor once more after a round. -/
theorem Multiplying.round (before : Multiplying start factor initial count index memory)
    (more : index < count) (small : count < 2 ^ 63) :
    ∃ after, Multiplying start factor initial count (index + 1) after ∧
      code.Path 8 3 memory 3 after := by
  have present : memory.hasRegister 3 = true := Memory.hasRegister_of_register? before.left
  have cell : memory.hasCell 0 = true := Memory.hasCell_of_cell? before.sum
  have nonzero : Int64.ofNat (count - index) ≠ 0 :=
    ofNat_ne_ofNat (by omega) (by decide) (Nat.sub_ne_zero_of_lt more)
  have less : Int64.ofNat (count - index) - 1 = Int64.ofNat (count - (index + 1)) := by
    have split : count - index = count - (index + 1) + 1 := by omega
    rw [split, Int64.ofNat_add]
    exact Int64.add_sub_cancel _ 1
  have more : initial + factor * Int64.ofNat index + factor =
      initial + factor * Int64.ofNat (index + 1) := by
    rw [Int64.ofNat_add, Int64.mul_add, ← Int64.add_assoc]
    exact congrArg _ (Int64.mul_one factor).symm
  refine ⟨_, ?_, path_round before.left nonzero before.sum before.factor⟩
  rw [less, more]
  exact
    { left := register?_afterRound present (by decide) _ _
      sum := cell?_afterRound cell _ _ 0
      factor := (register?_afterRound present (by decide) _ _).trans before.factor
      registers := fun number general other => by
        rw [register?_afterRound present general, if_neg other,
          before.registers number general other]
      cells := fun address other => by
        rw [cell?_afterRound cell, if_neg other, before.cells address other] }

/-- The loop does not depend on the accumulator. -/
theorem Multiplying.setAccumulator (before : Multiplying start factor initial count index memory)
    (value : Value) :
    Multiplying start factor initial count index (memory.setAccumulator value) where
  left := before.left
  sum := before.sum
  factor := before.factor
  registers number general other := by
    rw [Memory.register?_setAccumulator general, before.registers number general other]
  cells := before.cells

end Loop

/-! ## The program -/

/-- A machine with the multiplication program halts after all rounds. -/
theorem halts_of_at {machine : Machine} {factor initial : Value} {count : Nat}
    (here : machine.At code 1 machine.memory)
    (present : machine.memory.hasRegister 3 = true)
    (register : machine.memory.register? 1 = some factor)
    (counter : machine.memory.register? 2 = some (Int64.ofNat count)) (small : count < 2 ^ 63)
    (cell : machine.memory.cell? 0 = some initial) :
    ∃ stopped : Machine, stopped.halted = true ∧ stopped.lastError = machine.lastError ∧
      Multiplying machine.memory factor initial count count stopped.memory ∧
      ∀ budget, 8 * count + 5 ≤ budget → machine.run budget = (stopped, 8 * count + 5) := by
  obtain ⟨after, done, rounds⟩ := Program.Path.loop
    (Multiplying machine.memory factor initial count) count
    (multiplying_start present register cell (Int64.ofNat count))
    fun index memory inside before => before.round inside small
  have left : after.register? 3 = some 0 := by simpa using done.left
  have path := ((path_enter counter present).trans rounds).trans (path_leave left)
  obtain ⟨stopped, halted, memory, clean, runs⟩ := Machine.run_of_path_to_halt path here rfl rfl
  have steps : 2 + 8 * count + 2 + 1 = 8 * count + 5 := by omega
  rw [steps] at runs
  refine ⟨stopped, halted, clean, ?_, runs⟩
  rw [memory]
  exact done.setAccumulator 0

end Multiply

/-- The multiplication program, on any machine that has the registers and the cell that it uses.
It adds the product of registers 1 and 2 to the first cell, and it takes 8 steps for each unit of
register 2 and 5 more.  Only the first cell, register 3 and the accumulator change. -/
theorem run_multiply :
    ∃ program, assemble multiply = .ok program ∧
      ∀ (machine : Machine) (factor initial : Value) (count budget : Nat),
        machine.program = program → machine.halted = false → machine.programCounter = 1 →
        3 ≤ machine.registerCount → machine.memory.register? 1 = some factor →
        machine.memory.register? 2 = some (Int64.ofNat count) → count < 2 ^ 60 →
        machine.memory.cell? 0 = some initial → 8 * count + 5 ≤ budget →
        let final := (machine.run budget).1
        (machine.run budget).2 = 8 * count + 5 ∧ final.halted = true ∧
          final.lastError = machine.lastError ∧ (machine.Reachable → final.lastError = none) ∧
          final.memory.cell? 0 = some (Int64.ofInt (initial.toInt + factor.toInt * count)) ∧
          final.memory.register? 1 = some factor ∧
          final.memory.register? 2 = some (Int64.ofNat count) ∧
          final.memory.register? 3 = some 0 ∧
          (∀ number, number ≠ 0 → number ≠ 3 →
            final.memory.register? number = machine.memory.register? number) ∧
          ∀ address, address ≠ 0 → final.memory.cell? address = machine.memory.cell? address := by
  refine ⟨Multiply.code, Multiply.assemble_multiply, ?_⟩
  intro machine factor initial count budget holds running atStart registers register counter small
    cell enough final
  have present : machine.memory.hasRegister 3 = true := by
    simpa [Memory.hasRegister, Machine.registerCount] using registers
  obtain ⟨stopped, halted, clean, done, runs⟩ := Multiply.halts_of_at
    ⟨running, holds, atStart, rfl⟩ present register counter (by omega) cell
  have ended : machine.run budget = (stopped, 8 * count + 5) := runs budget enough
  have product : initial + factor * Int64.ofNat count =
      Int64.ofInt (initial.toInt + factor.toInt * count) := by
    rw [Int64.ofInt_add, Int64.ofInt_mul, Int64.ofInt_toInt, Int64.ofInt_toInt,
      Int64.ofInt_eq_ofNat]
  have left : stopped.memory.register? 3 = some 0 := by simpa using done.left
  simp only [final, ended]
  refine ⟨trivial, halted, clean, ?_, ?_, done.factor, ?_, left, done.registers, done.cells⟩
  · intro reachable
    rw [clean, reachable.lastError_eq_none running]
  · rw [done.sum, product]
  · rw [done.registers 2 (by decide) (by decide), counter]

/-- Six times seven on a machine with four registers and two cells, where the first cell has -1.
The run is allowed more steps than it takes. -/
theorem run_multiply_six_seven :
    let machine : Machine :=
      { memory := { accumulator := 9, general := #[6, 7, 8, 5], tape := #[-1, 4] }
        program := Multiply.code }
    let final := (machine.run 100).1
    assemble multiply = .ok machine.program ∧ (machine.run 100).2 = 61 ∧ final.halted = true ∧
      final.lastError = none ∧ final.memory.cell? 0 = some 41 ∧
      final.memory.cell? 1 = some 4 ∧ final.memory.register? 4 = some 5 := by
  intro machine final
  obtain ⟨program, assembled, runs⟩ := run_multiply
  have same : machine.program = program := by
    rw [Multiply.assemble_multiply] at assembled
    exact Except.ok.inj assembled
  obtain ⟨steps, halted, clean, _, sum, _, _, _, registers, cells⟩ :=
    runs machine 6 (-1) 7 100 same rfl rfl (by decide) rfl rfl (by decide) rfl (by decide)
  exact ⟨Multiply.assemble_multiply, steps, halted, clean, sum, cells 1 (by decide),
    registers 4 (by decide) (by decide)⟩

end Ram.Sample
