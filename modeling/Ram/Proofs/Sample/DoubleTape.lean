import Ram.Proofs.Machine.Bounds
import Ram.Proofs.Machine.Path
import Ram.Proofs.Sample.Basic

/-!
# The program that doubles the tape

`Sample.doubleTape` walks over the tape with the address in register 2 and doubles one cell a round.
It stops when the address is the number in register 1, and it compares the two before it reads.  So
a number that no address of the tape and not its length comes to makes it read behind the last cell.

*The parts of the loop.*  `path_compare` and `path_end` go from the head of the loop into a round
and out of the loop, `path_double` and `path_advance` through a round and back to the head.

*The loop.*  `Doubling` is the memory at the head of the loop after some rounds: the cells that were
passed are doubled and the others are as they were.  A round takes 11 steps (`Doubling.round`).
Both ways out of the loop take 4 more, and both start from the same invariant (`path_rounds`).
-/

namespace Ram.Sample

namespace DoubleTape

/-! ## The parts of the loop -/

section Parts

variable {memory : Memory} {walker bound : Value}

/-- The head of the loop, while the walker is not at the bound. -/
theorem path_compare (here : memory.register? 2 = some walker)
    (there : memory.register? 1 = some bound) (different : walker ≠ bound) :
    code.Path 3 1 memory 4 (memory.setAccumulator (walker - bound)) := by
  have nonzero : walker - bound ≠ 0 := by
    intro zero
    rw [← Int64.sub_add_cancel walker bound, zero, Int64.zero_add] at different
    exact different rfl
  exact .cons (.write rfl (Memory.action_load here) rfl) <|
    .cons (.write rfl (Memory.action_sub (Memory.operand_register there)) rfl) <|
    .cons (.pass rfl (Memory.action_jzero_of_ne nonzero) rfl) .nil

/-- The head of the loop, once the walker is at the bound. -/
theorem path_end (here : memory.register? 2 = some bound)
    (there : memory.register? 1 = some bound) :
    code.Path 3 1 memory 12 (memory.setAccumulator 0) := by
  have zero : bound - bound = 0 := Int64.sub_self bound
  rw [← zero]
  exact .cons (.write rfl (Memory.action_load here) rfl) <|
    .cons (.write rfl (Memory.action_sub (Memory.operand_register there)) rfl) <|
    .cons (.jump rfl ((Memory.action_jzero_of_eq zero).trans (jumpTo_label rfl)) rfl) .nil

/-- The memory after a cell was doubled, with the value that it had. -/
def afterDouble (memory : Memory) (address : Nat) (value : Value) : Memory :=
  (((memory.setAccumulator value).setRegister 3 value).setAccumulator (value + value)).setCell
    address (value + value)

/-- The part that doubles the cell under the walker. -/
theorem path_double {address : Nat} {value : Value} (here : memory.register? 2 = some walker)
    (scratch : memory.hasRegister 3 = true) (points : walker.toNatClampNeg = address)
    (nonnegative : 0 ≤ walker) (cell : memory.cell? address = some value) :
    code.Path 4 4 memory 8 (afterDouble memory address value) := by
  subst points
  have located (other : Memory) (holds : other.register? 2 = some walker) :
      (other.address (some (.register 2))).result = .ok walker.toNatClampNeg :=
    Memory.address_of_operand (Memory.operand_register holds) nonnegative
  have stored : ((memory.setAccumulator value).setRegister 3 value).register? 3 = some value := by
    simp [Memory.register?_setRegister, scratch]
  have kept : (((memory.setAccumulator value).setRegister 3 value).setAccumulator
      (value + value)).register? 2 = some walker := by
    simp [Memory.register?_setRegister, Memory.register?_setAccumulator, scratch, here]
  have present := Memory.hasCell_of_cell? cell
  exact .cons (.write rfl (Memory.action_read (located _ here) cell) rfl) <|
    .cons (.write rfl (Memory.action_store scratch) rfl) <|
    .cons (.write rfl (Memory.action_add (Memory.operand_register stored)) rfl) <|
    .cons (.write rfl (Memory.action_write (located _ kept) (by simpa using present)) rfl) .nil

/-- The part that moves the walker on and goes back to the head. -/
theorem path_advance (here : memory.register? 2 = some walker) :
    code.Path 4 8 memory 1
      ((memory.setAccumulator (walker + 1)).setRegister 2 (walker + 1)) :=
  have present : memory.hasRegister 2 = true := Memory.hasRegister_of_register? here
  .cons (.write rfl (Memory.action_load here) rfl) <|
    .cons (.write rfl (Memory.action_add (Memory.operand_literal _ 1)) rfl) <|
    .cons (.write rfl (Memory.action_store present) rfl) <|
    .cons (.jump rfl (jumpTo_label rfl) rfl) .nil

/-- The memory after a round, with the address of the cell and the value that it had. -/
def afterPass (memory : Memory) (walker : Value) (address : Nat) (value : Value) : Memory :=
  ((afterDouble memory address value).setAccumulator (walker + 1)).setRegister 2 (walker + 1)

theorem hasRegister_afterPass (memory : Memory) (walker : Value) (address : Nat) (value : Value)
    (number : RegisterNumber) :
    (afterPass memory walker address value).hasRegister number = memory.hasRegister number := by
  simp [afterPass, afterDouble]

theorem register?_afterPass {number : RegisterNumber} (present : memory.hasRegister 2 = true)
    (scratch : memory.hasRegister 3 = true) (general : number ≠ 0) (other : number ≠ 3)
    (walker : Value) (address : Nat) (value : Value) :
    (afterPass memory walker address value).register? number =
      if number = 2 then some (walker + 1) else memory.register? number := by
  simp [afterPass, afterDouble, Memory.register?_setRegister, Memory.register?_setAccumulator,
    present, scratch, general, other]

/-- A pass changes no cell but the one under the walker. -/
theorem cell?_afterPass {address : Nat} (present : memory.hasCell address = true)
    (walker value : Value) (other : Nat) :
    (afterPass memory walker address value).cell? other =
      if other = address then some (value + value) else memory.cell? other := by
  simp [afterPass, afterDouble, Memory.cell?_setCell, present]

theorem path_round {address : Nat} {value : Value} (here : memory.register? 2 = some walker)
    (there : memory.register? 1 = some bound) (different : walker ≠ bound)
    (scratch : memory.hasRegister 3 = true) (points : walker.toNatClampNeg = address)
    (nonnegative : 0 ≤ walker) (cell : memory.cell? address = some value) :
    code.Path 11 1 memory 1 (afterPass memory walker address value) := by
  have compared := path_compare here there different
  have doubled : code.Path 4 4 (memory.setAccumulator (walker - bound)) 8
      (afterDouble memory address value) := path_double here scratch points nonnegative cell
  have kept : (afterDouble memory address value).register? 2 = some walker := by
    simp [afterDouble, Memory.register?_setRegister, Memory.register?_setAccumulator, scratch, here]
  exact (compared.trans doubled).trans (path_advance kept)

end Parts

/-! ## The loop -/

section Loop

variable {start memory : Memory} {bound : Value} {index : Nat}

/-- The memory at the head of the loop after some rounds. -/
structure Doubling (start : Memory) (bound : Value) (index : Nat) (memory : Memory) : Prop where
  /-- The address in register 2 is the number of rounds. -/
  walker : memory.register? 2 = some (Int64.ofNat index)
  /-- Register 1 has the number at which the loop ends. -/
  bound : memory.register? 1 = some bound
  /-- There is a register 3. -/
  scratch : memory.hasRegister 3 = true
  /-- The cells that were passed are doubled, and the others are as they were. -/
  cells : ∀ address, memory.cell? address =
    (start.cell? address).map fun value => if address < index then value + value else value

theorem doubling_start (here : start.register? 2 = some 0) (there : start.register? 1 = some bound)
    (scratch : start.hasRegister 3 = true) : Doubling start bound 0 start where
  walker := here
  bound := there
  scratch := scratch
  cells address := by simp

/-- One more cell is doubled after a round. -/
theorem Doubling.round (before : Doubling start bound index memory)
    (inside : index < start.tape.size) (small : index < 2 ^ 63) (more : Int64.ofNat index ≠ bound) :
    ∃ after, Doubling start bound (index + 1) after ∧ code.Path 11 1 memory 1 after := by
  obtain ⟨value, found⟩ : ∃ value, start.cell? index = some value :=
    ⟨_, Array.getElem?_eq_getElem inside⟩
  have cell : memory.cell? index = some value := by
    rw [before.cells, found]
    simp
  have present : memory.hasRegister 2 = true := Memory.hasRegister_of_register? before.walker
  have successor : Int64.ofNat index + 1 = Int64.ofNat (index + 1) :=
    (Int64.ofNat_add index 1).symm
  refine ⟨_, ?_, path_round before.walker before.bound more before.scratch
    (Int64.toNatClampNeg_ofNat_of_lt small) (zero_le_ofNat small) cell⟩
  exact
    { walker := by
        rw [register?_afterPass present before.scratch (by decide) (by decide), if_pos rfl,
          successor]
      bound := by
        rw [register?_afterPass present before.scratch (by decide) (by decide), if_neg (by decide),
          before.bound]
      scratch := by rw [hasRegister_afterPass, before.scratch]
      cells := fun address => by
        rw [cell?_afterPass (Memory.hasCell_of_cell? cell)]
        by_cases same : address = index
        · subst same
          simp [found]
        · have iff : address < index + 1 ↔ address < index := by omega
          rw [if_neg same, before.cells]
          simp only [iff] }

/-- The loop goes on while the address on the tape is not the number in register 1. -/
theorem path_rounds {rounds : Nat} (here : start.register? 2 = some 0)
    (there : start.register? 1 = some bound) (scratch : start.hasRegister 3 = true)
    (inside : rounds ≤ start.tape.size) (small : start.tape.size < 2 ^ 63)
    (more : ∀ index < rounds, Int64.ofNat index ≠ bound) :
    ∃ after, Doubling start bound rounds after ∧ code.Path (11 * rounds) 1 start 1 after :=
  Program.Path.loop (Doubling start bound) rounds (doubling_start here there scratch)
    fun index _ early before => before.round (by omega) (by omega) (more index early)

end Loop

/-! ## The program -/

section Program

variable {machine : Machine} {bound : Value}

/-- From the head of the loop the program doubles the cells up to the bound and halts. -/
theorem halts_of_at {count : Nat} (here : machine.At code 1 machine.memory)
    (walker : machine.memory.register? 2 = some 0)
    (there : machine.memory.register? 1 = some (Int64.ofNat count))
    (scratch : machine.memory.hasRegister 3 = true) (inside : count ≤ machine.tapeLength)
    (small : machine.tapeLength < 2 ^ 63) :
    ∃ stopped : Machine, stopped.halted = true ∧ stopped.lastError = machine.lastError ∧
      (∀ address, stopped.memory.cell? address =
        (machine.memory.cell? address).map fun value =>
          if address < count then value + value else value) ∧
      ∀ budget, 11 * count + 4 ≤ budget → machine.run budget = (stopped, 11 * count + 4) := by
  have more (index : Nat) (early : index < count) : Int64.ofNat index ≠ Int64.ofNat count :=
    ofNat_ne_ofNat (by omega) (by omega) (Nat.ne_of_lt early)
  obtain ⟨after, done, rounds⟩ := path_rounds walker there scratch inside small more
  have path := rounds.trans (path_end done.walker done.bound)
  obtain ⟨stopped, halted, memory, clean, runs⟩ := Machine.run_of_path_to_halt path here rfl rfl
  refine ⟨stopped, halted, clean, ?_, runs⟩
  rw [memory]
  exact done.cells

/-- If the bound is never met, the program doubles all cells and ends in a fault behind the last.
-/
theorem faults_of_at (here : machine.At code 1 machine.memory)
    (walker : machine.memory.register? 2 = some 0)
    (there : machine.memory.register? 1 = some bound)
    (scratch : machine.memory.hasRegister 3 = true) (small : machine.tapeLength < 2 ^ 63)
    (more : ∀ index ≤ machine.tapeLength, Int64.ofNat index ≠ bound) :
    ∃ stopped : Machine, stopped.halted = true ∧
      stopped.lastError = some ⟨.read, 4, .tapeReadOutOfBounds machine.tapeLength⟩ ∧
      (∀ address, stopped.memory.cell? address =
        (machine.memory.cell? address).map fun value => value + value) ∧
      ∀ budget, 11 * machine.tapeLength + 4 ≤ budget →
        machine.run budget = (stopped, 11 * machine.tapeLength + 4) := by
  obtain ⟨after, done, rounds⟩ := path_rounds walker there scratch
    (Nat.le_refl machine.tapeLength) small fun index early => more index (Nat.le_of_lt early)
  have path := rounds.trans (path_compare done.walker done.bound (more _ (Nat.le_refl _)))
  have beyond : after.cell? machine.tapeLength = none := by
    rw [done.cells, Option.map_eq_none_iff, Memory.cell?_eq_none_iff]
    exact Nat.le_refl _
  have located : ((after.setAccumulator (Int64.ofNat machine.tapeLength - bound)).address
      (some (.register 2))).result = .ok machine.tapeLength := by
    rw [← Int64.toNatClampNeg_ofNat_of_lt small]
    exact Memory.address_of_operand (Memory.operand_register done.walker) (zero_le_ofNat small)
  obtain ⟨stopped, halted, memory, error, runs⟩ :=
    Machine.run_of_path_to_fault path here rfl (Memory.action_read_eq_error located beyond)
  refine ⟨stopped, halted, error, fun address => ?_, runs⟩
  rw [memory, Memory.cell?_setAccumulator, done.cells]
  by_cases inside : address < machine.tapeLength
  · simp only [inside, if_true]
  · have outside : machine.memory.cell? address = none :=
      Memory.cell?_eq_none_iff.mpr (Nat.not_lt.mp inside)
    rw [outside, Option.map_none, Option.map_none]

end Program

end DoubleTape

/-- A doubled value, as a number that wraps. -/
theorem add_self_eq (value : Value) : value + value = Int64.ofInt (2 * value.toInt) := by
  rw [Int.two_mul, Int64.ofInt_add, Int64.ofInt_toInt]

/-- The program that doubles the tape, on any machine that has the registers that it uses.  If
register 1 has a number up to the length of the tape, the program doubles so many cells and halts.
For any other number it doubles all cells and then fails behind the last one. -/
theorem run_doubleTape :
    ∃ program, assemble doubleTape = .ok program ∧
      ∀ (machine : Machine) (bound : Value) (budget : Nat),
        machine.program = program → machine.halted = false → machine.programCounter = 1 →
        3 ≤ machine.registerCount → machine.tapeLength < 2 ^ 60 →
        machine.memory.register? 2 = some 0 → machine.memory.register? 1 = some bound →
        let final := (machine.run budget).1
        (0 ≤ bound.toInt → bound.toInt ≤ machine.tapeLength →
          11 * bound.toInt.toNat + 4 ≤ budget →
          (machine.run budget).2 = 11 * bound.toInt.toNat + 4 ∧ final.halted = true ∧
            final.lastError = machine.lastError ∧ (machine.Reachable → final.lastError = none) ∧
            ∀ address, final.memory.cell? address =
              (machine.memory.cell? address).map fun value =>
                if address < bound.toInt.toNat then Int64.ofInt (2 * value.toInt) else value) ∧
        (bound.toInt < 0 ∨ machine.tapeLength < bound.toInt →
          11 * machine.tapeLength + 4 ≤ budget →
          (machine.run budget).2 = 11 * machine.tapeLength + 4 ∧ final.halted = true ∧
            final.lastError = some ⟨.read, 4, .tapeReadOutOfBounds machine.tapeLength⟩ ∧
            ∀ address, final.memory.cell? address =
              (machine.memory.cell? address).map fun value => Int64.ofInt (2 * value.toInt)) := by
  refine ⟨DoubleTape.code, DoubleTape.assemble_doubleTape, ?_⟩
  intro machine bound budget holds running atStart registers short walker there final
  have scratch : machine.memory.hasRegister 3 = true := by
    simpa [Memory.hasRegister, Machine.registerCount] using registers
  have here : machine.At DoubleTape.code 1 machine.memory := ⟨running, holds, atStart, rfl⟩
  have small : machine.tapeLength < 2 ^ 63 := by omega
  constructor
  · intro nonnegative inside enough
    have number : bound = Int64.ofNat bound.toInt.toNat := by
      rw [← Int64.ofInt_eq_ofNat, Int.toNat_of_nonneg nonnegative, Int64.ofInt_toInt]
    rw [number] at there
    obtain ⟨stopped, halted, clean, cells, runs⟩ :=
      DoubleTape.halts_of_at here walker there scratch (by omega) small
    simp only [final, runs budget enough, ← add_self_eq]
    refine ⟨trivial, halted, clean, fun reachable => ?_, cells⟩
    rw [clean, reachable.lastError_eq_none running]
  · intro outside enough
    have more (index : Nat) (inside : index ≤ machine.tapeLength) : Int64.ofNat index ≠ bound := by
      rintro rfl
      rw [Int64.toInt_ofNat_of_lt (by omega)] at outside
      omega
    obtain ⟨stopped, halted, error, cells, runs⟩ :=
      DoubleTape.faults_of_at here walker there scratch small more
    simp only [final, runs budget enough, ← add_self_eq]
    exact ⟨trivial, halted, error, cells⟩

/-- Two of three cells are doubled, the second one with a value that wraps.  With -1 in register 1
all three cells are doubled, and then the program fails. -/
theorem run_doubleTape_three :
    let memory (bound : Value) : Memory :=
      { accumulator := 5, general := #[bound, 0, 8], tape := #[3, 4611686018427387904, -7] }
    let machine (bound : Value) : Machine := { memory := memory bound, program := DoubleTape.code }
    assemble doubleTape = .ok DoubleTape.code ∧
      ((machine 2).run 30).2 = 26 ∧ ((machine 2).run 30).1.lastError = none ∧
      ((machine 2).run 30).1.memory.cell? 1 = some (-9223372036854775808) ∧
      ((machine 2).run 30).1.memory.cell? 2 = some (-7) ∧
      ((machine (-1)).run 40).2 = 37 ∧
      ((machine (-1)).run 40).1.lastError = some ⟨.read, 4, .tapeReadOutOfBounds 3⟩ ∧
      ((machine (-1)).run 40).1.memory.cell? 2 = some (-14) := by
  intro memory machine
  obtain ⟨program, assembled, runs⟩ := run_doubleTape
  obtain rfl : DoubleTape.code = program := by
    rw [DoubleTape.assemble_doubleTape] at assembled
    exact Except.ok.inj assembled
  obtain ⟨steps, _, clean, _, cells⟩ :=
    (runs (machine 2) 2 30 rfl rfl rfl (by decide) (by decide) rfl rfl).1 (by decide) (by decide)
      (by decide)
  obtain ⟨stepsToFault, _, error, doubled⟩ :=
    (runs (machine (-1)) (-1) 40 rfl rfl rfl (by decide) (by decide) rfl rfl).2 (.inl (by decide))
      (by decide)
  exact ⟨assembled, steps, clean, cells 1, cells 2, stepsToFault, error, doubled 2⟩

end Ram.Sample
