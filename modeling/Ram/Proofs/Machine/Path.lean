import Ram.Proofs.Machine.Run
import Ram.Proofs.Machine.Faults

/-!
# Paths through a program

While no instruction fails, what a machine does next depends on its program, the position of the
next instruction and the memory, and on nothing else.  So a program can be followed from one
position and memory to another without a machine.

*One instruction.*  `Memory.action_load` and the lemmas beside it say what each instruction does
in a memory that has what the instruction needs.  `Program.Next` is one instruction that leaves the
machine running: it writes a place, passes, or jumps.

*Many instructions.*  `Program.Path` is a list of such instructions with its length.  Paths are put
together (`Path.trans`), and a loop is a path for each round and an invariant that the rounds keep
(`Path.loop`).

*Machines.*  A machine at the start of a path makes as many steps as the path is long and is at its
end then (`Machine.run_of_path`).  If there is a `HALT` at the end the machine halts
(`Machine.run_of_path_to_halt`), and if there is an instruction that fails it halts with that error
(`Machine.run_of_path_to_fault`).
-/

namespace Ram

theorem Reading.result_bind_of_ok {α β : Type} {first : Reading α} {value : α}
    (success : first.result = .ok value) (next : α → Reading β) :
    (first >>= next).result = (next value).result := by
  rw [result_bind, success]
  rfl

/-! ## What is in the memory after writing -/

namespace Memory

variable {memory : Memory} {length : Nat} {number : RegisterNumber} {value : Value}
  {argument : Option Argument} {address : Nat}

@[simp] theorem cell?_setAccumulator (memory : Memory) (value : Value) (address : Nat) :
    (memory.setAccumulator value).cell? address = memory.cell? address := rfl

/-- Writing the accumulator changes no general register. -/
theorem register?_setAccumulator {number : RegisterNumber} (general : number ≠ 0)
    (memory : Memory) (value : Value) :
    (memory.setAccumulator value).register? number = memory.register? number := by
  simp only [register?, general, if_false, setAccumulator]

@[simp] theorem cell?_setRegister (memory : Memory) (number : RegisterNumber) (value : Value)
    (address : Nat) : (memory.setRegister number value).cell? address = memory.cell? address := by
  rw [cell?, tape_setRegister, cell?]

@[simp] theorem register?_setCell (memory : Memory) (address : Nat) (value : Value)
    (number : RegisterNumber) :
    (memory.setCell address value).register? number = memory.register? number := rfl

@[simp] theorem hasRegister_setAccumulator (memory : Memory) (value : Value)
    (number : RegisterNumber) :
    (memory.setAccumulator value).hasRegister number = memory.hasRegister number := rfl

@[simp] theorem hasRegister_setRegister (memory : Memory) (number other : RegisterNumber)
    (value : Value) :
    (memory.setRegister number value).hasRegister other = memory.hasRegister other := by
  simp only [hasRegister, size_general_setRegister]

@[simp] theorem hasRegister_setCell (memory : Memory) (address : Nat) (value : Value)
    (number : RegisterNumber) :
    (memory.setCell address value).hasRegister number = memory.hasRegister number := rfl

@[simp] theorem hasCell_setAccumulator (memory : Memory) (value : Value) (address : Nat) :
    (memory.setAccumulator value).hasCell address = memory.hasCell address := rfl

@[simp] theorem hasCell_setRegister (memory : Memory) (number : RegisterNumber) (value : Value)
    (address : Nat) :
    (memory.setRegister number value).hasCell address = memory.hasCell address := by
  simp only [hasCell, tape_setRegister]

theorem hasRegister_of_register? (holds : memory.register? number = some value) :
    memory.hasRegister number = true := by
  rw [← isSome_register?, holds]
  rfl

theorem hasCell_of_cell? (holds : memory.cell? address = some value) :
    memory.hasCell address = true := by
  rw [← isSome_cell?, holds]
  rfl

@[simp] theorem update_accumulator (memory : Memory) (value : Value) :
    memory.update (.accumulator value) = memory.setAccumulator value := rfl

@[simp] theorem update_register (memory : Memory) (number : RegisterNumber) (value : Value) :
    memory.update (.register number value) = memory.setRegister number value := rfl

/-! ## What each instruction does -/

theorem readAccumulator_ok (memory : Memory) :
    memory.readAccumulator.result = .ok memory.accumulator := rfl

theorem readRegister_of_register? (holds : memory.register? number = some value) :
    (memory.readRegister number).result = .ok value := by
  simp only [readRegister, holds]

theorem readCell_of_cell? (holds : memory.cell? address = some value) :
    (memory.readCell address).result = .ok value := by
  simp only [readCell, holds]

theorem operand_literal (memory : Memory) (value : Value) :
    (memory.operand (some (.literal value))).result = .ok value := rfl

theorem operand_register (holds : memory.register? number = some value) :
    (memory.operand (some (.register number))).result = .ok value :=
  readRegister_of_register? holds

theorem address_zero (memory : Memory) :
    (memory.address (some (.literal 0))).result = .ok 0 := rfl

theorem address_of_operand (operand : (memory.operand argument).result = .ok value)
    (nonnegative : 0 ≤ value) :
    (memory.address argument).result = .ok value.toNatClampNeg := by
  rw [Memory.address, Reading.result_bind_of_ok operand, if_neg (Int64.not_lt.mpr nonnegative)]
  rfl

theorem action_add (operand : (memory.operand argument).result = .ok value) :
    (memory.action length .add argument).result =
      .ok (.write (.accumulator (memory.accumulator + value))) := by
  rw [action, Reading.result_bind_of_ok operand,
    Reading.result_bind_of_ok memory.readAccumulator_ok]
  rfl

theorem action_sub (operand : (memory.operand argument).result = .ok value) :
    (memory.action length .sub argument).result =
      .ok (.write (.accumulator (memory.accumulator - value))) := by
  rw [action, Reading.result_bind_of_ok operand,
    Reading.result_bind_of_ok memory.readAccumulator_ok]
  rfl

theorem action_load (holds : memory.register? number = some value) :
    (memory.action length .load (some (.register number))).result =
      .ok (.write (.accumulator value)) := by
  have named : (registerArgument (some (.register number))).result = .ok number := rfl
  rw [action, Reading.result_bind_of_ok named,
    Reading.result_bind_of_ok (readRegister_of_register? holds)]
  rfl

theorem action_store (present : memory.hasRegister number = true) :
    (memory.action length .store (some (.register number))).result =
      .ok (.write (.register number memory.accumulator)) := by
  have named : (registerArgument (some (.register number))).result = .ok number := rfl
  rw [action, Reading.result_bind_of_ok memory.readAccumulator_ok,
    Reading.result_bind_of_ok named, if_pos present]
  rfl

theorem action_read (located : (memory.address argument).result = .ok address)
    (holds : memory.cell? address = some value) :
    (memory.action length .read argument).result = .ok (.write (.accumulator value)) := by
  rw [action, Reading.result_bind_of_ok located,
    Reading.result_bind_of_ok (readCell_of_cell? holds)]
  rfl

theorem action_read_eq_error (located : (memory.address argument).result = .ok address)
    (beyond : memory.cell? address = none) :
    (memory.action length .read argument).result = .error (.tapeReadOutOfBounds address) := by
  rw [action, Reading.result_bind_of_ok located, Reading.bind_eq_error_iff]
  exact .inl (readCell_eq_error_iff.mpr ⟨cell?_eq_none_iff.mp beyond, rfl⟩)

theorem action_write (located : (memory.address argument).result = .ok address)
    (present : memory.hasCell address = true) :
    (memory.action length .write argument).result =
      .ok (.write (.cell address memory.accumulator)) := by
  rw [action, Reading.result_bind_of_ok located,
    Reading.result_bind_of_ok memory.readAccumulator_ok, if_pos present]
  rfl

theorem action_jzero_of_ne (nonzero : memory.accumulator ≠ 0) :
    (memory.action length .jzero argument).result = .ok {} := by
  rw [action, Reading.result_bind_of_ok memory.readAccumulator_ok, if_neg nonzero]
  rfl

theorem action_jzero_of_eq (zero : memory.accumulator = 0) :
    (memory.action length .jzero argument).result = (jumpTo length argument).result := by
  rw [action, Reading.result_bind_of_ok memory.readAccumulator_ok, if_pos zero]

end Memory

/-- A label of a program leads to its target. -/
theorem jumpTo_label {program : Program} {name : String} {target : Nat}
    (inside : (program.get? target).isSome) :
    (jumpTo program.length (some (.label name target))).result = .ok (.move (.jump target)) := by
  have bounds := Program.isSome_get?_iff.mp inside
  have valid : ¬ (target = 0 ∨ program.length + 1 < target) := by omega
  simp only [jumpTo, Option.bind_some, Argument.position?, valid, if_false]
  rfl

/-! ## Paths -/

namespace Program

variable {program : Program} {position middle final steps : Nat} {memory between after : Memory}

/-- One instruction that leaves a machine running, from a position and a memory to the next
ones. -/
inductive Next (program : Program) : Nat → Memory → Nat → Memory → Prop where
  /-- The instruction writes a place. -/
  | write {position : Nat} {memory : Memory} {instruction : Instruction} {update : Update} :
    program.get? position = some instruction →
    (memory.action program.length instruction.mnemonic (instruction.argument? 0)).result =
      .ok (.write update) →
    (program.get? (position + 1)).isSome →
    Next program position memory (position + 1) (memory.update update)
  /-- The instruction does nothing. -/
  | pass {position : Nat} {memory : Memory} {instruction : Instruction} :
    program.get? position = some instruction →
    (memory.action program.length instruction.mnemonic (instruction.argument? 0)).result =
      .ok {} →
    (program.get? (position + 1)).isSome →
    Next program position memory (position + 1) memory
  /-- The instruction jumps. -/
  | jump {position target : Nat} {memory : Memory} {instruction : Instruction} :
    program.get? position = some instruction →
    (memory.action program.length instruction.mnemonic (instruction.argument? 0)).result =
      .ok (.move (.jump target)) →
    (program.get? target).isSome →
    Next program position memory target memory

/-- Instructions that are executed one after another and leave a machine running, with their
number. -/
inductive Path (program : Program) : Nat → Nat → Memory → Nat → Memory → Prop where
  /-- No instruction. -/
  | nil {position : Nat} {memory : Memory} : Path program 0 position memory position memory
  /-- One instruction and then others. -/
  | cons {position middle final steps : Nat} {memory between after : Memory} :
    Next program position memory middle between →
    Path program steps middle between final after →
    Path program (steps + 1) position memory final after

namespace Path

/-- A path goes on where another one ends. -/
theorem trans (first : program.Path steps position memory middle between) {more : Nat}
    (second : program.Path more middle between final after) :
    program.Path (steps + more) position memory final after := by
  induction first with
  | nil => simpa using second
  | cons next _ hypothesis =>
      rw [Nat.add_right_comm]
      exact .cons next (hypothesis second)

/-- A loop with an invariant that counts the rounds. -/
theorem loop (invariant : Nat → Memory → Prop) (rounds : Nat) (initially : invariant 0 memory)
    (round : ∀ index memory, index < rounds → invariant index memory →
      ∃ after, invariant (index + 1) after ∧ program.Path steps position memory position after) :
    ∃ after, invariant rounds after ∧
      program.Path (steps * rounds) position memory position after := by
  induction rounds with
  | zero => exact ⟨memory, initially, .nil⟩
  | succ rounds hypothesis =>
      obtain ⟨between, kept, earlier⟩ := hypothesis fun index memory inside =>
        round index memory (Nat.lt_succ_of_lt inside)
      obtain ⟨after, holds, last⟩ := round rounds between (Nat.lt_succ_self rounds) kept
      exact ⟨after, holds, earlier.trans last⟩

end Path

end Program

/-! ## Machines on a path -/

namespace Machine

variable {machine : Machine} {program : Program} {position final steps : Nat}
  {memory after : Memory} {instruction : Instruction}

/-- Whether the machine is running the program, with the given position and memory. -/
structure At (machine : Machine) (program : Program) (position : Nat) (memory : Memory) : Prop where
  running : machine.halted = false
  program : machine.program = program
  counter : machine.programCounter = position
  memory : machine.memory = memory

namespace At

/-- A machine on a path carries out the action of its instruction. -/
theorem step_of_ok (here : machine.At program position memory)
    (fetched : program.get? position = some instruction) {action : Action}
    (acts : (memory.action program.length instruction.mnemonic (instruction.argument? 0)).result =
      .ok action) :
    machine.step = machine.commit (machine.reading instruction).touched action := by
  obtain ⟨running, rfl, rfl, rfl⟩ := here
  rw [step_of_running running fetched]
  simp only [execute, reading, acts]

/-- A machine on a path ends with the fault of its instruction. -/
theorem step_of_error (here : machine.At program position memory)
    (fetched : program.get? position = some instruction) {fault : Fault}
    (fails : (memory.action program.length instruction.mnemonic (instruction.argument? 0)).result =
      .error fault) :
    machine.step =
      machine.fail (machine.reading instruction).touched
        ⟨instruction.mnemonic, position, fault⟩ := by
  obtain ⟨running, rfl, rfl, rfl⟩ := here
  rw [step_of_running running fetched]
  simp only [execute, reading, fails]

/-- The machine goes to a position inside the program. -/
theorem proceed (here : machine.At program position memory) {target : Nat}
    (inside : (program.get? target).isSome) :
    (machine.proceed target).1.At program target memory ∧
      (machine.proceed target).1.lastError = machine.lastError := by
  have stays : ¬ machine.program.length < target := by
    rw [here.program, Nat.not_lt]
    exact (Program.isSome_get?_iff.mp inside).2
  rw [Machine.proceed, if_neg stays]
  exact ⟨⟨here.running, here.program, rfl, here.memory⟩, rfl⟩

/-- The machine does what an instruction comes to, if control stays inside the program. -/
theorem commit (here : machine.At program position memory) {action : Action} {target : Nat}
    (moves : action.flow = .next ∧ target = position + 1 ∨ action.flow = .jump target)
    (inside : (program.get? target).isSome) (read : Footprint) :
    (machine.commit read action).1.At program target (memory.perform action) ∧
      (machine.commit read action).1.lastError = machine.lastError := by
  obtain ⟨running, rfl, rfl, rfl⟩ := here
  have written : ({ machine with
      memory := machine.memory.perform action
      trace := { read, changed := action.footprint } } : Machine).At machine.program
        machine.programCounter (machine.memory.perform action) := ⟨running, rfl, rfl, rfl⟩
  rcases moves with ⟨flow, rfl⟩ | flow
  · simp only [Machine.commit, flow, follow]
    exact written.proceed inside
  · simp only [Machine.commit, flow, follow]
    exact written.proceed inside

/-- The machine makes one step of a path. -/
theorem step (here : machine.At program position memory)
    (next : program.Next position memory final after) :
    machine.step.1.At program final after ∧ machine.step.1.lastError = machine.lastError := by
  cases next with
  | write fetched acts inside =>
      rw [here.step_of_ok fetched acts]
      exact here.commit (.inl ⟨rfl, rfl⟩) inside _
  | pass fetched acts inside =>
      rw [here.step_of_ok fetched acts]
      exact here.commit (.inl ⟨rfl, rfl⟩) inside _
  | jump fetched acts inside =>
      rw [here.step_of_ok fetched acts]
      exact here.commit (.inr rfl) inside _

end At

/-- A machine makes the steps of a path. -/
theorem run_of_path (path : program.Path steps position memory final after)
    (here : machine.At program position memory) :
    ∃ reached : Machine, reached.At program final after ∧ reached.lastError = machine.lastError ∧
      ∀ budget, machine.run (steps + budget) =
        ((reached.run budget).1, (reached.run budget).2 + steps) := by
  induction path generalizing machine with
  | nil => exact ⟨machine, here, rfl, fun budget => by rw [Nat.zero_add, Nat.add_zero]⟩
  | cons next _ hypothesis =>
      obtain ⟨there, clean⟩ := here.step next
      obtain ⟨reached, arrived, error, runs⟩ := hypothesis there
      refine ⟨reached, arrived, error.trans clean, fun budget => ?_⟩
      rw [Nat.add_right_comm, run_succ_of_running here.running, runs, Nat.add_assoc]

/-- A machine that halts in its next step makes one step, however many are allowed. -/
theorem run_of_halted_step (running : machine.halted = false)
    (halts : machine.step.1.halted = true) {budget : Nat} (enough : 1 ≤ budget) :
    machine.run budget = (machine.step.1, 1) := by
  obtain ⟨rest, rfl⟩ := Nat.exists_eq_add_of_le' enough
  rw [run_succ_of_running running, run_of_halted halts]

/-- A machine makes the steps of a path and then one more, in which it halts. -/
theorem run_of_path_of_halted (path : program.Path steps position memory final after)
    (here : machine.At program position memory)
    (halts : ∀ reached : Machine, reached.At program final after →
      reached.step.1.halted = true) :
    ∃ reached : Machine, reached.At program final after ∧ reached.lastError = machine.lastError ∧
      ∀ budget, steps + 1 ≤ budget → machine.run budget = (reached.step.1, steps + 1) := by
  obtain ⟨reached, arrived, clean, runs⟩ := run_of_path path here
  refine ⟨reached, arrived, clean, fun budget enough => ?_⟩
  have split : budget = steps + (budget - steps) := by omega
  rw [split, runs, run_of_halted_step arrived.running (halts reached arrived) (by omega),
    Nat.add_comm]

/-- At the end of a path to a `HALT` the machine halts, and it has the error that it had. -/
theorem run_of_path_to_halt (path : program.Path steps position memory final after)
    (here : machine.At program position memory) (fetched : program.get? final = some instruction)
    (stops : instruction.mnemonic = .halt) :
    ∃ stopped : Machine, stopped.halted = true ∧ stopped.memory = after ∧
      stopped.lastError = machine.lastError ∧
      ∀ budget, steps + 1 ≤ budget → machine.run budget = (stopped, steps + 1) := by
  have acts : (after.action program.length instruction.mnemonic (instruction.argument? 0)).result =
      .ok (.move .halt) := by
    rw [stops]
    rfl
  have last (reached : Machine) (arrived : reached.At program final after) :
      reached.step = reached.commit (reached.reading instruction).touched (.move .halt) :=
    arrived.step_of_ok fetched acts
  obtain ⟨reached, arrived, clean, runs⟩ := run_of_path_of_halted path here
    fun reached arrived => by rw [last reached arrived]; rfl
  refine ⟨reached.step.1, ?_, ?_, ?_, runs⟩ <;> rw [last reached arrived]
  · rfl
  · exact arrived.memory
  · exact clean

/-- At the end of a path to an instruction that fails the machine halts with that error. -/
theorem run_of_path_to_fault (path : program.Path steps position memory final after)
    (here : machine.At program position memory) (fetched : program.get? final = some instruction)
    {fault : Fault}
    (fails : (after.action program.length instruction.mnemonic (instruction.argument? 0)).result =
      .error fault) :
    ∃ stopped : Machine, stopped.halted = true ∧ stopped.memory = after ∧
      stopped.lastError = some ⟨instruction.mnemonic, final, fault⟩ ∧
      ∀ budget, steps + 1 ≤ budget → machine.run budget = (stopped, steps + 1) := by
  have last (reached : Machine) (arrived : reached.At program final after) :
      reached.step =
        reached.fail (reached.reading instruction).touched ⟨instruction.mnemonic, final, fault⟩ :=
    arrived.step_of_error fetched fails
  obtain ⟨reached, arrived, _, runs⟩ := run_of_path_of_halted path here
    fun reached arrived => by rw [last reached arrived]; rfl
  refine ⟨reached.step.1, ?_, ?_, ?_, runs⟩ <;> rw [last reached arrived]
  · rfl
  · exact arrived.memory
  · rfl

end Machine

end Ram
