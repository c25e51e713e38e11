import Ram.Proofs.Machine.Work

/-!
# Machines in place do what machines do

`Machine` says what an instruction reads and what comes of it, and `InPlace` does it piece by piece.
Put in place, a machine with an accumulator goes through the same states, gives the same replies and
never crashes.

*Instructions.*  A work follows a reading if it marks what the reading touches and comes to what it
comes to (`Machine.Follows`).  An instruction performs its action if the write at its end is the one
that the action names (`Machine.Performs`).  Both go through `do` blocks, and so the works and the
readings of an instruction are compared line by line (`Machine.performs_execute`).

*Steps and commands.*  `Machine.step_inPlace` follows for steps, and with it the same for runs, for
commands and for sessions (`Machine.applyAll_inPlace`).
-/

namespace Ram

/-! ## Registers in place -/

namespace Memory

variable (memory : Memory)

/-- The bank has the register of each number at that index. -/
theorem getElem?_registers (number : RegisterNumber) :
    memory.registers[number.toNat]? = memory.register? number := by
  unfold registers register?
  split
  next zero => simp [zero]
  next nonzero =>
    obtain ⟨before, counted⟩ := Nat.exists_eq_add_one.mpr (toNat_pos nonzero)
    simp [counted]

theorem registers_setAccumulator (value : Value) :
    (memory.setAccumulator value).registers.toArray =
      memory.registers.toArray.setIfInBounds 0 value := by
  simp [registers, setAccumulator]

/-- Writing a register is writing the bank at its number. -/
theorem registers_setRegister (number : RegisterNumber) (value : Value) :
    (memory.setRegister number value).registers.toArray =
      memory.registers.toArray.setIfInBounds number.toNat value := by
  unfold setRegister
  split
  next zero =>
    rw [zero]
    exact registers_setAccumulator memory value
  next nonzero =>
    obtain ⟨before, counted⟩ := Nat.exists_eq_add_one.mpr (toNat_pos nonzero)
    simp [registers, counted]

/-- The bank has one register more than there are general ones. -/
theorem size_registers : memory.registers.toArray.size = memory.general.size + 1 := by
  simp [registers]

/-- The numbers of registers are the indices of the bank. -/
theorem lt_size_registers_iff (number : RegisterNumber) :
    number.toNat < memory.registers.toArray.size ↔ memory.hasRegister number = true := by
  rw [size_registers, Nat.lt_succ_iff, hasRegister, decide_eq_true_eq]

theorem lt_size_tape_iff (address : Nat) :
    address < memory.tape.size ↔ memory.hasCell address = true := by
  rw [hasCell, decide_eq_true_eq]

end Memory

namespace Machine

/-! ## Following a reading -/

/-- Whether a work on a machine in place does what a reading says. -/
def Follows {α : Type} (machine : Machine) (work : Work α) (reading : Reading α) : Prop :=
  ∀ trace : Trace, work.on { machine with trace }.inPlace =
    (reading.result.mapError .fault,
      { machine with trace := { trace with read := trace.read.merge reading.touched } }.inPlace)

variable {α β : Type} {machine : Machine}

theorem follows_done (value : α) : machine.Follows (pure value) (.done value) := by
  intro trace
  show _ = ((.ok value, _) : Except Stop α × InPlace)
  rw [Reading.done, Footprint.merge_empty]
  rfl

theorem follows_fail (fault : Fault) :
    machine.Follows (throw (.fault fault) : Work α) (.fail fault) := by
  intro trace
  show _ = ((.error (.fault fault), _) : Except Stop α × InPlace)
  rw [Reading.fail, Footprint.merge_empty]
  rfl

theorem Follows.bind {work : Work α} {next : α → Work β} {reading : Reading α}
    {later : α → Reading β} (first : machine.Follows work reading)
    (rest : ∀ value, machine.Follows (next value) (later value)) :
    machine.Follows (work >>= next) (reading >>= later) := by
  intro trace
  have ran := first trace
  rw [Reading.bind_eq]
  cases outcome : reading.result with
  | error fault =>
      rw [outcome] at ran
      rw [Work.on_bind_of_error ran, Reading.andThen_of_error outcome]
      rfl
  | ok value =>
      rw [outcome] at ran
      rw [Work.on_bind_of_ok ran, Reading.andThen_of_ok outcome, rest value, Footprint.merge_assoc]

variable (argument : Option Argument)

theorem follows_readAccumulator :
    machine.Follows InPlace.readAccumulator machine.memory.readAccumulator := fun _ => rfl

theorem follows_readRegister (number : RegisterNumber) :
    machine.Follows (InPlace.readRegister number) (machine.memory.readRegister number) := by
  intro trace
  have same : machine.memory.registers.toArray[number.toNat]? = machine.memory.register? number :=
    List.getElem?_toArray.trans (machine.memory.getElem?_registers number)
  rw [InPlace.readRegister, Work.on_get_bind, Memory.readRegister]
  simp only [inPlace, same]
  cases machine.memory.register? number with
  | none => exact follows_fail _ trace
  | some value => rfl

theorem follows_readCell (address : Nat) :
    machine.Follows (InPlace.readCell address) (machine.memory.readCell address) := by
  intro trace
  have same : machine.memory.tape[address]? = machine.memory.cell? address := rfl
  rw [InPlace.readCell, Work.on_get_bind, Memory.readCell]
  simp only [inPlace, same]
  cases machine.memory.cell? address with
  | none => exact follows_fail _ trace
  | some value => rfl

theorem follows_operand :
    machine.Follows (InPlace.operand argument) (machine.memory.operand argument) := by
  rcases argument with _ | (value | number | ⟨name, position⟩)
  · exact follows_fail _
  · exact follows_done _
  · exact follows_readRegister number
  · exact follows_done _

theorem follows_address :
    machine.Follows (InPlace.address argument) (machine.memory.address argument) := by
  apply (follows_operand argument).bind
  intro value
  split
  next => exact follows_fail _
  next => exact follows_done _

theorem follows_register :
    machine.Follows (InPlace.register argument) (registerArgument argument) := by
  rcases argument with _ | (value | number | ⟨name, position⟩)
  · exact follows_fail _
  · exact follows_fail _
  · exact follows_done number
  · exact follows_fail _

/-! ## Performing an action -/

/-- Whether a work on a machine in place does what a reading says, and then what the action says
that the reading comes to. -/
def Performs (machine : Machine) (work : Work Flow) (reading : Reading Action) : Prop :=
  ∀ trace : Trace, work.on { machine with trace }.inPlace =
    match reading.result with
    | .ok action =>
      (.ok action.flow,
        { machine with
          memory := machine.memory.perform action
          trace := ⟨trace.read.merge reading.touched, trace.changed.merge action.footprint⟩
          }.inPlace)
    | .error fault =>
      (.error (.fault fault),
        { machine with trace := { trace with read := trace.read.merge reading.touched } }.inPlace)

theorem performs_fail (fault : Fault) :
    machine.Performs (throw (.fault fault)) (.fail fault) := by
  intro trace
  simp only [Reading.fail, Footprint.merge_empty]
  rfl

theorem performs_move (flow : Flow) : machine.Performs (pure flow) (.done (.move flow)) := by
  intro trace
  have nothing : (Action.move flow).footprint = .empty := rfl
  simp only [Reading.done, nothing, Footprint.merge_empty]
  rfl

theorem Follows.bind_performs {work : Work α} {next : α → Work Flow} {reading : Reading α}
    {later : α → Reading Action} (first : machine.Follows work reading)
    (rest : ∀ value, machine.Performs (next value) (later value)) :
    machine.Performs (work >>= next) (reading >>= later) := by
  intro trace
  have ran := first trace
  rw [Reading.bind_eq]
  cases outcome : reading.result with
  | error fault =>
      rw [outcome] at ran
      rw [Work.on_bind_of_error ran, Reading.andThen_of_error outcome]
  | ok value =>
      rw [outcome] at ran
      rw [Work.on_bind_of_ok ran, Reading.andThen_of_ok outcome, rest value, Footprint.merge_assoc]

/-- A bank with an accumulator takes a value for it. -/
theorem performs_writeAccumulator (value : Value) :
    machine.Performs (InPlace.writeAccumulator value >>= fun _ => pure .next)
      (.done (.write (.accumulator value))) := by
  intro trace
  have bank : 0 < machine.memory.registers.toArray.size := by
    rw [Memory.size_registers]
    exact Nat.succ_pos _
  have ran := @InPlace.on_writeAccumulator { machine with trace }.inPlace bank value
  rw [Work.on_bind_of_ok ran]
  simp only [Reading.done, Footprint.merge_empty]
  simp [Machine.inPlace, Memory.perform, Memory.update, Action.write, Action.footprint,
    Update.footprint, Memory.registers, Memory.setAccumulator]

/-- A register is written if it is there, and the instruction fails if not. -/
theorem performs_writeRegister (number : RegisterNumber) (value : Value) :
    machine.Performs (InPlace.writeRegister number value >>= fun _ => pure .next)
      (if machine.memory.hasRegister number then .done (.write (.register number value))
      else .fail (.registerOutOfBounds number)) := by
  intro trace
  by_cases there : machine.memory.hasRegister number = true
  · have present := (machine.memory.lt_size_registers_iff number).mpr there
    have ran := @InPlace.on_writeRegister { machine with trace }.inPlace number present value
    rw [Work.on_bind_of_ok ran]
    simp only [if_pos there, Reading.done, Footprint.merge_empty]
    simp [Machine.inPlace, Memory.perform, Memory.update, Action.write, Action.footprint,
      Update.footprint, Memory.registers_setRegister]
  · have missing := Nat.not_lt.mp (mt (machine.memory.lt_size_registers_iff number).mp there)
    have ran := @InPlace.on_writeRegister_of_le { machine with trace }.inPlace number missing value
    rw [Work.on_bind_of_error ran]
    simp only [if_neg there, Reading.fail, Footprint.merge_empty]

/-- A cell is written if it is there, and the instruction fails if not. -/
theorem performs_writeCell (address : Nat) (value : Value) :
    machine.Performs (InPlace.writeCell address value >>= fun _ => pure .next)
      (if machine.memory.hasCell address then .done (.write (.cell address value))
      else .fail (.tapeWriteOutOfBounds address)) := by
  intro trace
  by_cases there : machine.memory.hasCell address = true
  · have present := (machine.memory.lt_size_tape_iff address).mpr there
    have ran := @InPlace.on_writeCell { machine with trace }.inPlace address present value
    rw [Work.on_bind_of_ok ran]
    simp only [if_pos there, Reading.done, Footprint.merge_empty]
    rfl
  · have missing := Nat.not_lt.mp (mt (machine.memory.lt_size_tape_iff address).mp there)
    have ran := @InPlace.on_writeCell_of_le { machine with trace }.inPlace address missing value
    rw [Work.on_bind_of_error ran]
    simp only [if_neg there, Reading.fail, Footprint.merge_empty]

theorem performs_jump :
    machine.Performs (InPlace.jump argument) (jumpTo machine.program.length argument) := by
  unfold InPlace.jump jumpTo
  cases argument.bind Argument.position? with
  | none => exact performs_fail _
  | some target =>
      intro trace
      show (if target = 0 ∨ machine.program.length + 1 < target then _ else _ : Work Flow).on _ = _
      by_cases outside : target = 0 ∨ machine.program.length + 1 < target
      · rw [if_pos outside]
        simp only [if_pos outside]
        exact performs_fail _ trace
      · rw [if_neg outside]
        simp only [if_neg outside]
        exact performs_move _ trace

/-- An instruction in place performs what the action of the instruction says. -/
theorem performs_execute (mnemonic : Mnemonic) :
    machine.Performs (InPlace.execute mnemonic argument)
      (machine.memory.action machine.program.length mnemonic argument) := by
  unfold InPlace.execute Memory.action
  cases mnemonic with
  | nop => exact performs_move .next
  | halt => exact performs_move .halt
  | add | sub =>
      apply (follows_operand argument).bind_performs
      intro operand
      apply follows_readAccumulator.bind_performs
      intro accumulator
      exact performs_writeAccumulator _
  | half =>
      apply follows_readAccumulator.bind_performs
      intro accumulator
      exact performs_writeAccumulator _
  | load =>
      apply (follows_register argument).bind_performs
      intro number
      apply (follows_readRegister number).bind_performs
      intro value
      exact performs_writeAccumulator value
  | store =>
      apply follows_readAccumulator.bind_performs
      intro accumulator
      apply (follows_register argument).bind_performs
      intro number
      exact performs_writeRegister number accumulator
  | read =>
      apply (follows_address argument).bind_performs
      intro address
      apply (follows_readCell address).bind_performs
      intro value
      exact performs_writeAccumulator value
  | write =>
      apply (follows_address argument).bind_performs
      intro address
      apply follows_readAccumulator.bind_performs
      intro accumulator
      exact performs_writeCell address accumulator
  | jzero | jpos =>
      apply follows_readAccumulator.bind_performs
      intro accumulator
      split
      next => exact performs_jump argument
      next => exact performs_move .next
  | jump => exact performs_jump argument

/-! ## Steps -/

theorem proceed_inPlace (machine : Machine) (position : Nat) :
    machine.inPlace.proceed position =
      ((machine.proceed position).1.inPlace, (machine.proceed position).2) := by
  unfold InPlace.proceed proceed
  by_cases past : machine.program.length < position
  · rw [if_pos past]
    exact if_pos past
  · rw [if_neg past]
    exact if_neg past

theorem follow_inPlace (machine : Machine) (flow : Flow) :
    machine.inPlace.follow flow = ((machine.follow flow).1.inPlace, (machine.follow flow).2) := by
  cases flow with
  | next => exact proceed_inPlace machine _
  | jump target => exact proceed_inPlace machine target
  | halt => rfl

/-- An instruction is carried out in place as it is executed. -/
theorem step_inPlace_of_fetched {instruction : Instruction} (running : machine.halted = false)
    (fetched : machine.program.get? machine.programCounter = some instruction) :
    machine.inPlace.step =
      some ((machine.execute instruction).1.inPlace, (machine.execute instruction).2) := by
  have performed : machine.Performs
      (InPlace.execute instruction.mnemonic (instruction.argument? 0))
      (machine.reading instruction) := performs_execute _ _
  have ran := performed {}
  have read : ({} : Trace).read.merge (machine.reading instruction).touched =
      (machine.reading instruction).touched := Footprint.empty_merge _
  rw [read] at ran
  unfold execute
  dsimp only
  cases outcome : (machine.reading instruction).result with
  | error fault =>
      rw [outcome] at ran
      rw [@InPlace.step_of_fault machine.inPlace _ _ _ running fetched ran]
      rfl
  | ok action =>
      rw [outcome] at ran
      have changed : ({} : Trace).changed.merge action.footprint = action.footprint :=
        Footprint.empty_merge _
      dsimp only at ran
      rw [changed] at ran
      rw [@InPlace.step_of_done machine.inPlace _ _ _ running fetched ran, follow_inPlace]
      rfl

/-- A machine with an accumulator steps in place as it does. -/
theorem step_inPlace (machine : Machine) :
    machine.inPlace.step = some (machine.step.1.inPlace, machine.step.2) := by
  cases halted : machine.halted with
  | true =>
      rw [step_of_halted halted]
      exact InPlace.step_of_halted halted
  | false =>
      cases fetched : machine.program.get? machine.programCounter with
      | none =>
          rw [step_of_outside halted fetched]
          exact InPlace.step_of_outside halted fetched
      | some instruction =>
          rw [step_of_running halted fetched]
          exact step_inPlace_of_fetched halted fetched

/-! ## Commands -/

/-- A machine with an accumulator runs in place as it does, and does not crash. -/
theorem runFrom_inPlace (machine : Machine) (made budget : Nat) :
    machine.inPlace.runFrom made budget =
      some ((machine.runFrom made budget).1.inPlace, (machine.runFrom made budget).2) := by
  induction budget generalizing machine made with
  | zero => rfl
  | succ budget hypothesis =>
      unfold InPlace.runFrom runFrom
      by_cases halted : machine.halted = true
      · rw [if_pos halted]
        exact if_pos halted
      · rw [if_neg halted]
        refine (if_neg halted).trans ?_
        rw [step_inPlace]
        exact hypothesis machine.step.1 (made + 1)

theorem reset_inPlace (machine : Machine) : machine.inPlace.reset = machine.reset.inPlace := by
  simp [InPlace.reset, inPlace, reset, Memory.clearRegisters, Memory.registers, List.map_const']

theorem setAccumulator_inPlace (machine : Machine) (value : Value) :
    machine.inPlace.setAccumulator value = some (machine.setAccumulator value).inPlace := by
  have bank : ¬ machine.memory.registers.toArray.size = 0 := by
    rw [Memory.size_registers]
    exact Nat.succ_ne_zero _
  refine (if_neg bank).trans ?_
  rw [setAccumulator, inPlace, inPlace, Memory.registers_setAccumulator]
  rfl

theorem setRegister_inPlace (machine : Machine) (number : RegisterNumber) (value : Value) :
    machine.inPlace.setRegister number value =
      (machine.setRegister number value).map inPlace := by
  unfold setRegister
  by_cases there : machine.memory.hasRegister number = true
  · have present := (machine.memory.lt_size_registers_iff number).mpr there
    rw [if_pos there]
    refine (if_neg (Nat.not_le.mpr present)).trans ?_
    simp [Except.map, inPlace, Memory.registers_setRegister]
  · have missing := Nat.not_lt.mp (mt (machine.memory.lt_size_registers_iff number).mp there)
    rw [if_neg there]
    exact if_pos missing

theorem setTape_inPlace (machine : Machine) (address : Nat) (value : Value) :
    machine.inPlace.setTape address value = (machine.setTape address value).map inPlace := by
  unfold setTape
  by_cases there : machine.memory.hasCell address = true
  · have present := (machine.memory.lt_size_tape_iff address).mpr there
    rw [if_pos there]
    exact if_neg (Nat.not_le.mpr present)
  · have missing := Nat.not_lt.mp (mt (machine.memory.lt_size_tape_iff address).mp there)
    rw [if_neg there]
    exact if_pos missing

theorem edited_inPlace (machine : Machine) (edit : Except MachineError Machine) :
    machine.inPlace.edited (edit.map inPlace) =
      ((machine.edited edit).1.inPlace, (machine.edited edit).2) := by
  cases edit <;> rfl

/-- A machine with an accumulator takes a command in place as it does, and does not crash. -/
theorem apply_inPlace (machine : Machine) (command : Command) :
    machine.inPlace.apply command =
      some ((machine.apply command).1.inPlace, (machine.apply command).2) := by
  cases command with
  | step =>
      exact congrArg (Option.map fun after => (after.1, Reply.outcome after.2)) machine.step_inPlace
  | run budget =>
      exact congrArg (Option.map fun after => (after.1, Reply.steps after.2))
        (runFrom_inPlace machine 0 budget)
  | reset => exact congrArg (fun after => some (after, Reply.done)) (reset_inPlace machine)
  | setProgram program => rfl
  | setAccumulator value =>
      exact congrArg (Option.map fun after => (after, Reply.done))
        (setAccumulator_inPlace machine value)
  | setRegister number value =>
      have edited := edited_inPlace machine (machine.setRegister number value)
      rw [← setRegister_inPlace] at edited
      exact congrArg some edited
  | setTape address value =>
      have edited := edited_inPlace machine (machine.setTape address value)
      rw [← setTape_inPlace] at edited
      exact congrArg some edited

/-- A session with a machine that has an accumulator is the same in place, and does not crash. -/
theorem applyAll_inPlace (machine : Machine) (commands : List Command) :
    machine.inPlace.applyAll commands =
      some ((machine.applyAll commands).1.inPlace, (machine.applyAll commands).2) := by
  induction commands generalizing machine with
  | nil => rfl
  | cons command rest hypothesis =>
      apply InPlace.applyAll_cons_eq_some_iff.mpr
      exact ⟨_, _, _, apply_inPlace machine command, hypothesis _, rfl⟩

/-! ## Back to machines -/

theorem inPlace_of_machine? {machine : Machine} {there : InPlace}
    (known : there.machine? = some machine) : there = machine.inPlace := by
  unfold InPlace.machine? at known
  split at known
  next => cases known
  next accumulator general bank =>
    cases known
    simp [inPlace, Memory.registers, ← bank]

end Machine

end Ram
