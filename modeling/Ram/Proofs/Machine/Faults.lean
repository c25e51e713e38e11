import Ram.Machine.Command
import Ram.Proofs.ToolChain

/-!
# What can go wrong in a step

Every fault comes of what an instruction reads.  `Machine.CanFault` says of each fault which
instructions may end in it and what has to be the case then.  An instruction has the arguments
that its mnemonic takes, so none ends in `malformedInstruction`.

The step lemma is `Machine.canFault_of_step`: the instruction that is next can end in the fault
of the step.  Only a command that gives the machine another program changes its program, so what
is true of all programs that a machine is given is true of its program before every step of a
session (`Machine.StepsIn.program`).  Programs of sources and images are contained, and for these
`Machine.CanFault.of_contained` leaves out the faults of jumps, and the faults of addresses that
are written out.
-/

namespace Ram

/-! ## Faults of readings -/

namespace Reading

variable {α β : Type}

theorem result_bind (first : Reading α) (next : α → Reading β) :
    (first >>= next).result = first.result >>= fun value => (next value).result := by
  show (first.andThen next).result = _
  unfold andThen
  cases first.result <;> rfl

theorem bind_eq_error_iff {first : Reading α} {next : α → Reading β} {fault : Fault} :
    (first >>= next).result = .error fault ↔
      first.result = .error fault ∨
        ∃ value, first.result = .ok value ∧ (next value).result = .error fault := by
  rw [result_bind, Ram.bind_eq_error_iff]

@[simp] theorem result_fail (fault : Fault) : (fail fault : Reading α).result = .error fault := rfl

end Reading

namespace Memory

variable {memory : Memory} {fault : Fault}

theorem register?_eq_none_iff {number : RegisterNumber} :
    memory.register? number = none ↔ memory.general.size < number.toNat := by
  rw [← Option.not_isSome_iff_eq_none, isSome_register?, hasRegister, decide_eq_true_eq, Nat.not_le]

theorem cell?_eq_none_iff {address : Nat} :
    memory.cell? address = none ↔ memory.tape.size ≤ address := by
  rw [← Option.not_isSome_iff_eq_none, isSome_cell?, hasCell, decide_eq_true_eq, Nat.not_lt]

/-- Reading a register fails exactly if there is none of the number. -/
theorem readRegister_eq_error_iff {number : RegisterNumber} :
    (memory.readRegister number).result = .error fault ↔
      memory.general.size < number.toNat ∧ fault = .registerOutOfBounds number := by
  rw [← register?_eq_none_iff, readRegister]
  cases memory.register? number with
  | none => simp [eq_comm]
  | some value => simp

/-- Reading a cell fails exactly if the address is behind the tape. -/
theorem readCell_eq_error_iff {address : Nat} :
    (memory.readCell address).result = .error fault ↔
      memory.tape.size ≤ address ∧ fault = .tapeReadOutOfBounds address := by
  rw [← cell?_eq_none_iff, readCell]
  cases memory.cell? address with
  | none => simp [eq_comm]
  | some value => simp

end Memory

/-! ## Faults of an instruction -/

/-- An instruction whose mnemonic has one shape has one argument, and the argument has the
shape. -/
theorem Instruction.exists_argument {instruction : Instruction} {mnemonic : Mnemonic}
    {shape : Shape} (kind : instruction.mnemonic = mnemonic) (shapes : mnemonic.shapes = [shape]) :
    ∃ argument, instruction.argument? 0 = some argument ∧ argument ∈ instruction.arguments ∧
      shape.admits argument = true := by
  obtain ⟨_, labels, arguments, fits⟩ := instruction
  cases kind
  rw [shapes] at fits
  cases arguments with
  | nil => cases fits
  | cons argument rest =>
      refine ⟨argument, rfl, .head _, ?_⟩
      by_contra refused
      simp [fill, refused] at fits

/-- An instruction that takes a register has one. -/
theorem Instruction.exists_register {instruction : Instruction} {mnemonic : Mnemonic}
    (kind : instruction.mnemonic = mnemonic) (shapes : mnemonic.shapes = [.register]) :
    ∃ number, instruction.argument? 0 = some (.register number) ∧
      .register number ∈ instruction.arguments := by
  obtain ⟨argument, given, written, admitted⟩ := exists_argument kind shapes
  cases argument with
  | literal value => cases admitted
  | register number => exact ⟨number, given, written⟩
  | label name position => cases admitted

namespace Machine

variable {machine : Machine} {instruction : Instruction} {fault : Fault}

/-- The faults that an instruction can end in, and what has to be the case then. -/
def CanFault (machine : Machine) (instruction : Instruction) : Fault → Prop
  | .registerOutOfBounds number =>
    instruction.mnemonic ∈ [.add, .sub, .load, .store, .read, .write] ∧
      .register number ∈ instruction.arguments ∧ machine.registerCount < number.toNat
  | .tapeReadOutOfBounds address =>
    instruction.mnemonic = .read ∧ machine.tapeLength ≤ address
  | .tapeWriteOutOfBounds address =>
    instruction.mnemonic = .write ∧ machine.tapeLength ≤ address
  | .invalidAddress value =>
    instruction.mnemonic ∈ [.read, .write] ∧ value < 0 ∧
      ((∃ number, .register number ∈ instruction.arguments) ∨
        .literal value ∈ instruction.arguments)
  | .invalidJumpTarget target =>
    instruction.mnemonic ∈ [.jzero, .jpos, .jump] ∧
      (∃ name, .label name target ∈ instruction.arguments) ∧
      (target = 0 ∨ machine.program.length + 1 < target)
  | .malformedInstruction => False

theorem canFault_of_register {number : RegisterNumber}
    (kind : instruction.mnemonic ∈ [.add, .sub, .load, .store, .read, .write])
    (written : .register number ∈ instruction.arguments)
    (failed : (machine.memory.readRegister number).result = .error fault) :
    machine.CanFault instruction fault := by
  obtain ⟨large, rfl⟩ := Memory.readRegister_eq_error_iff.mp failed
  exact ⟨kind, written, large⟩

theorem canFault_of_operand {argument : Argument}
    (kind : instruction.mnemonic ∈ [.add, .sub, .load, .store, .read, .write])
    (written : argument ∈ instruction.arguments)
    (admitted : Shape.literalOrRegister.admits argument = true)
    (failed : (machine.memory.operand (some argument)).result = .error fault) :
    machine.CanFault instruction fault := by
  cases argument with
  | literal value => cases failed
  | register number => exact canFault_of_register kind written failed
  | label name position => cases admitted

theorem canFault_of_address {argument : Argument} (kind : instruction.mnemonic ∈ [.read, .write])
    (written : argument ∈ instruction.arguments)
    (admitted : Shape.literalOrRegister.admits argument = true)
    (failed : (machine.memory.address (some argument)).result = .error fault) :
    machine.CanFault instruction fault := by
  rw [Memory.address, Reading.bind_eq_error_iff] at failed
  rcases failed with failed | ⟨value, read, failed⟩
  · refine canFault_of_operand ?_ written admitted failed
    simp only [List.mem_cons] at kind ⊢
    tauto
  · split at failed
    next negative =>
      cases failed
      refine ⟨kind, negative, ?_⟩
      cases argument with
      | literal literal =>
          cases read
          exact .inr written
      | register number => exact .inl ⟨number, written⟩
      | label name position => cases admitted
    next => cases failed

/-- If a jump has no target, the instruction can fault so. -/
theorem canFault_of_jumpTo {argument : Argument}
    (kind : instruction.mnemonic ∈ [.jzero, .jpos, .jump])
    (written : argument ∈ instruction.arguments) (admitted : Shape.label.admits argument = true)
    (failed : (jumpTo machine.program.length (some argument)).result = .error fault) :
    machine.CanFault instruction fault := by
  cases argument with
  | literal value => cases admitted
  | register number => cases admitted
  | label name target =>
      simp only [jumpTo, Option.bind_some, Argument.position?] at failed
      split at failed
      next outside =>
        cases failed
        exact ⟨kind, ⟨name, written⟩, outside⟩
      next => cases failed

/-- An instruction ends in no other fault than those that it can end in. -/
theorem canFault_of_reading (failed : (machine.reading instruction).result = .error fault) :
    machine.CanFault instruction fault := by
  rw [reading] at failed
  cases kind : instruction.mnemonic with
  | nop | half | halt =>
      rw [kind] at failed
      cases failed
  | add | sub =>
      obtain ⟨argument, given, written, admitted⟩ := Instruction.exists_argument kind rfl
      rw [kind, given] at failed
      rcases Reading.bind_eq_error_iff.mp failed with failed | ⟨_, _, failed⟩
      · exact canFault_of_operand (by simp [kind]) written admitted failed
      · cases failed
  | load =>
      obtain ⟨number, given, written⟩ := Instruction.exists_register kind rfl
      rw [kind, given] at failed
      rcases Reading.bind_eq_error_iff.mp failed with failed | ⟨_, same, failed⟩
      · cases failed
      · cases same
        rcases Reading.bind_eq_error_iff.mp failed with failed | ⟨_, _, failed⟩
        · exact canFault_of_register (by simp [kind]) written failed
        · cases failed
  | store =>
      obtain ⟨number, given, written⟩ := Instruction.exists_register kind rfl
      rw [kind, given] at failed
      rcases Reading.bind_eq_error_iff.mp failed with failed | ⟨_, _, failed⟩
      · cases failed
      · rcases Reading.bind_eq_error_iff.mp failed with failed | ⟨_, same, failed⟩
        · cases failed
        · cases same
          split at failed
          next => cases failed
          next absent =>
            cases failed
            exact ⟨by simp [kind], written, by simpa [Memory.hasRegister, registerCount] using absent⟩
  | read =>
      obtain ⟨argument, given, written, admitted⟩ := Instruction.exists_argument kind rfl
      rw [kind, given] at failed
      rcases Reading.bind_eq_error_iff.mp failed with failed | ⟨address, _, failed⟩
      · exact canFault_of_address (by simp [kind]) written admitted failed
      · rcases Reading.bind_eq_error_iff.mp failed with failed | ⟨_, _, failed⟩
        · obtain ⟨large, rfl⟩ := Memory.readCell_eq_error_iff.mp failed
          exact ⟨kind, large⟩
        · cases failed
  | write =>
      obtain ⟨argument, given, written, admitted⟩ := Instruction.exists_argument kind rfl
      rw [kind, given] at failed
      rcases Reading.bind_eq_error_iff.mp failed with failed | ⟨address, _, failed⟩
      · exact canFault_of_address (by simp [kind]) written admitted failed
      · rcases Reading.bind_eq_error_iff.mp failed with failed | ⟨_, _, failed⟩
        · cases failed
        · split at failed
          next => cases failed
          next absent =>
            cases failed
            exact ⟨kind, by simpa [Memory.hasCell, tapeLength] using absent⟩
  | jzero | jpos =>
      obtain ⟨argument, given, written, admitted⟩ := Instruction.exists_argument kind rfl
      rw [kind, given] at failed
      rcases Reading.bind_eq_error_iff.mp failed with failed | ⟨_, _, failed⟩
      · cases failed
      · split at failed
        next => exact canFault_of_jumpTo (by simp [kind]) written admitted failed
        next => cases failed
  | jump =>
      obtain ⟨argument, given, written, admitted⟩ := Instruction.exists_argument kind rfl
      rw [kind, given] at failed
      exact canFault_of_jumpTo (by simp [kind]) written admitted failed

/-! ## Faults of a step -/

/-- Moving control is no fault. -/
theorem follow_ne_faulted (machine : Machine) (flow : Flow) (error : ExecutionError) :
    (machine.follow flow).2 ≠ .faulted error := by
  have proceeds (position : Nat) : (machine.proceed position).2 ≠ .faulted error := by
    unfold proceed
    split <;> simp
  cases flow with
  | next => exact proceeds _
  | jump target => exact proceeds target
  | halt => simp [follow]

/-- An instruction fails exactly if its reading does, and the error says where and how. -/
theorem execute_eq_faulted_iff {error : ExecutionError} :
    (machine.execute instruction).2 = .faulted error ↔
      (machine.reading instruction).result = .error error.fault ∧
        error.mnemonic = instruction.mnemonic ∧ error.programCounter = machine.programCounter := by
  obtain ⟨mnemonic, position, fault⟩ := error
  cases outcome : (machine.reading instruction).result with
  | ok action => simp [execute, outcome, commit, follow_ne_faulted]
  | error other =>
      simp only [execute, outcome, Machine.fail, Outcome.faulted.injEq, ExecutionError.mk.injEq,
        Except.error.injEq]
      tauto

/-- A step fails when a running machine fetches an instruction that ends in a fault. -/
theorem step_eq_faulted_iff {error : ExecutionError} :
    machine.step.2 = .faulted error ↔
      ∃ instruction, machine.currentInstruction? = some instruction ∧
        (machine.reading instruction).result = .error error.fault ∧
        error.mnemonic = instruction.mnemonic ∧ error.programCounter = machine.programCounter := by
  cases halted : machine.halted with
  | true => simp [step_of_halted halted, currentInstruction?, halted]
  | false =>
      cases fetched : machine.program.get? machine.programCounter with
      | none => simp [step_of_outside halted fetched, currentInstruction?, halted, fetched]
      | some instruction =>
          simp [step_of_running halted fetched, currentInstruction?, halted, fetched,
            execute_eq_faulted_iff]

/-- A step fails only in a way in which its instruction can fault. -/
theorem canFault_of_step {error : ExecutionError} (faulted : machine.step.2 = .faulted error) :
    ∃ instruction, machine.program.get? machine.programCounter = some instruction ∧
      error.mnemonic = instruction.mnemonic ∧ error.programCounter = machine.programCounter ∧
      machine.CanFault instruction error.fault := by
  obtain ⟨instruction, current, failed, named, placed⟩ := step_eq_faulted_iff.mp faulted
  refine ⟨instruction, ?_, named, placed, canFault_of_reading failed⟩
  unfold currentInstruction? at current
  split at current
  next => cases current
  next => exact current

/-! ## The program of a machine -/

@[simp] theorem program_follow (machine : Machine) (flow : Flow) :
    (machine.follow flow).1.program = machine.program := by
  have proceeds (position : Nat) : (machine.proceed position).1.program = machine.program := by
    unfold proceed
    split <;> rfl
  cases flow with
  | next => exact proceeds _
  | jump target => exact proceeds target
  | halt => rfl

@[simp] theorem program_execute (machine : Machine) (instruction : Instruction) :
    (machine.execute instruction).1.program = machine.program := by
  unfold execute
  dsimp only
  split
  next => exact program_follow _ _
  next => rfl

@[simp] theorem program_step (machine : Machine) : machine.step.1.program = machine.program := by
  unfold step
  split
  next => rfl
  next =>
    split
    next => exact program_execute _ _
    next => rfl

@[simp] theorem program_runFrom (machine : Machine) (made budget : Nat) :
    (machine.runFrom made budget).1.program = machine.program := by
  induction budget generalizing machine made with
  | zero => rfl
  | succ budget ih =>
      unfold runFrom
      split
      next => rfl
      next => rw [ih, program_step]

@[simp] theorem program_run (machine : Machine) (budget : Nat) :
    (machine.run budget).1.program = machine.program := program_runFrom machine 0 budget

/-- Only a command that gives the machine another program changes the program. -/
theorem program_apply (machine : Machine) (command : Command) :
    (machine.apply command).1.program =
      match command with
      | .setProgram program => program
      | _ => machine.program := by
  cases command with
  | step => exact program_step machine
  | run budget => exact program_run machine budget
  | reset => rfl
  | setProgram program => rfl
  | setAccumulator value => rfl
  | setRegister number value =>
      simp only [apply, setRegister]
      split <;> rfl
  | setTape address value =>
      simp only [apply, setTape]
      split <;> rfl

/-- What is true of the program of a machine, and of every program that it is given, is true of
the program that it has after some commands. -/
theorem program_applyAll {property : Program → Prop} (commands : List Command)
    (initially : property machine.program)
    (given : ∀ program, .setProgram program ∈ commands → property program) :
    property (machine.applyAll commands).1.program := by
  induction commands generalizing machine with
  | nil => exact initially
  | cons command rest ih =>
      refine ih ?_ fun program member => given program (.tail _ member)
      rw [program_apply]
      split
      next program => exact given program (.head _)
      next => exact initially

/-! ## The steps of a session -/

/-- Whether a command makes a step, and the machine is the one before it.  A run makes its steps
one after another and none when the machine is halted. -/
def StepsBy (machine : Machine) (command : Command) (before : Machine) : Prop :=
  match command with
  | .step => before = machine
  | .run budget => ∃ made < budget, before = (machine.run made).1 ∧ before.halted = false
  | _ => False

/-- Whether a step is made in the course of some commands, and the machine is the one before
it. -/
def StepsIn (machine : Machine) (commands : List Command) (before : Machine) : Prop :=
  ∃ first command rest, commands = first ++ command :: rest ∧
    (machine.applyAll first).1.StepsBy command before

theorem StepsBy.program {command : Command} {before : Machine}
    (steps : machine.StepsBy command before) : before.program = machine.program := by
  cases command with
  | step => exact congrArg Machine.program steps
  | run budget =>
      obtain ⟨made, _, rfl, _⟩ := steps
      exact program_run machine made
  | reset => cases steps
  | setProgram program => cases steps
  | setAccumulator value => cases steps
  | setRegister number value => cases steps
  | setTape address value => cases steps

/-- A property of the programs that a machine is given is one of the program at every step. -/
theorem StepsIn.program {property : Program → Prop} {commands : List Command} {before : Machine}
    (steps : machine.StepsIn commands before) (initially : property machine.program)
    (given : ∀ program, .setProgram program ∈ commands → property program) :
    property before.program := by
  obtain ⟨first, command, rest, rfl, step⟩ := steps
  rw [step.program]
  exact program_applyAll first initially fun program member =>
    given program (List.mem_append_left _ member)

/-! ## Sessions with translated programs -/

end Machine

/-- Whether the program comes of a source or of an image. -/
def Program.Translated (program : Program) : Prop :=
  (∃ source, assemble source = .ok program) ∨ ∃ image, decode image = .ok program

theorem Program.Translated.contained {program : Program} (translated : program.Translated) :
    program.Contained := by
  rcases translated with ⟨source, assembled⟩ | ⟨image, decoded⟩
  · exact (Assembly.printable_of_assemble assembled).contained
  · exact contained_of_decode decoded

namespace Machine

variable {machine : Machine} {instruction : Instruction} {fault : Fault}

/-- In a program without wild labels and negative literals no jump fails, and an address is
negative only if it comes from a register. -/
theorem CanFault.of_contained (possible : machine.CanFault instruction fault)
    (contained : machine.program.Contained) (member : instruction ∈ machine.program.instructions) :
    (∀ target, fault ≠ .invalidJumpTarget target) ∧
      ∀ value, fault = .invalidAddress value →
        ∃ number, Argument.register number ∈ instruction.arguments := by
  constructor
  · rintro target rfl
    obtain ⟨_, ⟨name, written⟩, outside⟩ := possible
    obtain ⟨first, last⟩ := contained.inside instruction member _ written
    omega
  · rintro value rfl
    obtain ⟨_, negative, fromRegister | written⟩ := possible
    · exact fromRegister
    · have nonnegative := contained.nonnegative instruction member value written
      rw [Int64.lt_iff_toInt_lt] at negative
      exact absurd negative (Int.not_lt.mpr nonnegative)

/-- In a session with programs that come of sources and images, no jump leads outside the
program and no instruction lacks an argument.  A step can fail only because there is no such
register, because there is no such cell, or because an address from a register is negative.
Arguments are not missing from any other program either. -/
theorem faults_of_translated :
    (∀ (machine : Machine) (commands : List Command),
      machine.program.Translated →
      (∀ program, .setProgram program ∈ commands → program.Translated) →
      ∀ before, machine.StepsIn commands before → ∀ error, before.step.2 = .faulted error →
        ∃ instruction, before.program.get? before.programCounter = some instruction ∧
          error.mnemonic = instruction.mnemonic ∧
          error.programCounter = before.programCounter ∧
          before.CanFault instruction error.fault ∧
          (∀ target, error.fault ≠ .invalidJumpTarget target) ∧
          ∀ value, error.fault = .invalidAddress value →
            ∃ number, Argument.register number ∈ instruction.arguments) ∧
    ∀ (machine : Machine) error, machine.step.2 = .faulted error →
      error.fault ≠ .malformedInstruction := by
  constructor
  · intro machine commands initially given before steps error faulted
    obtain ⟨instruction, fetched, named, placed, possible⟩ := canFault_of_step faulted
    have contained := (steps.program initially given).contained
    exact ⟨instruction, fetched, named, placed, possible,
      possible.of_contained contained (Program.mem_of_get? fetched)⟩
  · intro machine error faulted malformed
    obtain ⟨instruction, _, _, _, possible⟩ := canFault_of_step faulted
    rw [malformed] at possible
    exact possible

/-- A program of an image is put in place of a program of a source in the middle of a run, and
then reads beyond the tape. -/
theorem faults_of_translated_swap :
    let assembled : Program := ⟨[⟨.nop, [], [], rfl⟩, ⟨.add, [], [.literal 1], rfl⟩]⟩
    let decoded : Program := ⟨[⟨.nop, [], [], rfl⟩, ⟨.read, [], [.literal 5], rfl⟩]⟩
    let machine : Machine := { memory := .zero 1 1 }
    let commands : List Command := [.setProgram assembled, .run 1, .setProgram decoded, .run 7]
    assemble "nop\nadd 1" = .ok assembled ∧
      Program.decode [0x0, 0x0000000500000106] = .ok decoded ∧
      ∃ before, machine.StepsIn commands before ∧
        before.step.2 = .faulted ⟨.read, 2, .tapeReadOutOfBounds 5⟩ ∧
        ∃ instruction, before.program.get? 2 = some instruction ∧
          before.CanFault instruction (.tapeReadOutOfBounds 5) := by
  intro assembled decoded machine commands
  have first : assemble "nop\nadd 1" = .ok assembled := by decide +kernel
  have second : Program.decode [0x0, 0x0000000500000106] = .ok decoded := by rfl
  have initially : machine.program.Translated := .inl ⟨"", by decide +kernel⟩
  have given (program : Program) (member : .setProgram program ∈ commands) :
      program.Translated := by
    simp only [commands, List.mem_cons, Command.setProgram.injEq, reduceCtorEq, false_or,
      List.not_mem_nil, or_false] at member
    rcases member with rfl | rfl
    · exact .inl ⟨_, first⟩
    · exact .inr ⟨_, second⟩
  let before : Machine := { machine with program := decoded, programCounter := 2 }
  have steps : machine.StepsIn commands before :=
    ⟨[.setProgram assembled, .run 1, .setProgram decoded], .run 7, [], rfl, 0, by decide, rfl, rfl⟩
  have faulted : before.step.2 = .faulted ⟨.read, 2, .tapeReadOutOfBounds 5⟩ := by rfl
  obtain ⟨instruction, fetched, _, _, possible, _⟩ :=
    faults_of_translated.1 machine commands initially given before steps _ faulted
  exact ⟨first, second, before, steps, faulted, instruction, fetched, possible⟩

end Machine

end Ram
