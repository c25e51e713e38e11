import Ram.Proofs.Machine.InPlace
import Ram.Proofs.Machine.Faults

/-!
# After a fault

An instruction works in place, and where it ends in a fault everything stays as it is then.  It has
written nothing by then (`InPlace.exists_fail_of_faulted`).  `InPlace.FailedWith` says what a failed
step leaves behind: the registers, the tape and the program as they were, a halted machine, and an
error that names the instruction.

From there on only a reset helps.  A machine that is stopped by an error stays so whatever else is
done with it, and it makes no step (`StoppedBy.apply`, and `StoppedBy.applyAll` for a session).
What it remembers changes by editing alone, and letting it go on does not make it crash
(`applyAll_of_advances`).
-/

namespace Ram

/-- Whether a command does no more than let the machine go on. -/
def Command.Advances : Command → Prop
  | .step => True
  | .run _ => True
  | _ => False

/-- Whether a reply tells of no step: a step was idle, or a run made no steps. -/
def Reply.Idle : Reply → Prop
  | .outcome result => result = .idle
  | .steps count => count = 0
  | .done => True
  | .refused _ => True

namespace InPlace

/-- What a failed step leaves behind. -/
structure FailedWith (error : ExecutionError) (before after : InPlace) : Prop where
  /-- All registers hold what they held. -/
  registers : after.registers = before.registers
  /-- All cells hold what they held. -/
  tape : after.tape = before.tape
  /-- The program stays. -/
  program : after.program = before.program
  /-- Nothing is shown as changed. -/
  changed : after.trace.changed = .empty
  /-- The machine is halted. -/
  halted : after.halted = true
  /-- A halted machine is at the first instruction. -/
  counter : after.programCounter = 1
  /-- The machine shows the error. -/
  lastError : after.lastError = some error
  /-- The error is at the instruction that was next. -/
  position : error.programCounter = before.programCounter
  /-- The error names that instruction, and a fault that it can end in. -/
  cause : ∃ instruction, before.program.get? before.programCounter = some instruction ∧
    error.mnemonic = instruction.mnemonic ∧
    ∀ machine, before.machine? = some machine → machine.CanFault instruction error.fault

/-- Whether the machine is halted by the error. -/
structure StoppedBy (error : ExecutionError) (machine : InPlace) : Prop where
  halted : machine.halted = true
  lastError : machine.lastError = some error

variable {machine after final : InPlace} {error : ExecutionError}

/-! ## The failed step -/

/-- A step that ends in a fault leaves the memory as it was and says what happened. -/
theorem failedWith_of_faulted (faulted : machine.step = some (after, .faulted error)) :
    FailedWith error machine after := by
  obtain ⟨instruction, read, _, fetched, named, placed, rfl⟩ := exists_fail_of_faulted faulted
  refine
    { registers := rfl
      tape := rfl
      program := rfl
      changed := rfl
      halted := rfl
      counter := rfl
      lastError := rfl
      position := placed
      cause := ⟨instruction, fetched, named, ?_⟩ }
  intro known recovered
  obtain rfl := Machine.inPlace_of_machine? recovered
  rw [Machine.step_inPlace] at faulted
  have outcome : known.step.2 = .faulted error := congrArg Prod.snd (Option.some.inj faulted)
  obtain ⟨same, alsoFetched, _, _, possible⟩ := Machine.canFault_of_step outcome
  obtain rfl : instruction = same := Option.some.inj (fetched.symm.trans alsoFetched)
  exact possible

/-! ## What is done afterwards -/

theorem runFrom_of_halted (halted : machine.halted = true) (made budget : Nat) :
    machine.runFrom made budget = some (machine, made) := by
  cases budget with
  | zero => rfl
  | succ budget => exact if_pos halted

/-- Only a reset makes a machine forget the error that it is stopped by. -/
theorem StoppedBy.apply (stopped : StoppedBy error machine) {command : Command} {reply : Reply}
    (other : command ≠ .reset) (applied : machine.apply command = some (after, reply)) :
    StoppedBy error after ∧ reply.Idle := by
  cases command with
  | step =>
      simp only [InPlace.apply, step_of_halted stopped.halted, Option.map_some] at applied
      cases applied
      exact ⟨⟨stopped.halted, stopped.lastError⟩, rfl⟩
  | run budget =>
      simp only [InPlace.apply, runFrom_of_halted stopped.halted, Option.map_some] at applied
      cases applied
      exact ⟨stopped, rfl⟩
  | reset => exact absurd rfl other
  | setProgram program =>
      cases applied
      exact ⟨⟨stopped.halted, stopped.lastError⟩, trivial⟩
  | setAccumulator value =>
      simp only [InPlace.apply, setAccumulator] at applied
      split at applied <;> cases applied
      exact ⟨⟨stopped.halted, stopped.lastError⟩, trivial⟩
  | setRegister number value =>
      simp only [InPlace.apply, setRegister] at applied
      split at applied <;> cases applied <;>
        exact ⟨⟨stopped.halted, stopped.lastError⟩, trivial⟩
  | setTape address value =>
      simp only [InPlace.apply, setTape] at applied
      split at applied <;> cases applied <;>
        exact ⟨⟨stopped.halted, stopped.lastError⟩, trivial⟩

/-- Without a reset, a session leaves the error and makes no step. -/
theorem StoppedBy.applyAll (stopped : StoppedBy error machine) {commands : List Command}
    {replies : List Reply} (noReset : .reset ∉ commands)
    (applied : machine.applyAll commands = some (final, replies)) :
    StoppedBy error final ∧ ∀ reply ∈ replies, reply.Idle := by
  induction commands generalizing machine replies with
  | nil =>
      cases applied
      exact ⟨stopped, nofun⟩
  | cons command rest hypothesis =>
      rw [List.mem_cons, not_or] at noReset
      obtain ⟨after, reply, others, first, later, rfl⟩ := applyAll_cons_eq_some_iff.mp applied
      obtain ⟨still, idle⟩ := stopped.apply (Ne.symm noReset.1) first
      obtain ⟨atEnd, alsoIdle⟩ := hypothesis still noReset.2 later
      exact ⟨atEnd, List.forall_mem_cons.mpr ⟨idle, alsoIdle⟩⟩

theorem apply_of_advances (halted : machine.halted = true) {command : Command}
    (advances : command.Advances) :
    ∃ after reply, machine.apply command = some (after, reply) ∧ after.halted = true ∧
      after.registers = machine.registers ∧ after.tape = machine.tape := by
  cases command with
  | step =>
      simp only [InPlace.apply, step_of_halted halted, Option.map_some]
      exact ⟨_, _, rfl, halted, rfl, rfl⟩
  | run budget =>
      simp only [InPlace.apply, runFrom_of_halted halted, Option.map_some]
      exact ⟨_, _, rfl, halted, rfl, rfl⟩
  | reset => cases advances
  | setProgram program => cases advances
  | setAccumulator value => cases advances
  | setRegister number value => cases advances
  | setTape address value => cases advances

/-- Letting a halted machine go on does not make it crash and leaves its memory alone. -/
theorem applyAll_of_advances (halted : machine.halted = true) {commands : List Command}
    (advance : ∀ command ∈ commands, command.Advances) :
    ∃ final replies, machine.applyAll commands = some (final, replies) ∧
      final.registers = machine.registers ∧ final.tape = machine.tape := by
  induction commands generalizing machine with
  | nil => exact ⟨machine, [], rfl, rfl, rfl⟩
  | cons command rest hypothesis =>
      obtain ⟨first, others⟩ := List.forall_mem_cons.mp advance
      obtain ⟨after, reply, applied, stillHalted, registers, tape⟩ := apply_of_advances halted first
      obtain ⟨final, replies, later, alsoRegisters, alsoTape⟩ := hypothesis stillHalted others
      exact ⟨final, reply :: replies,
        applyAll_cons_eq_some_iff.mpr ⟨after, reply, replies, applied, later, rfl⟩,
        alsoRegisters.trans registers, alsoTape.trans tape⟩

/-- A fault leaves the memory and the program as they were, halts the machine and is reported as it
is.  Until the machine is reset it makes no step and shows the same error, and stepping and running
neither crash nor touch its memory. -/
theorem fault_leaves_memory (faulted : machine.step = some (after, .faulted error)) :
    FailedWith error machine after ∧
      ∀ commands, .reset ∉ commands →
        (∀ final replies, after.applyAll commands = some (final, replies) →
          StoppedBy error final ∧ ∀ reply ∈ replies, reply.Idle) ∧
        ((∀ command ∈ commands, command.Advances) →
          ∃ final replies, after.applyAll commands = some (final, replies) ∧
            final.registers = machine.registers ∧ final.tape = machine.tape) := by
  have failed := failedWith_of_faulted faulted
  refine ⟨failed, fun commands noReset => ⟨fun final replies applied => ?_, fun advance => ?_⟩⟩
  · have stopped : StoppedBy error after := ⟨failed.halted, failed.lastError⟩
    exact stopped.applyAll noReset applied
  · obtain ⟨final, replies, applied, registers, tape⟩ := applyAll_of_advances failed.halted advance
    exact ⟨final, replies, applied, registers.trans failed.registers, tape.trans failed.tape⟩

/-- The accumulator is to be written to a cell that is not on the tape.  The machine has read the
address and the accumulator by then. -/
theorem fault_leaves_memory_write :
    let machine : InPlace :=
      { registers := #[7, 5]
        tape := #[1, 2]
        program := ⟨[⟨.nop, [], [], rfl⟩, ⟨.write, [], [.register 1], rfl⟩]⟩
        programCounter := 2 }
    let error : ExecutionError := ⟨.write, 2, .tapeWriteOutOfBounds 5⟩
    let after : InPlace :=
      { machine with
        programCounter := 1
        halted := true
        trace := { read := { accumulator := true, register := some 1 } }
        lastError := some error }
    let final : InPlace := { after with trace := {} }
    let commands : List Command := [.step, .run 3, .step]
    machine.step = some (after, .faulted error) ∧ FailedWith error machine after ∧
      after.applyAll commands = some (final, [.outcome .idle, .steps 0, .outcome .idle]) ∧
      StoppedBy error final ∧ final.registers = #[7, 5] ∧ final.tape = #[1, 2] := by
  intro machine error after final commands
  have faulted : machine.step = some (after, .faulted error) := by rfl
  have applied : after.applyAll commands =
      some (final, [.outcome .idle, .steps 0, .outcome .idle]) := by rfl
  have noReset : .reset ∉ commands := by decide
  have advance : ∀ command ∈ commands, command.Advances := by
    simp [commands, Command.Advances]
  obtain ⟨failed, later⟩ := fault_leaves_memory faulted
  obtain ⟨stops, keeps⟩ := later commands noReset
  obtain ⟨last, replies, alsoApplied, registers, tape⟩ := keeps advance
  rw [applied] at alsoApplied
  cases alsoApplied
  exact ⟨faulted, failed, applied, (stops final _ applied).1, registers, tape⟩

end InPlace

end Ram
