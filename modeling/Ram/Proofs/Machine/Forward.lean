import Ram.Proofs.Machine.WriteSet

/-!
# Programs that only jump forward

Where every label points behind the instruction that has it, control has one way to go, whatever
the memory holds.

*One step.*  A jump leads to the label of the jumping instruction (`exists_label_of_jump`), so a step
halts the machine or moves the program counter forward to a position inside the program
(`step_of_forwardOnly`).

*A run.*  The distance to the end of the program is therefore smaller after every step that does not
halt the machine, and a run makes no more steps than that (`run_of_forwardOnly`).  The step that
finds control outside the program counts too, so one step is always allowed for.
-/

namespace Ram

/-- Whether every label of the program points behind the instruction that has it. -/
def Program.ForwardOnly (program : Program) : Prop :=
  ∀ position instruction, program.get? position = some instruction →
    ∀ name target, .label name target ∈ instruction.arguments → position < target

theorem Program.forwardOnly_iff {program : Program} :
    program.ForwardOnly ↔ ∀ index, ∀ inside : index < program.instructions.length,
      ∀ target ∈ program.instructions[index].arguments.filterMap Argument.position?,
        index + 1 < target := by
  simp only [List.mem_filterMap, Argument.position?_eq_some_iff]
  constructor
  · rintro forward index inside target ⟨_, given, name, rfl⟩
    exact forward (index + 1) _ (List.getElem?_eq_getElem inside) name target given
  · intro forward position instruction found name target given
    cases position with
    | zero => cases found
    | succ index =>
        obtain ⟨inside, rfl⟩ := List.getElem?_eq_some_iff.mp found
        exact forward index inside target ⟨_, given, name, rfl⟩

instance (program : Program) : Decidable program.ForwardOnly :=
  decidable_of_iff _ Program.forwardOnly_iff.symm

namespace Machine

variable {machine : Machine} {instruction : Instruction}

/-! ## One step -/

theorem exists_label_of_jumpTo {length target : Nat} {argument : Option Argument} {action : Action}
    (success : (jumpTo length argument).result = .ok action) (jumps : action.flow = .jump target) :
    ∃ name, argument = some (.label name target) := by
  unfold jumpTo at success
  split at success
  next => cases success
  next position points =>
    split at success
    next => cases success
    next =>
      cases success
      cases jumps
      obtain ⟨given, rfl, there⟩ := Option.bind_eq_some_iff.mp points
      obtain ⟨name, rfl⟩ := Argument.position?_eq_some_iff.mp there
      exact ⟨name, rfl⟩

/-- An instruction jumps nowhere but to its own label. -/
theorem exists_label_of_jump {action : Action} {target : Nat}
    (success : (machine.reading instruction).result = .ok action)
    (jumps : action.flow = .jump target) :
    ∃ name, .label name target ∈ instruction.arguments := by
  suffices labelled : ∃ name, instruction.argument? 0 = some (.label name target) by
    obtain ⟨name, given⟩ := labelled
    exact ⟨name, List.mem_of_getElem? given⟩
  rw [reading] at success
  cases kind : instruction.mnemonic with
  | nop | half | halt =>
      rw [kind] at success
      cases success
      cases jumps
  | add | sub =>
      rw [kind] at success
      obtain ⟨operand, _, last⟩ := Reading.bind_eq_ok_iff.mp success
      cases last
      cases jumps
  | load | read =>
      rw [kind] at success
      obtain ⟨place, _, rest⟩ := Reading.bind_eq_ok_iff.mp success
      obtain ⟨value, _, last⟩ := Reading.bind_eq_ok_iff.mp rest
      cases last
      cases jumps
  | store | write =>
      rw [kind] at success
      obtain ⟨first, _, rest⟩ := Reading.bind_eq_ok_iff.mp success
      obtain ⟨second, _, last⟩ := Reading.bind_eq_ok_iff.mp rest
      split at last
      next =>
        cases last
        cases jumps
      next => cases last
  | jzero | jpos =>
      rw [kind] at success
      obtain ⟨accumulator, _, last⟩ := Reading.bind_eq_ok_iff.mp success
      split at last
      next => exact exists_label_of_jumpTo last jumps
      next =>
        cases last
        cases jumps
  | jump =>
      rw [kind] at success
      exact exists_label_of_jumpTo success jumps

/-- Whether a machine is halted or has its program counter behind a position and inside the
program. -/
def HaltedOrBehind (position : Nat) (machine : Machine) : Prop :=
  machine.halted = true ∨
    position < machine.programCounter ∧ machine.programCounter ≤ machine.program.length

theorem haltedOrBehind_proceed {position next : Nat} (behind : position < next) :
    (machine.proceed next).1.HaltedOrBehind position := by
  unfold proceed
  split
  next => exact .inl rfl
  next inside => exact .inr ⟨behind, Nat.not_lt.mp inside⟩

theorem haltedOrBehind_follow {flow : Flow}
    (forward : ∀ target, flow = .jump target → machine.programCounter < target) :
    (machine.follow flow).1.HaltedOrBehind machine.programCounter := by
  cases flow with
  | next => exact haltedOrBehind_proceed (Nat.lt_succ_self _)
  | jump target => exact haltedOrBehind_proceed (forward target rfl)
  | halt => exact .inl rfl

/-- A step of a program that only jumps forward halts the machine or moves control forward. -/
theorem step_of_forwardOnly (forward : machine.program.ForwardOnly)
    (running : machine.halted = false) :
    machine.step.1.HaltedOrBehind machine.programCounter := by
  cases fetched : machine.program.get? machine.programCounter with
  | none =>
      rw [step_of_outside running fetched]
      exact .inl rfl
  | some instruction =>
      rw [step_of_running running fetched, execute]
      split
      next action success =>
        apply haltedOrBehind_follow
        intro target jumps
        obtain ⟨name, given⟩ := exists_label_of_jump success jumps
        exact forward _ instruction fetched name target given
      next => exact .inl rfl

/-! ## Runs -/

/-- The number of positions from the program counter to the end of the program, and none if the
program counter is behind the end. -/
def distance (machine : Machine) : Nat := machine.program.length + 1 - machine.programCounter

/-- A run of a program that only jumps forward makes at most as many steps as there are positions
left, and one if there are none.  A budget for these steps is enough to halt the machine. -/
theorem run_of_forwardOnly (forward : machine.program.ForwardOnly) (budget : Nat) :
    (machine.run budget).2 ≤ max 1 machine.distance ∧
      (max 1 machine.distance ≤ budget → (machine.run budget).1.halted = true) := by
  induction budget generalizing machine with
  | zero =>
      refine ⟨Nat.zero_le _, fun enough => ?_⟩
      omega
  | succ budget hypothesis =>
      cases halted : machine.halted with
      | true =>
          rw [run_of_halted halted]
          exact ⟨Nat.zero_le _, fun _ => halted⟩
      | false =>
          rw [run_succ_of_running halted]
          rcases step_of_forwardOnly forward halted with stopped | ⟨behind, inside⟩
          · rw [run_of_halted stopped]
            exact ⟨Nat.le_max_left 1 _, fun _ => stopped⟩
          · -- control is still inside, so at least one position is left and one fewer than before
            have kept : machine.step.1.program.ForwardOnly := by rwa [program_step]
            obtain ⟨few, halts⟩ := hypothesis kept
            rw [program_step] at inside
            simp only [distance, program_step] at few halts ⊢
            exact ⟨by omega, fun enough => halts (by omega)⟩

/-- Forward-only programs halt.  Wherever control is and whatever the memory holds, a machine is
halted after as many steps as there are positions from its program counter to the end of the
program, or after one step if there are none.  A run with a budget for them halts the machine
and makes no more steps. -/
theorem halts_of_forwardOnly (forward : machine.program.ForwardOnly) :
    (∀ count, max 1 machine.distance ≤ count → (machine.after count).halted = true) ∧
      ∀ budget, max 1 machine.distance ≤ budget →
        (machine.run budget).1.halted = true ∧ (machine.run budget).2 ≤ max 1 machine.distance := by
  constructor
  · intro count enough
    exact halted_after_of_run ((run_of_forwardOnly forward count).2 enough)
  · intro budget enough
    obtain ⟨few, halts⟩ := run_of_forwardOnly forward budget
    exact ⟨halts enough, few⟩

/-- The first jump is taken and the second is not.  The machine fails at an address that is not on
its tape, before it comes to a jump that would lead behind the program. -/
theorem halts_of_forwardOnly_fault :
    let program : Program :=
      ⟨[⟨.jzero, [], [.label "on" 3], rfl⟩, ⟨.halt, [], [], rfl⟩,
        ⟨.jpos, ["on"], [.label "out" 9], rfl⟩, ⟨.read, [], [.literal 7], rfl⟩,
        ⟨.jump, [], [.label "end" 6], rfl⟩]⟩
    let machine : Machine := { memory := .zero 2 1, program }
    program.ForwardOnly ∧ machine.distance = 5 ∧
      (machine.after 5).halted = true ∧
      (machine.run 8).1.halted = true ∧ (machine.run 8).2 ≤ 5 ∧
      (machine.run 8).1.lastError = some ⟨.read, 4, .tapeReadOutOfBounds 7⟩ := by
  intro program machine
  have forward : machine.program.ForwardOnly := by decide
  have distance : machine.distance = 5 := by decide
  obtain ⟨after, run⟩ := halts_of_forwardOnly forward
  obtain ⟨halted, few⟩ := run 8 (by rw [distance]; decide)
  rw [distance] at after few
  exact ⟨forward, distance, after 5 (by decide), halted, few, by decide⟩

/-- The bound is reached where control passes through every position. -/
example :
    let program : Program := ⟨[⟨.nop, [], [], rfl⟩, ⟨.half, [], [], rfl⟩, ⟨.nop, [], [], rfl⟩]⟩
    let machine : Machine := { memory := .zero 1 1, program }
    (machine.run 8).2 = max 1 machine.distance ∧ (machine.run 2).1.halted = false := by
  decide

end Machine

end Ram
