import Ram.Proofs.Machine.Run

/-!
# The states of a machine

A machine that is made with a tape and registers of some sizes keeps these sizes, whatever is done
with it.  `Machine.Consistent` collects what is always the case: the sizes, where the program
counter of a running and of a halted machine stands, that only a halted machine has an error, and
that the trace names nothing but registers and cells that are there.

*One instruction.*  `Reading.Ensures` says what a reading touches and what it comes to.  It goes
through `do` blocks (`Ensures.bind`), so that an instruction needs no more than the facts about the
places that it reads (`Memory.ensures_action`).

*One step.*  `Consistent.step` keeps the invariant, and with it every command does, and every
session.

*The program counter.*  A step leaves the program counter inside the program or sets it to 1.  Only
another program can make it point elsewhere, and not if it comes while the program counter is 1
(`placed_applyAll`).
-/

namespace Ram

/-! ## Places that are there -/

/-- Whether a footprint names only general registers and cells that a machine of the given sizes
has. -/
structure Footprint.Within (tapeLength registerCount : Nat) (footprint : Footprint) : Prop where
  register : ∀ number, footprint.register = some number →
    1 ≤ number.toNat ∧ number.toNat ≤ registerCount
  cell : ∀ address, footprint.cell = some address → address < tapeLength

namespace Footprint

variable {tapeLength registerCount : Nat}

theorem within_empty : empty.Within tapeLength registerCount := ⟨nofun, nofun⟩

theorem within_ofAccumulator : ofAccumulator.Within tapeLength registerCount := ⟨nofun, nofun⟩

theorem within_ofRegister {number : RegisterNumber} (present : number.toNat ≤ registerCount) :
    (ofRegister number).Within tapeLength registerCount := by
  unfold ofRegister
  split
  next => exact within_ofAccumulator
  next nonzero =>
    refine ⟨?_, nofun⟩
    rintro other same
    cases same
    exact ⟨Memory.toNat_pos nonzero, present⟩

theorem within_ofCell {address : Nat} (present : address < tapeLength) :
    (ofCell address).Within tapeLength registerCount := by
  refine ⟨nofun, ?_⟩
  rintro other same
  cases same
  exact present

/-- What is touched in two parts is within the sizes if both parts are. -/
theorem Within.merge {first second : Footprint} (one : first.Within tapeLength registerCount)
    (other : second.Within tapeLength registerCount) :
    (first.merge second).Within tapeLength registerCount := by
  constructor
  · intro number named
    rcases Option.or_eq_some_iff.mp named with later | ⟨_, earlier⟩
    · exact other.register number later
    · exact one.register number earlier
  · intro address named
    rcases Option.or_eq_some_iff.mp named with later | ⟨_, earlier⟩
    · exact other.cell address later
    · exact one.cell address earlier

end Footprint

/-! ## What readings ensure -/

/-- Whether a reading touches only places that are there, and what it comes to has a property. -/
structure Reading.Ensures {α : Type} (tapeLength registerCount : Nat) (property : α → Prop)
    (reading : Reading α) : Prop where
  touched : reading.touched.Within tapeLength registerCount
  result : ∀ value, reading.result = .ok value → property value

namespace Reading.Ensures

variable {α β : Type} {tapeLength registerCount : Nat} {property : α → Prop}

theorem done {value : α} (holds : property value) :
    (Reading.done value).Ensures tapeLength registerCount property := by
  refine ⟨Footprint.within_empty, ?_⟩
  rintro other same
  cases same
  exact holds

theorem fail (fault : Fault) :
    (Reading.fail fault : Reading α).Ensures tapeLength registerCount property :=
  ⟨Footprint.within_empty, nofun⟩

theorem bind {first : Reading α} {next : α → Reading β} {other : β → Prop}
    (one : first.Ensures tapeLength registerCount property)
    (rest : ∀ value, property value → (next value).Ensures tapeLength registerCount other) :
    (first >>= next).Ensures tapeLength registerCount other := by
  rw [bind_eq]
  cases outcome : first.result with
  | error fault =>
      rw [andThen_of_error outcome]
      exact ⟨one.touched, nofun⟩
  | ok value =>
      have later := rest value (one.result value outcome)
      rw [andThen_of_ok outcome]
      exact ⟨one.touched.merge later.touched, later.result⟩

end Reading.Ensures

/-- Whether an action writes only a place that is there and jumps to no position below 1. -/
structure Action.Within (tapeLength registerCount : Nat) (action : Action) : Prop where
  footprint : action.footprint.Within tapeLength registerCount
  target : ∀ target, action.flow = .jump target → 1 ≤ target

namespace Action

variable {tapeLength registerCount : Nat}

theorem within_default : ({} : Action).Within tapeLength registerCount :=
  ⟨Footprint.within_empty, nofun⟩

theorem within_halt : ({ flow := .halt } : Action).Within tapeLength registerCount :=
  ⟨Footprint.within_empty, nofun⟩

theorem within_write {update : Update}
    (present : update.footprint.Within tapeLength registerCount) :
    (Action.write update).Within tapeLength registerCount :=
  ⟨present, nofun⟩

theorem within_accumulator (value : Value) :
    (Action.write (.accumulator value)).Within tapeLength registerCount :=
  within_write Footprint.within_ofAccumulator

end Action

namespace Memory

variable (memory : Memory)

theorem ensures_readAccumulator :
    memory.readAccumulator.Ensures memory.tape.size memory.general.size fun _ => True :=
  ⟨Footprint.within_ofAccumulator, fun _ _ => trivial⟩

theorem ensures_readRegister (number : RegisterNumber) :
    (memory.readRegister number).Ensures memory.tape.size memory.general.size fun _ => True := by
  have there : (memory.register? number).isSome = memory.hasRegister number := isSome_register?
  unfold readRegister
  split
  next value found =>
    refine ⟨Footprint.within_ofRegister ?_, fun _ _ => trivial⟩
    simpa [found, hasRegister] using there
  next => exact .fail _

theorem ensures_readCell (address : Nat) :
    (memory.readCell address).Ensures memory.tape.size memory.general.size fun _ => True := by
  have there : (memory.cell? address).isSome = memory.hasCell address := isSome_cell?
  unfold readCell
  split
  next value found =>
    refine ⟨Footprint.within_ofCell ?_, fun _ _ => trivial⟩
    simpa [found, hasCell] using there
  next => exact .fail _

theorem ensures_operand (argument : Option Argument) :
    (memory.operand argument).Ensures memory.tape.size memory.general.size fun _ => True := by
  unfold operand
  split
  next => exact ensures_readRegister memory _
  next =>
    split
    next => exact .done trivial
    next => exact .fail _
  next => exact .fail _

theorem ensures_address (argument : Option Argument) :
    (memory.address argument).Ensures memory.tape.size memory.general.size fun _ => True := by
  apply (ensures_operand memory argument).bind
  intro value _
  split
  next => exact .fail _
  next => exact .done trivial

end Memory

theorem ensures_registerArgument {tapeLength registerCount : Nat} (argument : Option Argument) :
    (registerArgument argument).Ensures tapeLength registerCount fun _ => True := by
  unfold registerArgument
  split
  next => exact .done trivial
  next => exact .fail _

/-- A jump leads to a position. -/
theorem ensures_jumpTo {tapeLength registerCount : Nat} (length : Nat)
    (argument : Option Argument) :
    (jumpTo length argument).Ensures tapeLength registerCount
      (Action.Within tapeLength registerCount) := by
  unfold jumpTo
  split
  next => exact .fail _
  next target _ =>
    split
    next => exact .fail _
    next inside =>
      refine .done ⟨Footprint.within_empty, ?_⟩
      rintro other same
      cases same
      omega

/-- An instruction reads and writes only what is there, and jumps to no position below 1. -/
theorem Memory.ensures_action (memory : Memory) (length : Nat) (mnemonic : Mnemonic)
    (argument : Option Argument) :
    (memory.action length mnemonic argument).Ensures memory.tape.size memory.general.size
      (Action.Within memory.tape.size memory.general.size) := by
  cases mnemonic with
  | nop => exact .done Action.within_default
  | add | sub =>
      apply (memory.ensures_operand argument).bind
      intro operand _
      apply memory.ensures_readAccumulator.bind
      intro accumulator _
      exact .done (Action.within_accumulator _)
  | half =>
      apply memory.ensures_readAccumulator.bind
      intro accumulator _
      exact .done (Action.within_accumulator _)
  | load =>
      apply (ensures_registerArgument argument).bind
      intro number _
      apply (memory.ensures_readRegister number).bind
      intro value _
      exact .done (Action.within_accumulator _)
  | store =>
      apply memory.ensures_readAccumulator.bind
      intro accumulator _
      apply (ensures_registerArgument argument).bind
      intro number _
      split
      next present =>
        refine .done (Action.within_write (Footprint.within_ofRegister ?_))
        simpa [hasRegister] using present
      next => exact .fail _
  | read =>
      apply (memory.ensures_address argument).bind
      intro address _
      apply (memory.ensures_readCell address).bind
      intro value _
      exact .done (Action.within_accumulator _)
  | write =>
      apply (memory.ensures_address argument).bind
      intro address _
      apply memory.ensures_readAccumulator.bind
      intro accumulator _
      split
      next present =>
        refine .done (Action.within_write (Footprint.within_ofCell ?_))
        simpa [hasCell] using present
      next => exact .fail _
  | jzero | jpos =>
      apply memory.ensures_readAccumulator.bind
      intro accumulator _
      split
      next => exact ensures_jumpTo length argument
      next => exact .done Action.within_default
  | jump => exact ensures_jumpTo length argument
  | halt => exact .done Action.within_halt

/-! ## Sizes of the memory -/

namespace Memory

@[simp] theorem length_registers (memory : Memory) :
    memory.registers.length = memory.general.size + 1 := by
  simp [registers]

/-- Whether two memories have the same sizes. -/
structure SameSizes (first second : Memory) : Prop where
  tape : first.tape.size = second.tape.size
  general : first.general.size = second.general.size

theorem sameSizes_setAccumulator (memory : Memory) (value : Value) :
    (memory.setAccumulator value).SameSizes memory := ⟨rfl, rfl⟩

theorem sameSizes_setRegister (memory : Memory) (number : RegisterNumber) (value : Value) :
    (memory.setRegister number value).SameSizes memory := ⟨by simp, by simp⟩

theorem sameSizes_setCell (memory : Memory) (address : Nat) (value : Value) :
    (memory.setCell address value).SameSizes memory := ⟨by simp, rfl⟩

theorem sameSizes_clearRegisters (memory : Memory) : memory.clearRegisters.SameSizes memory :=
  ⟨rfl, by simp [clearRegisters]⟩

/-- No action changes the sizes. -/
theorem sameSizes_perform (memory : Memory) (action : Action) :
    (memory.perform action).SameSizes memory := by
  unfold perform
  split
  next update _ =>
    cases update with
    | accumulator value => exact sameSizes_setAccumulator memory value
    | register number value => exact sameSizes_setRegister memory number value
    | cell address value => exact sameSizes_setCell memory address value
  next => exact ⟨rfl, rfl⟩

end Memory

/-! ## The invariant -/

namespace Machine

/-- What is always the case with a machine that was made with the given sizes. -/
structure Consistent (tapeLength registerCount : Nat) (machine : Machine) : Prop where
  /-- The tape has its length. -/
  tape : machine.memory.tape.size = tapeLength
  /-- The registers are the accumulator and the general ones. -/
  registers : machine.memory.registers.length = registerCount + 1
  /-- The program counter is a position. -/
  counter : 1 ≤ machine.programCounter
  /-- A halted machine is at the first instruction. -/
  atStart : machine.halted = true → machine.programCounter = 1
  /-- A machine with an error is halted. -/
  error : machine.lastError ≠ none → machine.halted = true
  /-- What the last step read is there. -/
  read : machine.trace.read.Within tapeLength registerCount
  /-- What the last step wrote is there. -/
  changed : machine.trace.changed.Within tapeLength registerCount

namespace Consistent

variable {machine : Machine} {tapeLength registerCount : Nat}

/-- There are as many general registers as were asked for. -/
theorem general (consistent : machine.Consistent tapeLength registerCount) :
    machine.memory.general.size = registerCount := by
  simpa using consistent.registers

theorem withMemory (consistent : machine.Consistent tapeLength registerCount) {memory : Memory}
    (same : memory.SameSizes machine.memory) :
    ({ machine with memory } : Machine).Consistent tapeLength registerCount :=
  { consistent with
    tape := same.tape.trans consistent.tape
    registers := by simp [same.general, consistent.general] }

theorem withTrace (consistent : machine.Consistent tapeLength registerCount) (trace : Trace)
    (read : trace.read.Within tapeLength registerCount)
    (changed : trace.changed.Within tapeLength registerCount) :
    ({ machine with trace } : Machine).Consistent tapeLength registerCount :=
  { consistent with read, changed }

theorem halt (consistent : machine.Consistent tapeLength registerCount) :
    machine.halt.Consistent tapeLength registerCount :=
  { consistent with
    counter := Nat.le_refl 1
    atStart := fun _ => rfl
    error := fun _ => rfl }

/-! ### One step -/

theorem proceed (consistent : machine.Consistent tapeLength registerCount)
    (running : machine.halted = false) {position : Nat} (positive : 1 ≤ position) :
    (machine.proceed position).1.Consistent tapeLength registerCount := by
  unfold Machine.proceed
  split
  next => exact consistent.halt
  next =>
    exact { consistent with
      counter := positive
      atStart := fun halted => absurd (running.symm.trans halted) (by simp) }

theorem follow (consistent : machine.Consistent tapeLength registerCount)
    (running : machine.halted = false) {flow : Flow}
    (target : ∀ target, flow = .jump target → 1 ≤ target) :
    (machine.follow flow).1.Consistent tapeLength registerCount := by
  cases flow with
  | next => exact consistent.proceed running (Nat.le_add_left 1 _)
  | jump position => exact consistent.proceed running (target position rfl)
  | halt => exact consistent.halt

theorem commit (consistent : machine.Consistent tapeLength registerCount)
    (running : machine.halted = false) {read : Footprint} {action : Action}
    (touched : read.Within tapeLength registerCount)
    (within : action.Within tapeLength registerCount) :
    (machine.commit read action).1.Consistent tapeLength registerCount := by
  have written := (consistent.withMemory (Memory.sameSizes_perform _ action)).withTrace
    { read, changed := action.footprint } touched within.footprint
  exact written.follow running within.target

theorem fail (consistent : machine.Consistent tapeLength registerCount) {read : Footprint}
    (touched : read.Within tapeLength registerCount) (error : ExecutionError) :
    (machine.fail read error).1.Consistent tapeLength registerCount :=
  { consistent with
    counter := Nat.le_refl 1
    atStart := fun _ => rfl
    error := fun _ => rfl
    read := touched
    changed := Footprint.within_empty }

/-- Whatever comes of an instruction, it is within the sizes. -/
theorem execute (consistent : machine.Consistent tapeLength registerCount)
    (running : machine.halted = false) (instruction : Instruction) :
    (machine.execute instruction).1.Consistent tapeLength registerCount := by
  have ensures : (machine.reading instruction).Ensures tapeLength registerCount
      (Action.Within tapeLength registerCount) := by
    have here := machine.memory.ensures_action machine.program.length instruction.mnemonic
      (instruction.argument? 0)
    rwa [consistent.tape, consistent.general] at here
  unfold Machine.execute
  dsimp only
  split
  next action success =>
    exact consistent.commit running ensures.touched (ensures.result action success)
  next fault _ => exact consistent.fail ensures.touched _

theorem step (consistent : machine.Consistent tapeLength registerCount) :
    machine.step.1.Consistent tapeLength registerCount := by
  cases halted : machine.halted with
  | true =>
      rw [step_of_halted halted]
      exact consistent.withTrace {} Footprint.within_empty Footprint.within_empty
  | false =>
      cases fetched : machine.program.get? machine.programCounter with
      | none =>
          rw [step_of_outside halted fetched]
          exact consistent.halt.withTrace {} Footprint.within_empty Footprint.within_empty
      | some instruction =>
          rw [step_of_running halted fetched]
          exact consistent.execute halted instruction

/-! ### Commands -/

theorem apply (consistent : machine.Consistent tapeLength registerCount) (command : Command) :
    (machine.apply command).1.Consistent tapeLength registerCount := by
  cases command with
  | step => exact consistent.step
  | run budget => exact run_induction (fun _ before => before.step) budget consistent
  | reset =>
      have sizes := Memory.sameSizes_clearRegisters machine.memory
      exact
        { tape := sizes.tape.trans consistent.tape
          registers := by simp [Machine.apply, Machine.reset, sizes.general, consistent.general]
          counter := Nat.le_refl 1
          atStart := fun _ => rfl
          error := fun present => absurd rfl present
          read := Footprint.within_empty
          changed := Footprint.within_empty }
  | setProgram program => exact { consistent with }
  | setAccumulator value =>
      exact consistent.withMemory (Memory.sameSizes_setAccumulator _ value)
  | setRegister number value =>
      simp only [Machine.apply, Machine.setRegister]
      split
      next => exact consistent.withMemory (Memory.sameSizes_setRegister _ number value)
      next => exact consistent
  | setTape address value =>
      simp only [Machine.apply, Machine.setTape]
      split
      next => exact consistent.withMemory (Memory.sameSizes_setCell _ address value)
      next => exact consistent

/-- What is always the case is so after any commands. -/
theorem applyAll (consistent : machine.Consistent tapeLength registerCount)
    (commands : List Command) :
    (machine.applyAll commands).1.Consistent tapeLength registerCount :=
  applyAll_induction (fun _ command _ before => before.apply command) consistent

end Consistent

/-- What is always the case is so at first. -/
theorem consistent_zero (tapeLength registerCount : Nat) :
    Consistent tapeLength registerCount { memory := .zero tapeLength registerCount } :=
  { tape := by simp [Memory.zero]
    registers := by simp [Memory.zero]
    counter := Nat.le_refl 1
    atStart := fun _ => rfl
    error := fun present => absurd rfl present
    read := Footprint.within_empty
    changed := Footprint.within_empty }

/-- Whether commands lead to the machine from one that has a general register, nothing but zeros in
its memory and no program. -/
def Reachable (machine : Machine) : Prop :=
  ∃ tapeLength registerCount commands, 1 ≤ registerCount ∧
    machine = (applyAll { memory := .zero tapeLength registerCount } commands).1

/-- What is always the case holds for every reachable machine. -/
theorem Reachable.consistent {machine : Machine} (reachable : machine.Reachable) :
    ∃ tapeLength registerCount, machine.Consistent tapeLength registerCount := by
  obtain ⟨tapeLength, registerCount, commands, _, rfl⟩ := reachable
  exact ⟨tapeLength, registerCount, (consistent_zero tapeLength registerCount).applyAll commands⟩

/-- A reachable machine that runs shows no error. -/
theorem Reachable.lastError_eq_none {machine : Machine} (reachable : machine.Reachable)
    (running : machine.halted = false) : machine.lastError = none := by
  obtain ⟨_, _, consistent⟩ := reachable.consistent
  refine Decidable.byContradiction fun error => ?_
  rw [consistent.error error] at running
  cases running

/-! ## Halted machines -/

/-- Whether the program counter is 1 or inside the program. -/
def Placed (machine : Machine) : Prop :=
  machine.programCounter = 1 ∨ machine.programCounter ≤ machine.program.length

namespace Placed

variable {machine : Machine}

theorem proceed (machine : Machine) (position : Nat) : (machine.proceed position).1.Placed := by
  unfold Machine.proceed
  split
  next => exact .inl rfl
  next inside => exact .inr (Nat.not_lt.mp inside)

/-- Wherever control is before an instruction, it is inside the program afterwards. -/
theorem follow (machine : Machine) (flow : Flow) : (machine.follow flow).1.Placed := by
  cases flow with
  | next => exact proceed machine _
  | jump target => exact proceed machine target
  | halt => exact .inl rfl

theorem execute (machine : Machine) (instruction : Instruction) :
    (machine.execute instruction).1.Placed := by
  unfold Machine.execute
  dsimp only
  split
  next => exact follow _ _
  next => exact .inl rfl

theorem step (placed : machine.Placed) : machine.step.1.Placed := by
  cases halted : machine.halted with
  | true =>
      rw [step_of_halted halted]
      exact placed
  | false =>
      cases fetched : machine.program.get? machine.programCounter with
      | none =>
          rw [step_of_outside halted fetched]
          exact .inl rfl
      | some instruction =>
          rw [step_of_running halted fetched]
          exact execute machine instruction

theorem apply (placed : machine.Placed) {command : Command}
    (atStart : ∀ program, command = .setProgram program → machine.programCounter = 1) :
    (machine.apply command).1.Placed := by
  cases command with
  | step => exact placed.step
  | run budget => exact run_induction (fun _ before => before.step) budget placed
  | reset => exact .inl rfl
  | setProgram program => exact .inl (atStart program rfl)
  | setAccumulator value => exact placed
  | setRegister number value =>
      simp only [Machine.apply, setRegister]
      split <;> exact placed
  | setTape address value =>
      simp only [Machine.apply, setTape]
      split <;> exact placed

end Placed

end Machine

end Ram
