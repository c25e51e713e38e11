import Ram.Proofs.Machine.Bounds
import Ram.Proofs.Machine.Faults

/-!
# What a step depends on

The trace of a step names the places that the step has read.  Nothing else in the memory decides
what the step does: a machine that holds the same in these places makes the same step.

*Readings.*  `Reading.Settled` says of a reading, in two memories, that agreement in the places
that it touches makes it come out the same.  It goes through `do` blocks (`Settled.bind`) as long
as the parts do not hide each other's places: a footprint has room for one register and one cell,
and of two the later one counts.  No instruction reads two registers or two cells, so every
instruction is settled by its footprint (`Memory.settled_action`).

*Steps.*  The same reading comes to the same action or the same fault.  Both machines then move
control alike and write the same value to the same place (`Machine.SameStep`).
-/

namespace Ram

/-! ## Agreement -/

/-- Whether two memories hold the same in the places of a footprint. -/
structure Memory.AgreesOn (first : Memory) (footprint : Footprint) (second : Memory) : Prop where
  accumulator : footprint.accumulator = true → first.accumulator = second.accumulator
  register : ∀ number, footprint.register = some number →
    first.register? number = second.register? number
  cell : ∀ address, footprint.cell = some address → first.cell? address = second.cell? address

/-- Whether two footprints together name at most one register and one cell. -/
structure Footprint.Apart (first second : Footprint) : Prop where
  register : first.register = none ∨ second.register = none
  cell : first.cell = none ∨ second.cell = none

namespace Footprint

variable {first second : Footprint}

theorem apart_of_left (register : first.register = none) (cell : first.cell = none) :
    first.Apart second := ⟨.inl register, .inl cell⟩

theorem apart_of_right (register : second.register = none) (cell : second.cell = none) :
    first.Apart second := ⟨.inr register, .inr cell⟩

theorem Within.of_register {tapeLength registerCount : Nat} {number : RegisterNumber}
    (within : (ofRegister number).Within tapeLength registerCount) :
    number.toNat ≤ registerCount := by
  by_cases zero : number = 0
  · simp [zero]
  · exact (within.register number (by simp [ofRegister, zero])).2

/-- Of two footprints that are apart, the one that comes second hides no place of the first one. -/
theorem or_eq_some_of_apart {α : Type} {earlier later : Option α} {place : α}
    (apart : earlier = none ∨ later = none) (named : earlier = some place) :
    later.or earlier = some place := by
  rcases apart with absent | absent
  · rw [absent] at named
    cases named
  · rw [absent, Option.none_or, named]

end Footprint

namespace Memory.AgreesOn

variable {first second : Memory} {one other : Footprint}

/-- Memories that agree on two parts agree on the first, if no place is in both. -/
theorem of_merge_left (agrees : first.AgreesOn (one.merge other) second) (apart : one.Apart other) :
    first.AgreesOn one second where
  accumulator named := agrees.accumulator (by simp [Footprint.merge, named])
  register number named :=
    agrees.register number (Footprint.or_eq_some_of_apart apart.register named)
  cell address named := agrees.cell address (Footprint.or_eq_some_of_apart apart.cell named)

theorem of_merge_right (agrees : first.AgreesOn (one.merge other) second) :
    first.AgreesOn other second where
  accumulator named := agrees.accumulator (by simp [Footprint.merge, named])
  register number named := agrees.register number (by simp [Footprint.merge, named])
  cell address named := agrees.cell address (by simp [Footprint.merge, named])

end Memory.AgreesOn

namespace Memory

variable {first second : Memory}

theorem agreesOn_ofRegister_iff {number : RegisterNumber} :
    first.AgreesOn (.ofRegister number) second ↔
      first.register? number = second.register? number := by
  by_cases zero : number = 0
  · subst zero
    constructor
    · intro agrees
      exact congrArg some (agrees.accumulator rfl)
    · intro same
      exact ⟨fun _ => Option.some.inj same, nofun, nofun⟩
  · have named : Footprint.ofRegister number = { register := some number } := by
      simp [Footprint.ofRegister, zero]
    rw [named]
    constructor
    · intro agrees
      exact agrees.register number rfl
    · intro same
      refine ⟨nofun, ?_, nofun⟩
      rintro other found
      cases found
      exact same

theorem agreesOn_ofCell_iff {address : Nat} :
    first.AgreesOn (.ofCell address) second ↔ first.cell? address = second.cell? address := by
  constructor
  · intro agrees
    exact agrees.cell address rfl
  · intro same
    refine ⟨nofun, nofun, ?_⟩
    rintro other found
    cases found
    exact same

end Memory

/-! ## Readings -/

/-- Whether a reading of one memory comes out the same in another one, if the two memories agree
where the reading touches the first one. -/
def Reading.Settled {α : Type} (first second : Memory) (one other : Reading α) : Prop :=
  first.AgreesOn one.touched second → other = one

namespace Reading.Settled

variable {α β : Type} {first second : Memory}

theorem same (reading : Reading α) : Settled first second reading reading := fun _ => rfl

theorem bind {one other : Reading α} {next following : α → Reading β}
    (settled : Settled first second one other)
    (rest : ∀ value, Settled first second (next value) (following value))
    (apart : ∀ value, one.touched.Apart (next value).touched) :
    Settled first second (one >>= next) (other >>= following) := by
  intro agrees
  cases outcome : one.result with
  | error fault =>
      rw [bind_eq, andThen_of_error outcome] at agrees
      rw [settled agrees, bind_eq, bind_eq, andThen_of_error outcome, andThen_of_error outcome]
  | ok value =>
      rw [bind_eq, andThen_of_ok outcome] at agrees
      rw [settled (agrees.of_merge_left (apart value)), bind_eq, bind_eq, andThen_of_ok outcome,
        andThen_of_ok outcome, rest value agrees.of_merge_right]

end Reading.Settled

namespace Memory

variable {first second : Memory}

theorem settled_readAccumulator (first second : Memory) :
    Reading.Settled first second first.readAccumulator second.readAccumulator := by
  intro agrees
  rw [readAccumulator, readAccumulator, agrees.accumulator rfl]

/-- What a register is read as is settled by its value, and by the sizes if it is not there. -/
theorem settled_readRegister (sizes : first.SameSizes second) (number : RegisterNumber) :
    Reading.Settled first second (first.readRegister number) (second.readRegister number) := by
  intro agrees
  cases found : first.register? number with
  | none =>
      have alsoNone : second.register? number = none := by
        rwa [register?_eq_none_iff, ← sizes.general, ← register?_eq_none_iff]
      simp only [readRegister, found, alsoNone]
  | some value =>
      have touched : (first.readRegister number).touched = .ofRegister number := by
        simp only [readRegister, found]
      rw [touched] at agrees
      have same : second.register? number = some value :=
        (agreesOn_ofRegister_iff.mp agrees).symm.trans found
      simp only [readRegister, found, same]

theorem settled_readCell (sizes : first.SameSizes second) (address : Nat) :
    Reading.Settled first second (first.readCell address) (second.readCell address) := by
  intro agrees
  cases found : first.cell? address with
  | none =>
      have alsoNone : second.cell? address = none := by
        rwa [cell?_eq_none_iff, ← sizes.tape, ← cell?_eq_none_iff]
      simp only [readCell, found, alsoNone]
  | some value =>
      have touched : (first.readCell address).touched = .ofCell address := by
        simp only [readCell, found]
      rw [touched] at agrees
      have same : second.cell? address = some value :=
        (agreesOn_ofCell_iff.mp agrees).symm.trans found
      simp only [readCell, found, same]

theorem settled_operand (sizes : first.SameSizes second) (argument : Option Argument) :
    Reading.Settled first second (first.operand argument) (second.operand argument) := by
  rcases argument with _ | (_ | number | _)
  · exact .same _
  · exact .same _
  · exact settled_readRegister sizes number
  · exact .same _

theorem settled_address (sizes : first.SameSizes second) (argument : Option Argument) :
    Reading.Settled first second (first.address argument) (second.address argument) := by
  apply (settled_operand sizes argument).bind
  · intro value
    exact .same _
  · intro value
    split
    next => exact Footprint.apart_of_right rfl rfl
    next => exact Footprint.apart_of_right rfl rfl

end Memory

/-! ## Where the parts of an instruction read -/

/-- If neither of two readings touches a kind of place, one after the other does not either. -/
theorem Reading.untouched_bind {α β κ : Type} {one : Reading α} {next : α → Reading β}
    (kind : Footprint → Option κ)
    (merges : ∀ first second, kind (first.merge second) = (kind second).or (kind first))
    (here : kind one.touched = none) (there : ∀ value, kind (next value).touched = none) :
    kind (one >>= next).touched = none := by
  cases outcome : one.result with
  | error fault => rw [bind_eq, andThen_of_error outcome, here]
  | ok value => rw [bind_eq, andThen_of_ok outcome, merges, there value, here, Option.or_none]

namespace Memory

variable (memory : Memory)

theorem cell_touched_readRegister (number : RegisterNumber) :
    (memory.readRegister number).touched.cell = none := by
  unfold readRegister
  split
  next =>
    unfold Footprint.ofRegister
    split <;> rfl
  next => rfl

theorem cell_touched_address (argument : Option Argument) :
    (memory.address argument).touched.cell = none := by
  apply Reading.untouched_bind Footprint.cell fun _ _ => rfl
  · rcases argument with _ | (_ | number | _)
    · rfl
    · rfl
    · exact memory.cell_touched_readRegister number
    · rfl
  · intro value
    split <;> rfl

theorem register_touched_readCell (address : Nat) :
    (memory.readCell address).touched.register = none := by
  unfold readCell
  split <;> rfl

end Memory

/-- Naming a register touches nothing. -/
theorem apart_registerArgument (argument : Option Argument) (footprint : Footprint) :
    (registerArgument argument).touched.Apart footprint := by
  unfold registerArgument
  split
  next => exact Footprint.apart_of_left rfl rfl
  next => exact Footprint.apart_of_left rfl rfl

/-! ## Instructions -/

namespace Memory

variable {first second : Memory}

theorem SameSizes.hasRegister (sizes : first.SameSizes second) (number : RegisterNumber) :
    first.hasRegister number = second.hasRegister number := by
  rw [Memory.hasRegister, Memory.hasRegister, sizes.general]

theorem SameSizes.hasCell (sizes : first.SameSizes second) (address : Nat) :
    first.hasCell address = second.hasCell address := by
  rw [Memory.hasCell, Memory.hasCell, sizes.tape]

/-- What an instruction reads settles what it does. -/
theorem settled_action (sizes : first.SameSizes second) (length : Nat) (mnemonic : Mnemonic)
    (argument : Option Argument) :
    Reading.Settled first second (first.action length mnemonic argument)
      (second.action length mnemonic argument) := by
  have accumulator := settled_readAccumulator first second
  cases mnemonic with
  | nop | jump | halt => exact .same _
  | add | sub =>
      refine (settled_operand sizes argument).bind (fun operand => ?_)
        (fun operand => Footprint.apart_of_right rfl rfl)
      exact accumulator.bind (fun _ => .same _) (fun _ => Footprint.apart_of_right rfl rfl)
  | half => exact accumulator.bind (fun _ => .same _) (fun _ => Footprint.apart_of_right rfl rfl)
  | load =>
      refine (Reading.Settled.same (registerArgument argument)).bind (fun number => ?_)
        (fun number => apart_registerArgument argument _)
      exact (settled_readRegister sizes number).bind (fun _ => .same _)
        (fun _ => Footprint.apart_of_right rfl rfl)
  | store =>
      refine accumulator.bind (fun value => ?_) (fun _ => Footprint.apart_of_left rfl rfl)
      refine (Reading.Settled.same (registerArgument argument)).bind (fun number => ?_)
        (fun number => apart_registerArgument argument _)
      rw [sizes.hasRegister]
      exact .same _
  | read =>
      -- the address may be in a register, and then a register and a cell are read
      refine (settled_address sizes argument).bind (fun address => ?_) (fun address =>
        ⟨.inr ?_, .inl (first.cell_touched_address argument)⟩)
      · exact (settled_readCell sizes address).bind (fun _ => .same _)
          (fun _ => Footprint.apart_of_right rfl rfl)
      · exact Reading.untouched_bind Footprint.register (fun _ _ => rfl)
          (first.register_touched_readCell address) fun _ => rfl
  | write =>
      refine (settled_address sizes argument).bind (fun address => ?_) (fun address =>
        ⟨.inr ?_, .inl (first.cell_touched_address argument)⟩)
      · refine accumulator.bind (fun value => ?_) (fun _ => Footprint.apart_of_left rfl rfl)
        rw [sizes.hasCell]
        exact .same _
      · refine Reading.untouched_bind Footprint.register (fun _ _ => rfl) rfl fun value => ?_
        split <;> rfl
  | jzero | jpos =>
      exact accumulator.bind (fun _ => .same _) (fun _ => Footprint.apart_of_left rfl rfl)

theorem hasRegister_of_within {memory : Memory} {number : RegisterNumber}
    (within : (Footprint.ofRegister number).Within memory.tape.size memory.general.size) :
    memory.hasRegister number = true := by
  simpa [hasRegister] using within.of_register

theorem hasCell_of_within {memory : Memory} {address : Nat}
    (within : (Footprint.ofCell address).Within memory.tape.size memory.general.size) :
    memory.hasCell address = true := by
  simpa [hasCell] using within.cell address rfl

/-- An action writes the same to the place that it changes, whatever the memory holds. -/
theorem agreesOn_perform (sizes : first.SameSizes second) {action : Action}
    (within : action.footprint.Within first.tape.size first.general.size) :
    (first.perform action).AgreesOn action.footprint (second.perform action) := by
  obtain ⟨_ | (value | ⟨number, value⟩ | ⟨address, value⟩), flow⟩ := action
  · exact ⟨nofun, nofun, nofun⟩
  · exact ⟨fun _ => rfl, nofun, nofun⟩
  · have present : first.hasRegister number = true := hasRegister_of_within within
    have alsoPresent : second.hasRegister number = true := by rw [← sizes.hasRegister, present]
    apply agreesOn_ofRegister_iff.mpr
    simp only [perform, update, register?_setRegister present, register?_setRegister alsoPresent,
      if_true]
  · have present : first.hasCell address = true := hasCell_of_within within
    have alsoPresent : second.hasCell address = true := by rw [← sizes.hasCell, present]
    apply agreesOn_ofCell_iff.mpr
    simp only [perform, update, cell?_setCell present, cell?_setCell alsoPresent, if_true]

end Memory

/-! ## Steps -/

namespace Machine

/-- Whether two machines differ in no more than what is in their registers and cells, and in what
they show of the past. -/
structure SameShape (first second : Machine) : Prop where
  program : first.program = second.program
  counter : first.programCounter = second.programCounter
  halted : first.halted = second.halted
  sizes : first.memory.SameSizes second.memory

/-- Whether two steps come to the same: their outcomes, what they show of what they touched, where
control is, and the new values in the places that they changed. -/
structure SameStep (first second : Machine × Outcome) : Prop where
  outcome : first.2 = second.2
  trace : first.1.trace = second.1.trace
  counter : first.1.programCounter = second.1.programCounter
  halted : first.1.halted = second.1.halted
  changed : first.1.memory.AgreesOn first.1.trace.changed second.1.memory

variable {first second : Machine}

@[simp] theorem trace_follow (machine : Machine) (flow : Flow) :
    (machine.follow flow).1.trace = machine.trace := by
  have proceeds (position : Nat) : (machine.proceed position).1.trace = machine.trace := by
    unfold proceed
    split <;> rfl
  cases flow with
  | next => exact proceeds _
  | jump target => exact proceeds target
  | halt => rfl

/-- The trace shows what the instruction has read, also if it fails. -/
theorem read_execute (machine : Machine) (instruction : Instruction) :
    (machine.execute instruction).1.trace.read = (machine.reading instruction).touched := by
  cases outcome : (machine.reading instruction).result with
  | ok action => simp [execute, outcome, commit]
  | error fault => simp [execute, outcome, fail]

theorem SameStep.proceed (program : first.program = second.program)
    (trace : first.trace = second.trace) (halted : first.halted = second.halted)
    (changed : first.memory.AgreesOn first.trace.changed second.memory) (position : Nat) :
    SameStep (first.proceed position) (second.proceed position) := by
  unfold Machine.proceed
  rw [← program]
  split
  next => exact ⟨rfl, trace, rfl, rfl, changed⟩
  next => exact ⟨rfl, trace, rfl, halted, changed⟩

theorem SameStep.follow (program : first.program = second.program)
    (counter : first.programCounter = second.programCounter) (trace : first.trace = second.trace)
    (halted : first.halted = second.halted)
    (changed : first.memory.AgreesOn first.trace.changed second.memory) (flow : Flow) :
    SameStep (first.follow flow) (second.follow flow) := by
  cases flow with
  | next =>
      unfold Machine.follow
      rw [← counter]
      exact .proceed program trace halted changed _
  | jump target => exact .proceed program trace halted changed target
  | halt => exact ⟨rfl, trace, rfl, rfl, changed⟩

/-- The same action leaves the same in the place that it writes. -/
theorem SameStep.commit (shape : first.SameShape second) (read : Footprint) {action : Action}
    (within : action.footprint.Within first.memory.tape.size first.memory.general.size) :
    SameStep (first.commit read action) (second.commit read action) := by
  unfold Machine.commit
  apply SameStep.follow
  · exact shape.program
  · exact shape.counter
  · rfl
  · exact shape.halted
  · exact Memory.agreesOn_perform shape.sizes within

/-- Instructions that read the same do the same. -/
theorem SameStep.execute (shape : first.SameShape second) (instruction : Instruction)
    (agrees : first.memory.AgreesOn (first.reading instruction).touched second.memory) :
    SameStep (first.execute instruction) (second.execute instruction) := by
  have same : second.reading instruction = first.reading instruction := by
    unfold reading
    rw [← shape.program]
    exact Memory.settled_action shape.sizes _ _ _ agrees
  have ensures := first.memory.ensures_action first.program.length instruction.mnemonic
    (instruction.argument? 0)
  unfold Machine.execute
  rw [same, ← shape.counter]
  dsimp only
  split
  next action success => exact .commit shape _ (ensures.result action success).footprint
  next => exact ⟨rfl, rfl, rfl, rfl, nofun, nofun, nofun⟩

/-- What a step reads decides what it does.  If a second machine holds the same as the first one in
the places that the step of the first one shows as read, its step comes to the same. -/
theorem sameStep_of_agreesOn (shape : first.SameShape second)
    (agrees : first.memory.AgreesOn first.step.1.trace.read second.memory) :
    SameStep first.step second.step := by
  have alsoHalted := shape.halted
  cases halted : first.halted with
  | true =>
      rw [halted] at alsoHalted
      rw [step_of_halted halted, step_of_halted alsoHalted.symm]
      exact ⟨rfl, rfl, shape.counter, shape.halted, nofun, nofun, nofun⟩
  | false =>
      rw [halted] at alsoHalted
      have alsoFetched : second.program.get? second.programCounter =
          first.program.get? first.programCounter := by rw [shape.program, shape.counter]
      cases fetched : first.program.get? first.programCounter with
      | none =>
          rw [fetched] at alsoFetched
          rw [step_of_outside halted fetched, step_of_outside alsoHalted.symm alsoFetched]
          exact ⟨rfl, rfl, rfl, rfl, nofun, nofun, nofun⟩
      | some instruction =>
          rw [fetched] at alsoFetched
          rw [step_of_running halted fetched, read_execute] at agrees
          rw [step_of_running halted fetched, step_of_running alsoHalted.symm alsoFetched]
          exact .execute shape instruction agrees

/-- The second register holds the address of a cell.  Two machines that hold the same there read
the same value into the accumulator, and all the rest of their memories is different. -/
theorem sameStep_of_agreesOn_read :
    let program : Program := ⟨[⟨.read, [], [.register 2], rfl⟩, ⟨.halt, [], [], rfl⟩]⟩
    let first : Machine := { memory := ⟨1, #[5, 1], #[0, 7, 0]⟩, program }
    let second : Machine := { memory := ⟨-3, #[8, 1], #[4, 7, 9]⟩, program }
    first.SameShape second ∧ first.step.1.trace.read = { register := some 2, cell := some 1 } ∧
      first.memory.AgreesOn first.step.1.trace.read second.memory ∧
      SameStep first.step second.step := by
  intro program first second
  have shape : first.SameShape second := ⟨rfl, rfl, rfl, rfl, rfl⟩
  have read : first.step.1.trace.read = { register := some 2, cell := some 1 } := by decide +kernel
  have agrees : first.memory.AgreesOn first.step.1.trace.read second.memory := by
    rw [read]
    refine ⟨nofun, ?_, ?_⟩
    · rintro number found
      cases found
      rfl
    · rintro address found
      cases found
      rfl
  exact ⟨shape, read, agrees, sameStep_of_agreesOn shape agrees⟩

end Machine

end Ram
