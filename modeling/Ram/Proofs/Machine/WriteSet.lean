import Ram.Proofs.Machine.InPlace
import Ram.Proofs.Machine.Path
import Ram.Proofs.Machine.ReadSet

/-!
# What a step writes

The trace of a step names the places that the step has changed.  It names one place at most, the
place holds what the instruction defines, and the rest of the memory is as it was.

*Instructions.*  `Memory.Assigns` says where an instruction puts a value, and which one, with
integers in place of words: a sum wraps to 64 bits with a sign, and a half is cut toward zero.
Register 0 is the accumulator there, both as an operand and as a place to store to.  An instruction
assigns a value exactly when its reading comes to an action that writes it
(`Machine.reading_of_assigns` and `Machine.assigns_of_reading`).

*Steps.*  An action changes nothing but the place that it writes (`Memory.agreesOff_perform`), and
control moves without touching the memory.  `Machine.WritesAsTraced` puts together what follows for
a step.  In place, the step writes as it goes, and that it changes nothing else is shown there path
by path (`InPlace.changesTo_of_step`).
-/

namespace Ram

/-! ## Places and values -/

namespace Memory

/-- Whether two memories hold the same in every place that a footprint does not name. -/
structure AgreesOff (first : Memory) (footprint : Footprint) (second : Memory) : Prop where
  accumulator : footprint.accumulator = false → second.accumulator = first.accumulator
  register : ∀ number, number ≠ 0 → footprint.register ≠ some number →
    second.register? number = first.register? number
  cell : ∀ address, footprint.cell ≠ some address → second.cell? address = first.cell? address

/-- Whether a memory holds a value in every place that a footprint names. -/
structure Holds (memory : Memory) (footprint : Footprint) (value : Value) : Prop where
  accumulator : footprint.accumulator = true → memory.accumulator = value
  register : ∀ number, footprint.register = some number → memory.register? number = some value
  cell : ∀ address, footprint.cell = some address → memory.cell? address = some value

/-- What an operand stands for: a literal for itself, and a register for what it holds. -/
def valueOf? (memory : Memory) : Argument → Option Value
  | .literal value => some value
  | .register number => memory.register? number
  | .label _ _ => none

/-- Where an instruction puts a value, and the value, in a memory that has what it needs. -/
inductive Assigns (memory : Memory) (instruction : Instruction) : Footprint → Value → Prop where
  /-- `ADD` adds the operand to the accumulator. -/
  | add {argument : Argument} {operand sum : Value} :
    instruction.mnemonic = .add → instruction.arguments = [argument] →
    memory.valueOf? argument = some operand →
    sum.toInt = (memory.accumulator.toInt + operand.toInt).bmod UInt64.size →
    Assigns memory instruction .ofAccumulator sum
  /-- `SUB` takes the operand from the accumulator. -/
  | sub {argument : Argument} {operand difference : Value} :
    instruction.mnemonic = .sub → instruction.arguments = [argument] →
    memory.valueOf? argument = some operand →
    difference.toInt = (memory.accumulator.toInt - operand.toInt).bmod UInt64.size →
    Assigns memory instruction .ofAccumulator difference
  /-- `HALF` halves the accumulator. -/
  | half {half : Value} :
    instruction.mnemonic = .half → half.toInt = memory.accumulator.toInt.tdiv 2 →
    Assigns memory instruction .ofAccumulator half
  /-- `LOAD` copies a register to the accumulator. -/
  | load {number : RegisterNumber} {content : Value} :
    instruction.mnemonic = .load → instruction.arguments = [.register number] →
    memory.register? number = some content →
    Assigns memory instruction .ofAccumulator content
  /-- `STORE` copies the accumulator to a register. -/
  | store {number : RegisterNumber} :
    instruction.mnemonic = .store → instruction.arguments = [.register number] →
    (memory.register? number).isSome →
    Assigns memory instruction (.ofRegister number) memory.accumulator
  /-- `READ` copies a cell to the accumulator. -/
  | read {argument : Argument} {operand content : Value} {address : Nat} :
    instruction.mnemonic = .read → instruction.arguments = [argument] →
    memory.valueOf? argument = some operand → operand.toInt = address →
    memory.cell? address = some content →
    Assigns memory instruction .ofAccumulator content
  /-- `WRITE` copies the accumulator to a cell. -/
  | write {argument : Argument} {operand : Value} {address : Nat} :
    instruction.mnemonic = .write → instruction.arguments = [argument] →
    memory.valueOf? argument = some operand → operand.toInt = address →
    (memory.cell? address).isSome →
    Assigns memory instruction (.ofCell address) memory.accumulator

end Memory

/-- The value that an update writes. -/
def Update.value : Update → Value
  | accumulator value => value
  | register _ value => value
  | cell _ value => value

theorem Update.single_footprint (update : Update) : update.footprint.Single := by
  cases update with
  | accumulator value => exact Footprint.single_ofAccumulator
  | register number value => exact Footprint.single_ofRegister number
  | cell address value => exact Footprint.single_ofCell address

theorem Action.single_footprint (action : Action) : action.footprint.Single := by
  obtain ⟨_ | update, flow⟩ := action
  · exact Footprint.single_empty
  · exact update.single_footprint

/-! ## What comes of writing -/

namespace Memory

variable {memory : Memory}

theorem AgreesOff.refl (memory : Memory) (footprint : Footprint) :
    memory.AgreesOff footprint memory := ⟨fun _ => rfl, fun _ _ _ => rfl, fun _ _ => rfl⟩

/-- Writing a register of any number changes no other place. -/
theorem agreesOff_setRegister {number : RegisterNumber} (present : memory.hasRegister number = true)
    (value : Value) :
    memory.AgreesOff (.ofRegister number) (memory.setRegister number value) := by
  have others (other : RegisterNumber) : (memory.setRegister number value).register? other =
      if other = number then some value else memory.register? other :=
    register?_setRegister present other
  constructor
  · intro unnamed
    have general : number ≠ 0 := by
      rintro rfl
      cases unnamed
    have kept := others 0
    rw [if_neg (Ne.symm general)] at kept
    exact Option.some.inj kept
  · intro other nonzero unnamed
    rw [others other, if_neg]
    rintro rfl
    simp [Footprint.ofRegister, nonzero] at unnamed
  · intro address _
    exact cell?_setRegister memory number value address

theorem holds_setRegister {number : RegisterNumber} (present : memory.hasRegister number = true)
    (value : Value) : (memory.setRegister number value).Holds (.ofRegister number) value := by
  have written : (memory.setRegister number value).register? number = some value :=
    (register?_setRegister present number).trans (if_pos rfl)
  by_cases zero : number = 0
  · subst zero
    constructor
    · intro _
      exact Option.some.inj written
    · intro other named
      cases named
    · intro address named
      cases named
  · have only : Footprint.ofRegister number = { register := some number } := by
      simp [Footprint.ofRegister, zero]
    rw [only]
    constructor
    · intro named
      cases named
    · intro other named
      cases named
      exact written
    · intro address named
      cases named

/-- An action changes no place but the one that it writes. -/
theorem agreesOff_perform {action : Action}
    (within : action.footprint.Within memory.tape.size memory.general.size) :
    memory.AgreesOff action.footprint (memory.perform action) := by
  obtain ⟨_ | (value | ⟨number, value⟩ | ⟨address, value⟩), flow⟩ := action
  · exact .refl memory _
  · exact ⟨nofun, fun number general _ => register?_setAccumulator general memory value,
      fun _ _ => rfl⟩
  · exact agreesOff_setRegister (hasRegister_of_within within) value
  · refine ⟨fun _ => rfl, fun _ _ _ => rfl, fun other unnamed => ?_⟩
    have different : other ≠ address := by
      rintro rfl
      exact unnamed rfl
    exact (cell?_setCell (hasCell_of_within within) other).trans (if_neg different)

theorem holds_update {update : Update}
    (within : update.footprint.Within memory.tape.size memory.general.size) :
    (memory.update update).Holds update.footprint update.value := by
  cases update with
  | accumulator value => exact ⟨fun _ => rfl, nofun, nofun⟩
  | register number value => exact holds_setRegister (hasRegister_of_within within) value
  | cell address value =>
      refine ⟨nofun, nofun, ?_⟩
      rintro other found
      cases found
      exact (cell?_setCell (hasCell_of_within within) address).trans (if_pos rfl)

end Memory

/-! ## What readings come to -/

theorem Reading.bind_eq_ok_iff {α β : Type} {first : Reading α} {next : α → Reading β}
    {result : β} :
    (first >>= next).result = .ok result ↔
      ∃ value, first.result = .ok value ∧ (next value).result = .ok result := by
  rw [result_bind, Ram.bind_eq_ok_iff]

namespace Memory

variable {memory : Memory} {value : Value} {address : Nat}

theorem readRegister_eq_ok_iff {number : RegisterNumber} :
    (memory.readRegister number).result = .ok value ↔ memory.register? number = some value := by
  unfold readRegister
  cases memory.register? number with
  | none => simp
  | some content => simp

theorem readCell_eq_ok_iff :
    (memory.readCell address).result = .ok value ↔ memory.cell? address = some value := by
  unfold readCell
  cases memory.cell? address with
  | none => simp
  | some content => simp

/-- An operand that is no label is read as what it stands for. -/
theorem operand_eq_ok_iff {argument : Argument}
    (admitted : Shape.literalOrRegister.admits argument = true) :
    (memory.operand (some argument)).result = .ok value ↔
      memory.valueOf? argument = some value := by
  cases argument with
  | literal literal =>
      show Except.ok literal = .ok value ↔ some literal = some value
      rw [Except.ok.injEq, Option.some.injEq]
  | register number => exact readRegister_eq_ok_iff
  | label name position => cases admitted

/-- What has a value is a literal or a register. -/
theorem admits_of_valueOf? {argument : Argument} (known : memory.valueOf? argument = some value) :
    Shape.literalOrRegister.admits argument = true := by
  cases argument with
  | literal literal => rfl
  | register number => rfl
  | label name position => cases known

/-- An operand is read as an address exactly when it stands for the address. -/
theorem address_eq_ok_iff {argument : Argument}
    (admitted : Shape.literalOrRegister.admits argument = true) :
    (memory.address (some argument)).result = .ok address ↔
      ∃ operand, memory.valueOf? argument = some operand ∧ operand.toInt = address := by
  rw [Memory.address, Reading.bind_eq_ok_iff]
  refine exists_congr fun operand => ?_
  rw [operand_eq_ok_iff admitted]
  refine and_congr_right fun _ => ?_
  have toNat : operand.toNatClampNeg = operand.toInt.toNat := rfl
  have negative : operand < 0 ↔ operand.toInt < 0 := Int64.lt_iff_toInt_lt
  split
  next below =>
    rw [negative] at below
    simp only [Reading.result_fail, reduceCtorEq, false_iff]
    omega
  next above =>
    rw [negative] at above
    show Except.ok operand.toNatClampNeg = .ok address ↔ _
    rw [Except.ok.injEq, toNat]
    omega

/-- Halving goes towards zero. -/
theorem toInt_half (value : Value) : (value / 2).toInt = value.toInt.tdiv 2 :=
  Int64.toInt_div_of_ne_right value 2 (by decide)

end Memory

/-! ## What an instruction assigns -/

namespace Machine

variable {machine : Machine} {instruction : Instruction}

theorem argument?_of_arguments {argument : Argument} (given : instruction.arguments = [argument]) :
    instruction.argument? 0 = some argument := by
  rw [Instruction.argument?, given]
  rfl

theorem arguments_of_argument? {argument : Argument}
    (given : instruction.argument? 0 = some argument) : instruction.arguments = [argument] := by
  rw [instruction.arguments_eq_toList, given]
  rfl

/-- What an instruction assigns is what its action writes. -/
theorem reading_of_assigns {footprint : Footprint} {value : Value}
    (assigns : machine.memory.Assigns instruction footprint value) :
    ∃ update, (machine.reading instruction).result = .ok (.write update) ∧
      update.footprint = footprint ∧ update.value = value := by
  unfold reading
  cases assigns with
  | add kind given known sum =>
      rw [kind, argument?_of_arguments given]
      have operand := (Memory.operand_eq_ok_iff (Memory.admits_of_valueOf? known)).mpr known
      refine ⟨_, Memory.action_add operand, rfl, ?_⟩
      exact Int64.toInt_inj.mp ((Int64.toInt_add _ _).trans sum.symm)
  | sub kind given known difference =>
      rw [kind, argument?_of_arguments given]
      have operand := (Memory.operand_eq_ok_iff (Memory.admits_of_valueOf? known)).mpr known
      refine ⟨_, Memory.action_sub operand, rfl, ?_⟩
      exact Int64.toInt_inj.mp ((Int64.toInt_sub _ _).trans difference.symm)
  | half kind half =>
      rw [kind]
      refine ⟨.accumulator (machine.memory.accumulator / 2), rfl, rfl, ?_⟩
      exact Int64.toInt_inj.mp ((Memory.toInt_half _).trans half.symm)
  | load kind given holds =>
      rw [kind, argument?_of_arguments given]
      exact ⟨_, Memory.action_load holds, rfl, rfl⟩
  | store kind given there =>
      rw [kind, argument?_of_arguments given]
      rw [Memory.isSome_register?] at there
      exact ⟨_, Memory.action_store there, rfl, rfl⟩
  | read kind given known located holds =>
      rw [kind, argument?_of_arguments given]
      have address := (Memory.address_eq_ok_iff (Memory.admits_of_valueOf? known)).mpr
        ⟨_, known, located⟩
      exact ⟨_, Memory.action_read address holds, rfl, rfl⟩
  | write kind given known located there =>
      rw [kind, argument?_of_arguments given]
      rw [Memory.isSome_cell?] at there
      have address := (Memory.address_eq_ok_iff (Memory.admits_of_valueOf? known)).mpr
        ⟨_, known, located⟩
      exact ⟨_, Memory.action_write address there, rfl, rfl⟩

theorem update_of_jumpTo {length : Nat} {argument : Option Argument} {action : Action}
    (success : (jumpTo length argument).result = .ok action) : action.update = none := by
  unfold jumpTo at success
  split at success
  next => cases success
  next =>
    split at success
    next => cases success
    next =>
      cases success
      rfl

/-- What the action of an instruction writes is what the instruction assigns. -/
theorem assigns_of_reading {action : Action} {update : Update}
    (success : (machine.reading instruction).result = .ok action)
    (writes : action.update = some update) :
    machine.memory.Assigns instruction update.footprint update.value := by
  rw [reading] at success
  cases kind : instruction.mnemonic with
  | nop | halt =>
      rw [kind] at success
      cases success
      cases writes
  | half =>
      rw [kind] at success
      cases success
      cases writes
      exact .half kind (Memory.toInt_half _)
  | add =>
      obtain ⟨argument, given, _, admitted⟩ := Instruction.exists_argument kind rfl
      rw [kind, given] at success
      obtain ⟨operand, known, last⟩ := Reading.bind_eq_ok_iff.mp success
      cases last
      cases writes
      exact .add kind (arguments_of_argument? given)
        ((Memory.operand_eq_ok_iff admitted).mp known) (Int64.toInt_add _ _)
  | sub =>
      obtain ⟨argument, given, _, admitted⟩ := Instruction.exists_argument kind rfl
      rw [kind, given] at success
      obtain ⟨operand, known, last⟩ := Reading.bind_eq_ok_iff.mp success
      cases last
      cases writes
      exact .sub kind (arguments_of_argument? given)
        ((Memory.operand_eq_ok_iff admitted).mp known) (Int64.toInt_sub _ _)
  | load =>
      obtain ⟨number, given, _⟩ := Instruction.exists_register kind rfl
      rw [kind, given] at success
      obtain ⟨_, same, rest⟩ := Reading.bind_eq_ok_iff.mp success
      cases same
      obtain ⟨content, read, last⟩ := Reading.bind_eq_ok_iff.mp rest
      cases last
      cases writes
      exact .load kind (arguments_of_argument? given) (Memory.readRegister_eq_ok_iff.mp read)
  | store =>
      obtain ⟨number, given, _⟩ := Instruction.exists_register kind rfl
      rw [kind, given] at success
      obtain ⟨_, accumulator, rest⟩ := Reading.bind_eq_ok_iff.mp success
      cases accumulator
      obtain ⟨_, same, last⟩ := Reading.bind_eq_ok_iff.mp rest
      cases same
      split at last
      next there =>
        cases last
        cases writes
        exact .store kind (arguments_of_argument? given) (Memory.isSome_register?.trans there)
      next => cases last
  | read =>
      obtain ⟨argument, given, _, admitted⟩ := Instruction.exists_argument kind rfl
      rw [kind, given] at success
      obtain ⟨address, resolved, rest⟩ := Reading.bind_eq_ok_iff.mp success
      obtain ⟨operand, known, located⟩ := (Memory.address_eq_ok_iff admitted).mp resolved
      obtain ⟨content, read, last⟩ := Reading.bind_eq_ok_iff.mp rest
      cases last
      cases writes
      exact .read kind (arguments_of_argument? given) known located
        (Memory.readCell_eq_ok_iff.mp read)
  | write =>
      obtain ⟨argument, given, _, admitted⟩ := Instruction.exists_argument kind rfl
      rw [kind, given] at success
      obtain ⟨address, resolved, rest⟩ := Reading.bind_eq_ok_iff.mp success
      obtain ⟨operand, known, located⟩ := (Memory.address_eq_ok_iff admitted).mp resolved
      obtain ⟨_, accumulator, last⟩ := Reading.bind_eq_ok_iff.mp rest
      cases accumulator
      split at last
      next there =>
        cases last
        cases writes
        exact .write kind (arguments_of_argument? given) known located
          (Memory.isSome_cell?.trans there)
      next => cases last
  | jzero | jpos =>
      rw [kind] at success
      obtain ⟨_, _, last⟩ := Reading.bind_eq_ok_iff.mp success
      split at last
      next =>
        rw [update_of_jumpTo last] at writes
        cases writes
      next =>
        cases last
        cases writes
  | jump =>
      rw [kind] at success
      rw [update_of_jumpTo success] at writes
      cases writes

/-! ## Steps -/

@[simp] theorem memory_follow (machine : Machine) (flow : Flow) :
    (machine.follow flow).1.memory = machine.memory := by
  have proceeds (position : Nat) : (machine.proceed position).1.memory = machine.memory := by
    unfold proceed
    split <;> rfl
  cases flow with
  | next => exact proceeds _
  | jump target => exact proceeds target
  | halt => rfl

/-- A step executes the instruction that is next.  Without one it leaves the memory alone and shows
nothing as touched. -/
theorem step_cases (machine : Machine) :
    (machine.currentInstruction? = none ∧ machine.step.1.memory = machine.memory ∧
        machine.step.1.trace = {}) ∨
      ∃ instruction, machine.currentInstruction? = some instruction ∧
        machine.step = machine.execute instruction := by
  cases halted : machine.halted with
  | true =>
      rw [step_of_halted halted]
      exact .inl ⟨by simp [currentInstruction?, halted], rfl, rfl⟩
  | false =>
      cases fetched : machine.program.get? machine.programCounter with
      | none =>
          rw [step_of_outside halted fetched]
          exact .inl ⟨by simp [currentInstruction?, halted, fetched], rfl, rfl⟩
      | some instruction =>
          exact .inr ⟨instruction, by simp [currentInstruction?, halted, fetched],
            step_of_running halted fetched⟩

/-- An instruction writes only the place that it shows as changed. -/
theorem agreesOff_execute (machine : Machine) (instruction : Instruction) :
    machine.memory.AgreesOff (machine.execute instruction).1.trace.changed
      (machine.execute instruction).1.memory := by
  have ensures := machine.memory.ensures_action machine.program.length instruction.mnemonic
    (instruction.argument? 0)
  unfold execute
  dsimp only
  split
  next action success =>
    simp only [commit, memory_follow, trace_follow]
    exact Memory.agreesOff_perform (ensures.result action success).footprint
  next => exact .refl machine.memory _

theorem single_changed_execute (machine : Machine) (instruction : Instruction) :
    (machine.execute instruction).1.trace.changed.Single := by
  unfold execute
  dsimp only
  split
  next action _ =>
    simp only [commit, trace_follow]
    exact action.single_footprint
  next => exact Footprint.single_empty

/-- A step shows one place at most as changed. -/
theorem single_changed_step (machine : Machine) : machine.step.1.trace.changed.Single := by
  rcases step_cases machine with ⟨_, _, trace⟩ | ⟨instruction, _, stepped⟩
  · rw [trace]
    exact Footprint.single_empty
  · rw [stepped]
    exact single_changed_execute machine instruction

/-- An instruction that comes to an update shows its place as changed and leaves its value there. -/
theorem execute_of_update {action : Action} {update : Update}
    (success : (machine.reading instruction).result = .ok action)
    (writes : action.update = some update) :
    (machine.execute instruction).1.trace.changed = update.footprint ∧
      (machine.execute instruction).1.memory.Holds update.footprint update.value := by
  have ensures := machine.memory.ensures_action machine.program.length instruction.mnemonic
    (instruction.argument? 0)
  have within := (ensures.result action success).footprint
  have named : action.footprint = update.footprint := by simp only [Action.footprint, writes]
  have performed : machine.memory.perform action = machine.memory.update update := by
    simp only [Memory.perform, writes]
  rw [named] at within
  simp only [execute, success, commit, memory_follow, trace_follow, named, performed]
  exact ⟨trivial, Memory.holds_update within⟩

/-- If an instruction shows a place as changed, the place holds what the instruction assigns. -/
theorem assigns_of_execute
    (changed : (machine.execute instruction).1.trace.changed ≠ .empty) :
    ∃ value,
      machine.memory.Assigns instruction (machine.execute instruction).1.trace.changed value ∧
      (machine.execute instruction).1.memory.Holds
        (machine.execute instruction).1.trace.changed value := by
  cases outcome : (machine.reading instruction).result with
  | error fault =>
      simp only [execute, outcome, Machine.fail] at changed
      exact absurd rfl changed
  | ok action =>
      cases writes : action.update with
      | none =>
          simp only [execute, outcome, commit, trace_follow, Action.footprint, writes] at changed
          exact absurd rfl changed
      | some update =>
          obtain ⟨named, holds⟩ := execute_of_update outcome writes
          rw [named]
          exact ⟨update.value, assigns_of_reading outcome writes, holds⟩

/-- Whether a machine differs from the one before a step exactly as its trace says. -/
structure WritesAsTraced (before after : Machine) : Prop where
  /-- Places that are not shown as changed hold what they held. -/
  kept : before.memory.AgreesOff after.trace.changed after.memory
  /-- At most one place is shown as changed. -/
  single : after.trace.changed.Single
  /-- The program stays. -/
  program : after.program = before.program
  /-- A place that is shown as changed holds what the instruction that was next assigns to it. -/
  assigned : after.trace.changed ≠ .empty →
    ∃ instruction value, before.currentInstruction? = some instruction ∧
      before.memory.Assigns instruction after.trace.changed value ∧
      after.memory.Holds after.trace.changed value
  /-- What the instruction that was next assigns is shown as changed. -/
  shown : ∀ instruction footprint value, before.currentInstruction? = some instruction →
    before.memory.Assigns instruction footprint value →
      after.trace.changed = footprint ∧ after.memory.Holds footprint value

theorem writesAsTraced (machine : Machine) : machine.WritesAsTraced machine.step.1 := by
  rcases step_cases machine with ⟨idle, kept, trace⟩ | ⟨instruction, current, stepped⟩
  · have unchanged : machine.step.1.trace.changed = .empty := congrArg Trace.changed trace
    exact
      { kept := kept ▸ .refl machine.memory _
        single := single_changed_step machine
        program := program_step machine
        assigned := fun changed => absurd unchanged changed
        shown := fun _ _ _ current => by rw [idle] at current; cases current }
  · refine ⟨?_, single_changed_step machine, program_step machine, ?_, ?_⟩ <;> rw [stepped]
    · exact agreesOff_execute machine instruction
    · intro changed
      exact ⟨instruction, (assigns_of_execute changed).imp fun _ written => ⟨current, written⟩⟩
    · intro other footprint value alsoCurrent assigns
      rw [current] at alsoCurrent
      cases alsoCurrent
      obtain ⟨update, success, rfl, rfl⟩ := reading_of_assigns assigns
      exact execute_of_update success rfl

/-- A step writes what its trace shows as changed and nothing else, and the value there is the one
that the instruction defines.  The same step in place, which writes as it goes, has changed one
place at most when it is over, and only if that is shown as changed. -/
theorem writesAsTraced_step (machine : Machine) :
    machine.WritesAsTraced machine.step.1 ∧
      machine.inPlace.step = some (machine.step.1.inPlace, machine.step.2) ∧
      machine.inPlace.ChangesTo machine.step.1.inPlace := by
  have stepped := machine.step_inPlace
  exact ⟨machine.writesAsTraced, stepped, InPlace.changesTo_of_step stepped⟩

/-- Register 0 is the accumulator, and a sum that is too large wraps. -/
example :
    let machine : Machine :=
      { memory := ⟨0x7FFFFFFFFFFFFFFF, #[5], #[]⟩
        program := ⟨[⟨.add, [], [.register 0], rfl⟩, ⟨.store, [], [.register 0], rfl⟩]⟩ }
    machine.step.1.memory = ⟨-2, #[5], #[]⟩ ∧
      machine.step.1.step.1.memory = ⟨-2, #[5], #[]⟩ ∧
      machine.step.1.step.1.trace.changed = .ofAccumulator := by
  decide

end Machine

end Ram
