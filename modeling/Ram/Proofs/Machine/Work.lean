import Ram.Machine.InPlace

/-!
# What works leave behind

An instruction that works in place could break off with half of its work done.  None does.
Whatever it checks it checks before it writes, and after its one write it checks nothing.

*Works.*  A work that only reads changes nothing but what is shown as read (`Work.Reads`).  A work
that writes once changes at most one place, shows it as changed, and has changed nothing yet where
it ends in a fault (`Work.WritesOnce`).  Reading first spoils neither (`Work.Reads.bind` and
`Work.Reads.bind_writesOnce`).  So each instruction is gone through path by path, and the last thing
on a path is the write (`Work.writesOnce_execute`).

*Steps.*  `InPlace.StepsTo` says what a step can be.  `InPlace.changesTo_of_step` says what a step
changes, and `InPlace.exists_fail_of_faulted` that one that ends in a fault has only read.
-/

namespace Ram

/-! ## Running works -/

namespace Work

variable {α β : Type}

@[simp] theorem on_pure (value : α) (machine : InPlace) :
    (pure value : Work α).on machine = (.ok value, machine) := rfl

@[simp] theorem on_get_bind (next : InPlace → Work β) (machine : InPlace) :
    (get >>= next).on machine = (next machine).on machine := rfl

/-- What follows goes on with the machine as it has been left. -/
theorem on_bind_of_ok {work : Work α} {next : α → Work β} {machine after : InPlace} {value : α}
    (ran : work.on machine = (.ok value, after)) :
    (work >>= next).on machine = (next value).on after := by
  show Id.run ((ExceptT.bindCont next (work.run.run machine).1).run (work.run.run machine).2) = _
  have same : work.run.run machine = (.ok value, after) := ran
  rw [same]
  rfl

/-- Nothing follows where a work has broken off. -/
theorem on_bind_of_error {work : Work α} {next : α → Work β} {machine after : InPlace}
    {stop : Stop} (ran : work.on machine = (.error stop, after)) :
    (work >>= next).on machine = (.error stop, after) := by
  show Id.run ((ExceptT.bindCont next (work.run.run machine).1).run (work.run.run machine).2) = _
  have same : work.run.run machine = (.error stop, after) := ran
  rw [same]
  rfl

end Work

/-! ## Places -/

/-- Whether a footprint names at most one place. -/
structure Footprint.Single (footprint : Footprint) : Prop where
  /-- The accumulator goes with no register. -/
  register : footprint.accumulator = true → footprint.register = none
  /-- The accumulator goes with no cell. -/
  cell : footprint.accumulator = true → footprint.cell = none
  /-- A register goes with no cell. -/
  apart : footprint.register = none ∨ footprint.cell = none

namespace Footprint

theorem single_empty : empty.Single := ⟨nofun, nofun, .inl rfl⟩

theorem single_ofAccumulator : ofAccumulator.Single := ⟨fun _ => rfl, fun _ => rfl, .inl rfl⟩

/-- A register is one place, even if it is the accumulator. -/
theorem single_ofRegister (number : RegisterNumber) : (ofRegister number).Single := by
  unfold ofRegister
  split
  next => exact single_ofAccumulator
  next => exact ⟨nofun, nofun, .inr rfl⟩

theorem single_ofCell (address : Nat) : (ofCell address).Single := ⟨nofun, nofun, .inl rfl⟩

@[simp] theorem merge_empty (footprint : Footprint) : footprint.merge .empty = footprint := by
  simp [merge, empty]

@[simp] theorem empty_merge (footprint : Footprint) : empty.merge footprint = footprint := by
  simp [merge, empty]

theorem merge_assoc (first second third : Footprint) :
    (first.merge second).merge third = first.merge (second.merge third) := by
  simp [merge, Bool.or_assoc, Option.or_assoc]

end Footprint

/-! ## What is left behind -/

namespace InPlace

/-- Whether a machine differs from the one before in what it shows as read, and in nothing else. -/
def ReadsTo (before after : InPlace) : Prop :=
  ∃ read, after = { before with trace := { before.trace with read } }

/-- Whether the memory differs from the one before only where the machine shows it as changed, and
that in one place at most.  The program and the sizes have not changed. -/
structure ChangesTo (before after : InPlace) : Prop where
  /-- The program stays. -/
  program : after.program = before.program
  /-- The bank keeps its size. -/
  bank : after.registers.size = before.registers.size
  /-- The tape keeps its size. -/
  tape : after.tape.size = before.tape.size
  /-- At most one place is shown as changed. -/
  single : after.trace.changed.Single
  /-- The accumulator holds what it held. -/
  accumulator : after.trace.changed.accumulator = false →
    after.registers[0]? = before.registers[0]?
  /-- Any other register holds what it held. -/
  register : ∀ index, index ≠ 0 → after.trace.changed.register.map UInt64.toNat ≠ some index →
    after.registers[index]? = before.registers[index]?
  /-- A cell holds what it held. -/
  cell : ∀ address, after.trace.changed.cell ≠ some address →
    after.tape[address]? = before.tape[address]?

variable {machine before middle after : InPlace}

theorem ReadsTo.refl (machine : InPlace) : machine.ReadsTo machine := ⟨machine.trace.read, rfl⟩

theorem ReadsTo.trans (first : before.ReadsTo middle) (second : middle.ReadsTo after) :
    before.ReadsTo after := by
  obtain ⟨_, rfl⟩ := first
  obtain ⟨read, rfl⟩ := second
  exact ⟨read, rfl⟩

/-- Reading changes nothing, unless something is shown as changed already. -/
theorem ReadsTo.changesTo (reads : before.ReadsTo after) (clear : before.trace.changed = .empty) :
    before.ChangesTo after := by
  obtain ⟨read, rfl⟩ := reads
  refine ⟨rfl, rfl, rfl, ?_, fun _ => rfl, fun _ _ _ => rfl, fun _ _ => rfl⟩
  show before.trace.changed.Single
  rw [clear]
  exact Footprint.single_empty

/-- Reading before a write does not matter. -/
theorem ReadsTo.trans_changesTo (reads : before.ReadsTo middle) (changes : middle.ChangesTo after) :
    before.ChangesTo after := by
  obtain ⟨_, rfl⟩ := reads
  exact { changes with }

end InPlace

/-! ## Works that read, and works that write once -/

namespace Work

variable {α β : Type}

/-- Whether a work changes nothing but what is shown as read, however it ends. -/
def Reads (work : Work α) : Prop := ∀ machine : InPlace, machine.ReadsTo (work.on machine).2

/-- Whether a work writes one place at most, and none where it ends in a fault. -/
structure WritesOnce (work : Work α) : Prop where
  /-- One place at most has changed, and that is shown. -/
  changes : ∀ machine : InPlace, machine.trace.changed = .empty →
    machine.ChangesTo (work.on machine).2
  /-- Where the work ends in a fault it has only read. -/
  fault : ∀ (machine : InPlace) (fault : Fault), (work.on machine).1 = .error (.fault fault) →
    machine.ReadsTo (work.on machine).2

theorem reads_pure (value : α) : (pure value : Work α).Reads := InPlace.ReadsTo.refl

theorem reads_throw (stop : Stop) : (throw stop : Work α).Reads := InPlace.ReadsTo.refl

theorem reads_get : (get : Work InPlace).Reads := InPlace.ReadsTo.refl

theorem reads_markRead (footprint : Footprint) : (InPlace.markRead footprint).Reads :=
  fun _ => ⟨_, rfl⟩

/-- A work that reads breaks off or comes to a value, and has only read by then. -/
theorem Reads.on_cases {work : Work α} (reads : work.Reads) (machine : InPlace) :
    (∃ stop after, work.on machine = (.error stop, after) ∧ machine.ReadsTo after) ∨
      ∃ value after, work.on machine = (.ok value, after) ∧ machine.ReadsTo after := by
  have left := reads machine
  rcases ran : work.on machine with ⟨stop | value, after⟩
  · rw [ran] at left
    exact .inl ⟨stop, after, rfl, left⟩
  · rw [ran] at left
    exact .inr ⟨value, after, rfl, left⟩

theorem Reads.bind {work : Work α} {next : α → Work β} (first : work.Reads)
    (rest : ∀ value, (next value).Reads) : (work >>= next).Reads := by
  intro machine
  obtain ⟨stop, after, ran, reads⟩ | ⟨value, after, ran, reads⟩ := first.on_cases machine
  · rw [on_bind_of_error ran]
    exact reads
  · rw [on_bind_of_ok ran]
    exact reads.trans (rest value after)

/-- A work that reads writes one place at most. -/
theorem Reads.writesOnce {work : Work α} (reads : work.Reads) : work.WritesOnce :=
  ⟨fun machine clear => (reads machine).changesTo clear, fun machine _ _ => reads machine⟩

/-- What a work writes may depend on what has been read before. -/
theorem Reads.bind_writesOnce {work : Work α} {next : α → Work β} (first : work.Reads)
    (rest : ∀ value, (next value).WritesOnce) : (work >>= next).WritesOnce := by
  constructor
  · intro machine clear
    obtain ⟨stop, after, ran, reads⟩ | ⟨value, after, ran, reads⟩ := first.on_cases machine
    · rw [on_bind_of_error ran]
      exact reads.changesTo clear
    · rw [on_bind_of_ok ran]
      have unchanged : after.trace.changed = .empty := by
        obtain ⟨read, rfl⟩ := reads
        exact clear
      exact reads.trans_changesTo ((rest value).changes after unchanged)
  · intro machine fault failed
    obtain ⟨stop, after, ran, reads⟩ | ⟨value, after, ran, reads⟩ := first.on_cases machine
    · rw [on_bind_of_error ran]
      exact reads
    · rw [on_bind_of_ok ran] at failed ⊢
      exact reads.trans ((rest value).fault after fault failed)

/-- Nothing can go wrong after the write. -/
theorem WritesOnce.bind_pure {work : Work α} (writes : work.WritesOnce) (value : β) :
    (work >>= fun _ => pure value).WritesOnce := by
  constructor
  · intro machine clear
    have changes := writes.changes machine clear
    rcases ran : work.on machine with ⟨stop | result, after⟩
    · rw [ran] at changes
      rw [on_bind_of_error ran]
      exact changes
    · rw [ran] at changes
      rw [on_bind_of_ok ran]
      exact changes
  · intro machine fault failed
    have reads := writes.fault machine fault
    rcases ran : work.on machine with ⟨stop | result, after⟩
    · rw [on_bind_of_error ran] at failed ⊢
      rw [ran] at reads
      cases failed
      exact reads rfl
    · rw [on_bind_of_ok ran] at failed
      cases failed

end Work

namespace InPlace

variable (argument : Option Argument)

/-! ### Reading -/

theorem reads_readAccumulator : readAccumulator.Reads := by
  unfold readAccumulator
  apply (Work.reads_markRead _).bind
  intro _
  apply Work.reads_get.bind
  intro machine
  split
  next value _ => exact Work.reads_pure value
  next => exact Work.reads_throw .crash

theorem reads_readRegister (number : RegisterNumber) : (readRegister number).Reads := by
  unfold readRegister
  apply Work.reads_get.bind
  intro machine
  split
  next value _ => exact (Work.reads_markRead _).bind fun _ => Work.reads_pure value
  next => exact Work.reads_throw _

theorem reads_readCell (address : Nat) : (readCell address).Reads := by
  unfold readCell
  apply Work.reads_get.bind
  intro machine
  split
  next value _ => exact (Work.reads_markRead _).bind fun _ => Work.reads_pure value
  next => exact Work.reads_throw _

theorem reads_operand : (operand argument).Reads := by
  unfold operand
  split
  next number => exact reads_readRegister number
  next =>
    split
    next value _ => exact Work.reads_pure value
    next => exact Work.reads_throw _
  next => exact Work.reads_throw _

theorem reads_address : (address argument).Reads := by
  unfold address
  apply (reads_operand argument).bind
  intro value
  split
  next => exact Work.reads_throw _
  next => exact Work.reads_pure _

theorem reads_register : (register argument).Reads := by
  unfold register
  split
  next number => exact Work.reads_pure number
  next => exact Work.reads_throw _

theorem reads_jump : (jump argument).Reads := by
  unfold jump
  split
  next => exact Work.reads_throw _
  next target _ =>
    apply Work.reads_get.bind
    intro machine
    split
    next => exact Work.reads_throw _
    next => exact Work.reads_pure _

/-! ### Writing -/

theorem on_writeAccumulator {machine : InPlace} (bank : 0 < machine.registers.size)
    (value : Value) :
    (writeAccumulator value).on machine =
      (.ok (),
        { machine with
          registers := machine.registers.setIfInBounds 0 value
          trace :=
            { machine.trace with changed := machine.trace.changed.merge .ofAccumulator } }) := by
  show (if machine.registers.size = 0 then throw .crash else modify _ : Work Unit).on _ = _
  rw [if_neg (Nat.ne_of_gt bank)]
  rfl

/-- The mark is set before the crash. -/
theorem on_writeAccumulator_of_bare {machine : InPlace} (bare : machine.registers.size = 0)
    (value : Value) :
    (writeAccumulator value).on machine =
      (.error .crash,
        { machine with
          trace :=
            { machine.trace with changed := machine.trace.changed.merge .ofAccumulator } }) := by
  show (if machine.registers.size = 0 then throw .crash else modify _ : Work Unit).on _ = _
  rw [if_pos bare]
  rfl

theorem on_writeRegister {machine : InPlace} {number : RegisterNumber}
    (present : number.toNat < machine.registers.size) (value : Value) :
    (writeRegister number value).on machine =
      (.ok (),
        { machine with
          registers := machine.registers.setIfInBounds number.toNat value
          trace :=
            { machine.trace with
              changed := machine.trace.changed.merge (.ofRegister number) } }) := by
  rw [writeRegister, Work.on_get_bind, if_neg (Nat.not_le.mpr present)]
  rfl

/-- Writing a register that is not there is a fault, and leaves no mark. -/
theorem on_writeRegister_of_le {machine : InPlace} {number : RegisterNumber}
    (missing : machine.registers.size ≤ number.toNat) (value : Value) :
    (writeRegister number value).on machine =
      (.error (.fault (.registerOutOfBounds number)), machine) := by
  rw [writeRegister, Work.on_get_bind, if_pos missing]
  rfl

theorem on_writeCell {machine : InPlace} {address : Nat} (present : address < machine.tape.size)
    (value : Value) :
    (writeCell address value).on machine =
      (.ok (),
        { machine with
          tape := machine.tape.setIfInBounds address value
          trace :=
            { machine.trace with changed := machine.trace.changed.merge (.ofCell address) } }) := by
  rw [writeCell, Work.on_get_bind, if_neg (Nat.not_le.mpr present)]
  rfl

/-- Writing a cell that is not there is a fault, and leaves no mark. -/
theorem on_writeCell_of_le {machine : InPlace} {address : Nat}
    (missing : machine.tape.size ≤ address) (value : Value) :
    (writeCell address value).on machine =
      (.error (.fault (.tapeWriteOutOfBounds address)), machine) := by
  rw [writeCell, Work.on_get_bind, if_pos missing]
  rfl

/-- A crash is no fault, so that it does not matter here that the mark is set by then. -/
theorem writesOnce_writeAccumulator (value : Value) : (writeAccumulator value).WritesOnce := by
  constructor
  · intro machine clear
    rcases Nat.eq_zero_or_pos machine.registers.size with bare | bank
    · rw [on_writeAccumulator_of_bare bare, clear, Footprint.empty_merge]
      exact ⟨rfl, rfl, rfl, Footprint.single_ofAccumulator, nofun, fun _ _ _ => rfl,
        fun _ _ => rfl⟩
    · rw [on_writeAccumulator bank, clear, Footprint.empty_merge]
      refine ⟨rfl, Array.size_setIfInBounds, rfl, Footprint.single_ofAccumulator, nofun,
        fun index other _ => ?_, fun _ _ => rfl⟩
      exact Array.getElem?_setIfInBounds_ne (Ne.symm other)
  · intro machine fault failed
    rcases Nat.eq_zero_or_pos machine.registers.size with bare | bank
    · rw [on_writeAccumulator_of_bare bare] at failed
      cases failed
    · rw [on_writeAccumulator bank] at failed
      cases failed

theorem writesOnce_writeRegister (number : RegisterNumber) (value : Value) :
    (writeRegister number value).WritesOnce := by
  constructor
  · intro machine clear
    rcases Nat.lt_or_ge number.toNat machine.registers.size with present | missing
    · rw [on_writeRegister present, clear, Footprint.empty_merge]
      refine ⟨rfl, Array.size_setIfInBounds, rfl, Footprint.single_ofRegister number,
        fun unnamed => ?_, fun index other unnamed => ?_, fun _ _ => rfl⟩
      · refine Array.getElem?_setIfInBounds_ne fun zero => ?_
        have accumulator : number = 0 := UInt64.toNat.inj zero
        rw [accumulator] at unnamed
        cases unnamed
      · refine Array.getElem?_setIfInBounds_ne fun same => ?_
        have general : number ≠ 0 := by
          rintro rfl
          exact other same.symm
        simp [Footprint.ofRegister, general, same] at unnamed
    · rw [on_writeRegister_of_le missing]
      exact (ReadsTo.refl machine).changesTo clear
  · intro machine fault failed
    rcases Nat.lt_or_ge number.toNat machine.registers.size with present | missing
    · rw [on_writeRegister present] at failed
      cases failed
    · rw [on_writeRegister_of_le missing]
      exact ReadsTo.refl machine

theorem writesOnce_writeCell (address : Nat) (value : Value) :
    (writeCell address value).WritesOnce := by
  constructor
  · intro machine clear
    rcases Nat.lt_or_ge address machine.tape.size with present | missing
    · rw [on_writeCell present, clear, Footprint.empty_merge]
      refine ⟨rfl, rfl, Array.size_setIfInBounds, Footprint.single_ofCell address,
        fun _ => rfl, fun _ _ _ => rfl, fun other unnamed => ?_⟩
      refine Array.getElem?_setIfInBounds_ne fun same => ?_
      exact unnamed (congrArg some same)
    · rw [on_writeCell_of_le missing]
      exact (ReadsTo.refl machine).changesTo clear
  · intro machine fault failed
    rcases Nat.lt_or_ge address machine.tape.size with present | missing
    · rw [on_writeCell present] at failed
      cases failed
    · rw [on_writeCell_of_le missing]
      exact ReadsTo.refl machine

/-- An instruction checks first and writes last. -/
theorem writesOnce_execute (mnemonic : Mnemonic) (argument : Option Argument) :
    (execute mnemonic argument).WritesOnce := by
  unfold execute
  cases mnemonic with
  | nop | halt => exact (Work.reads_pure _).writesOnce
  | add | sub =>
      apply (reads_operand argument).bind_writesOnce
      intro operand
      apply reads_readAccumulator.bind_writesOnce
      intro accumulator
      exact (writesOnce_writeAccumulator _).bind_pure _
  | half =>
      apply reads_readAccumulator.bind_writesOnce
      intro accumulator
      exact (writesOnce_writeAccumulator _).bind_pure _
  | load =>
      apply (reads_register argument).bind_writesOnce
      intro number
      apply (reads_readRegister number).bind_writesOnce
      intro value
      exact (writesOnce_writeAccumulator value).bind_pure _
  | store =>
      apply reads_readAccumulator.bind_writesOnce
      intro accumulator
      apply (reads_register argument).bind_writesOnce
      intro number
      exact (writesOnce_writeRegister number accumulator).bind_pure _
  | read =>
      apply (reads_address argument).bind_writesOnce
      intro address
      apply (reads_readCell address).bind_writesOnce
      intro value
      exact (writesOnce_writeAccumulator value).bind_pure _
  | write =>
      apply (reads_address argument).bind_writesOnce
      intro address
      apply reads_readAccumulator.bind_writesOnce
      intro accumulator
      exact (writesOnce_writeCell address accumulator).bind_pure _
  | jzero | jpos =>
      apply reads_readAccumulator.bind_writesOnce
      intro accumulator
      split
      next => exact (reads_jump argument).writesOnce
      next => exact (Work.reads_pure _).writesOnce
  | jump => exact (reads_jump argument).writesOnce

/-! ## Steps -/

/-- What a step can be. -/
inductive StepsTo (machine : InPlace) : InPlace → Outcome → Prop where
  /-- A halted machine does nothing but clear its trace. -/
  | idle (halted : machine.halted = true) : StepsTo machine machine.clear .idle
  /-- There is no instruction at the program counter. -/
  | outside (running : machine.halted = false)
      (outside : machine.program.get? machine.programCounter = none) :
      StepsTo machine machine.clear.halt .halted
  /-- The instruction is carried out, and control moves. -/
  | done {instruction : Instruction} {flow : Flow} {after : InPlace}
      (running : machine.halted = false)
      (fetched : machine.program.get? machine.programCounter = some instruction)
      (ran : (execute instruction.mnemonic (instruction.argument? 0)).on machine.clear =
        (.ok flow, after)) :
      StepsTo machine (after.follow flow).1 (after.follow flow).2
  /-- The instruction ends in a fault, and the machine halts as it is then. -/
  | faulted {instruction : Instruction} {fault : Fault} {after : InPlace}
      (running : machine.halted = false)
      (fetched : machine.program.get? machine.programCounter = some instruction)
      (ran : (execute instruction.mnemonic (instruction.argument? 0)).on machine.clear =
        (.error (.fault fault), after)) :
      StepsTo machine (after.fail ⟨instruction.mnemonic, machine.programCounter, fault⟩).1
        (.faulted ⟨instruction.mnemonic, machine.programCounter, fault⟩)

variable {machine before after : InPlace} {outcome : Outcome}

/-- A step is one of the four, if it does not crash. -/
theorem stepsTo_of_step (stepped : machine.step = some (after, outcome)) :
    machine.StepsTo after outcome := by
  unfold step at stepped
  dsimp only at stepped
  split at stepped
  next halted =>
    cases stepped
    exact .idle halted
  next running =>
    have running : machine.halted = false := eq_false_of_ne_true running
    split at stepped
    next outside =>
      cases stepped
      exact .outside running outside
    next instruction fetched =>
      split at stepped
      next flow middle ran =>
        have moved : middle.follow flow = (after, outcome) := Option.some.inj stepped
        have done := StepsTo.done running fetched ran
        rw [moved] at done
        exact done
      next fault after ran =>
        cases stepped
        exact .faulted running fetched ran
      next => cases stepped

theorem step_of_halted (halted : machine.halted = true) :
    machine.step = some (machine.clear, .idle) := if_pos halted

theorem step_of_outside (running : machine.halted = false)
    (outside : machine.program.get? machine.programCounter = none) :
    machine.step = some (machine.clear.halt, .halted) := by
  have running : ¬ machine.clear.halted = true := ne_true_of_eq_false running
  have outside : machine.clear.program.get? machine.clear.programCounter = none := outside
  simp only [step, if_neg running, outside]

theorem step_of_done {instruction : Instruction} {flow : Flow} (running : machine.halted = false)
    (fetched : machine.program.get? machine.programCounter = some instruction)
    (ran : (execute instruction.mnemonic (instruction.argument? 0)).on machine.clear =
      (.ok flow, after)) :
    machine.step = some (after.follow flow) := by
  have running : ¬ machine.clear.halted = true := ne_true_of_eq_false running
  have fetched : machine.clear.program.get? machine.clear.programCounter = some instruction :=
    fetched
  simp only [step, if_neg running, fetched, ran]

theorem step_of_fault {instruction : Instruction} {fault : Fault} (running : machine.halted = false)
    (fetched : machine.program.get? machine.programCounter = some instruction)
    (ran : (execute instruction.mnemonic (instruction.argument? 0)).on machine.clear =
      (.error (.fault fault), after)) :
    machine.step =
      some (after.fail ⟨instruction.mnemonic, machine.programCounter, fault⟩) := by
  have running : ¬ machine.clear.halted = true := ne_true_of_eq_false running
  have fetched : machine.clear.program.get? machine.clear.programCounter = some instruction :=
    fetched
  simp only [step, if_neg running, fetched, ran]
  rfl

/-- Moving control is no fault. -/
theorem follow_ne_faulted (machine : InPlace) (flow : Flow) (error : ExecutionError) :
    (machine.follow flow).2 ≠ .faulted error := by
  have proceeds (position : Nat) : (machine.proceed position).2 ≠ .faulted error := by
    unfold proceed
    split <;> nofun
  cases flow with
  | next => exact proceeds _
  | jump target => exact proceeds target
  | halt => nofun

theorem ChangesTo.follow (changes : before.ChangesTo machine) (flow : Flow) :
    before.ChangesTo (machine.follow flow).1 := by
  have proceeds (position : Nat) : before.ChangesTo (machine.proceed position).1 := by
    unfold proceed
    split <;> exact { changes with }
  cases flow with
  | next => exact proceeds _
  | jump target => exact proceeds target
  | halt => exact { changes with }

theorem changesTo_clear (machine : InPlace) : machine.ChangesTo machine.clear :=
  ⟨rfl, rfl, rfl, Footprint.single_empty, fun _ => rfl, fun _ _ _ => rfl, fun _ _ => rfl⟩

/-- Whatever comes of a step, it has changed one place at most, and that is shown as changed. -/
theorem changesTo_of_step (stepped : machine.step = some (after, outcome)) :
    machine.ChangesTo after := by
  cases stepsTo_of_step stepped with
  | idle => exact changesTo_clear machine
  | outside => exact { changesTo_clear machine with }
  | @done instruction flow after _ _ ran =>
      have changes := (writesOnce_execute instruction.mnemonic (instruction.argument? 0)).changes
        machine.clear rfl
      rw [ran] at changes
      exact { changes.follow flow with }
  | @faulted instruction fault after _ _ ran =>
      have changes := (writesOnce_execute instruction.mnemonic (instruction.argument? 0)).changes
        machine.clear rfl
      rw [ran] at changes
      exact { changes with }

/-- A step that ends in a fault has read something and done nothing else. -/
theorem exists_fail_of_faulted {error : ExecutionError}
    (stepped : machine.step = some (after, .faulted error)) :
    ∃ instruction read, machine.halted = false ∧
      machine.program.get? machine.programCounter = some instruction ∧
      error.mnemonic = instruction.mnemonic ∧ error.programCounter = machine.programCounter ∧
      after = (fail { machine with trace := { read } } error).1 := by
  generalize failed : Outcome.faulted error = outcome at stepped
  cases stepsTo_of_step stepped with
  | idle | outside => cases failed
  | @done _ flow middle => exact absurd failed.symm (follow_ne_faulted middle flow error)
  | @faulted instruction fault _ running fetched ran =>
      cases failed
      have reads := (writesOnce_execute instruction.mnemonic (instruction.argument? 0)).fault
        machine.clear fault
      rw [ran] at reads
      obtain ⟨read, rfl⟩ := reads rfl
      exact ⟨instruction, read, running, fetched, rfl, rfl, rfl⟩

/-! ## Commands -/

/-- A session goes on with the machine as the first command leaves it. -/
theorem applyAll_cons_eq_some_iff {command : Command} {rest : List Command}
    {final : InPlace} {replies : List Reply} :
    machine.applyAll (command :: rest) = some (final, replies) ↔
      ∃ after reply others, machine.apply command = some (after, reply) ∧
        after.applyAll rest = some (final, others) ∧ replies = reply :: others := by
  constructor
  · intro applied
    unfold applyAll at applied
    obtain ⟨⟨after, reply⟩, first, applied⟩ := Option.bind_eq_some_iff.mp applied
    obtain ⟨⟨last, others⟩, later, same⟩ := Option.bind_eq_some_iff.mp applied
    cases same
    exact ⟨after, reply, others, first, later, rfl⟩
  · rintro ⟨after, reply, others, first, later, rfl⟩
    unfold applyAll
    exact Option.bind_eq_some_iff.mpr ⟨(after, reply), first,
      Option.bind_eq_some_iff.mpr ⟨(final, others), later, rfl⟩⟩

/-- Whether a machine is as large as the one before. -/
structure SameSizes (before after : InPlace) : Prop where
  /-- The bank has its size. -/
  bank : after.registers.size = before.registers.size
  /-- The tape has its size. -/
  tape : after.tape.size = before.tape.size

theorem SameSizes.refl (machine : InPlace) : machine.SameSizes machine := ⟨rfl, rfl⟩

theorem SameSizes.trans {middle : InPlace} (first : before.SameSizes middle)
    (second : middle.SameSizes after) : before.SameSizes after :=
  ⟨second.bank.trans first.bank, second.tape.trans first.tape⟩

theorem ChangesTo.sameSizes (changes : before.ChangesTo after) : before.SameSizes after :=
  ⟨changes.bank, changes.tape⟩

theorem sameSizes_of_runFrom {made budget steps : Nat}
    (ran : machine.runFrom made budget = some (after, steps)) : machine.SameSizes after := by
  induction budget generalizing machine made with
  | zero =>
      cases ran
      exact .refl _
  | succ budget hypothesis =>
      unfold runFrom at ran
      split at ran
      next =>
        cases ran
        exact .refl _
      next =>
        obtain ⟨⟨next, outcome⟩, stepped, later⟩ := Option.bind_eq_some_iff.mp ran
        exact (changesTo_of_step stepped).sameSizes.trans (hypothesis later)

/-- No command changes how large a machine is. -/
theorem sameSizes_of_apply {command : Command} {reply : Reply}
    (applied : machine.apply command = some (after, reply)) : machine.SameSizes after := by
  cases command with
  | step =>
      obtain ⟨⟨next, outcome⟩, stepped, same⟩ := Option.map_eq_some_iff.mp applied
      cases same
      exact (changesTo_of_step stepped).sameSizes
  | run budget =>
      obtain ⟨⟨next, steps⟩, ran, same⟩ := Option.map_eq_some_iff.mp applied
      cases same
      exact sameSizes_of_runFrom ran
  | reset =>
      cases applied
      exact ⟨Array.size_map, rfl⟩
  | setProgram program =>
      cases applied
      exact ⟨rfl, rfl⟩
  | setAccumulator value =>
      simp only [apply, setAccumulator] at applied
      split at applied <;> cases applied
      exact ⟨Array.size_setIfInBounds, rfl⟩
  | setRegister number value =>
      simp only [apply, setRegister] at applied
      split at applied <;> cases applied
      next => exact .refl _
      next => exact ⟨Array.size_setIfInBounds, rfl⟩
  | setTape address value =>
      simp only [apply, setTape] at applied
      split at applied <;> cases applied
      next => exact .refl _
      next => exact ⟨rfl, Array.size_setIfInBounds⟩

/-- No session changes how large a machine is. -/
theorem sameSizes_of_applyAll {commands : List Command} {replies : List Reply}
    (applied : machine.applyAll commands = some (after, replies)) : machine.SameSizes after := by
  induction commands generalizing machine replies with
  | nil =>
      cases applied
      exact .refl _
  | cons command rest hypothesis =>
      obtain ⟨next, reply, others, first, later, rfl⟩ := applyAll_cons_eq_some_iff.mp applied
      exact (sameSizes_of_apply first).trans (hypothesis later)

end InPlace

end Ram
