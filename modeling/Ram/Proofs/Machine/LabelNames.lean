import Ram.Machine.Command
import Ram.Proofs.Image.RoundTrip

/-!
# The names of labels do not matter

Two programs are *alike* when they have the same mnemonics and the same arguments except for
the names of labels.  The labels that are attached to the instructions may differ as well.  Two
machines are alike when their programs are, and everything else about them is equal.

No instruction reads the name of a label (`Memory.action_canonical`), so alike machines stay
alike in a step, with the same outcome (`Machine.Alike.step`).  By induction they stay alike in
a run and through every list of commands, with the same replies (`Machine.Alike.applyAll`).

The program that comes back from an image is alike the program that was encoded, so a machine
does the same with either.
-/

namespace Ram

/-! ## What an instruction reads of its argument -/

section Arguments

variable (memory : Memory) (argument : Option Argument)

theorem Memory.operand_canonical :
    memory.operand (argument.map Argument.canonical) = memory.operand argument := by
  rcases argument with _ | (_ | _ | _) <;> rfl

theorem Memory.address_canonical :
    memory.address (argument.map Argument.canonical) = memory.address argument := by
  rw [address, address, operand_canonical]

theorem registerArgument_canonical :
    registerArgument (argument.map Argument.canonical) = registerArgument argument := by
  rcases argument with _ | (_ | _ | _) <;> rfl

/-- The target of a jump does not depend on the name of its label. -/
theorem jumpTo_canonical (length : Nat) :
    jumpTo length (argument.map Argument.canonical) = jumpTo length argument := by
  rcases argument with _ | (_ | _ | _) <;> rfl

/-- An instruction does the same whatever the name of its label is. -/
theorem Memory.action_canonical (length : Nat) (mnemonic : Mnemonic) :
    memory.action length mnemonic (argument.map Argument.canonical) =
      memory.action length mnemonic argument := by
  cases mnemonic <;>
    simp only [action, operand_canonical, address_canonical, registerArgument_canonical,
      jumpTo_canonical]

end Arguments

/-! ## Programs -/

/-- Two programs that differ in nothing but the names of labels and where these are attached. -/
def Program.Alike (first second : Program) : Prop :=
  first.instructions.map Image.entry = second.instructions.map Image.entry

namespace Program.Alike

variable {first second : Program}

theorem refl (program : Program) : program.Alike program := rfl

theorem length (alike : first.Alike second) : first.length = second.length := by
  have := congrArg List.length alike
  simpa [Program.length] using this

/-- Alike programs have the same at every position, except for labels. -/
theorem get? (alike : first.Alike second) (position : Nat) :
    (first.get? position).map Image.entry = (second.get? position).map Image.entry := by
  cases position with
  | zero => rfl
  | succ index =>
      rw [Program.get?_succ, Program.get?_succ, ← List.getElem?_map, ← List.getElem?_map]
      exact congrArg (·[index]?) alike

end Program.Alike

theorem Argument.canonical_canonical (argument : Argument) :
    argument.canonical.canonical = argument.canonical := by
  cases argument <;> rfl

theorem Image.entry_canonical (instruction : Instruction) (labels : List String) :
    entry (instruction.canonical labels) = entry instruction := by
  simp only [entry, Instruction.canonical, Instruction.argument?, List.getElem?_map,
    Option.map_map, Function.comp_def, Argument.canonical_canonical]

/-- A program and its canonical form are alike. -/
theorem Program.alike_canonical (program : Program) : program.Alike program.canonical := by
  apply List.ext_getElem?
  intro index
  simp only [canonical, List.getElem?_map, List.getElem?_mapIdx, Option.map_map,
    Function.comp_def, Image.entry_canonical]

/-! ## Machines -/

namespace Machine

/-- Two machines that differ in nothing but the names of the labels in their programs and where
these are attached.  The memory is the accumulator, the registers and the tape. -/
structure Alike (first second : Machine) : Prop where
  program : first.program.Alike second.program
  memory : first.memory = second.memory
  programCounter : first.programCounter = second.programCounter
  halted : first.halted = second.halted
  trace : first.trace = second.trace
  lastError : first.lastError = second.lastError

/-- Alike machines, each with a result, and the results are equal. -/
structure AlikeWith {α : Type} (first second : Machine × α) : Prop where
  machine : first.1.Alike second.1
  result : first.2 = second.2

/-- A machine is alike with alike programs. -/
theorem alike_setProgram (machine : Machine) {first second : Program}
    (programs : first.Alike second) :
    (machine.setProgram first).Alike (machine.setProgram second) :=
  ⟨programs, rfl, rfl, rfl, rfl, rfl⟩

/-- What a machine reads for an instruction is settled by the fields that an image keeps. -/
theorem reading_eq_entry (machine : Machine) (instruction : Instruction) :
    machine.reading instruction =
      machine.memory.action machine.program.length (Image.entry instruction).mnemonic
        (Image.entry instruction).argument :=
  (machine.memory.action_canonical _ _ _).symm

namespace Alike

variable {first second : Machine}

/-! ### One step -/

theorem halt (alike : first.Alike second) : first.halt.Alike second.halt :=
  ⟨alike.program, alike.memory, rfl, rfl, alike.trace, alike.lastError⟩

theorem proceed (alike : first.Alike second) (position : Nat) :
    AlikeWith (first.proceed position) (second.proceed position) := by
  unfold Machine.proceed
  rw [alike.program.length]
  split
  next => exact ⟨alike.halt, rfl⟩
  next =>
    exact ⟨⟨alike.program, alike.memory, rfl, alike.halted, alike.trace, alike.lastError⟩, rfl⟩

theorem follow (alike : first.Alike second) (flow : Flow) :
    AlikeWith (first.follow flow) (second.follow flow) := by
  cases flow with
  | next =>
      simp only [Machine.follow, alike.programCounter]
      exact alike.proceed _
  | jump target => exact alike.proceed target
  | halt => exact ⟨alike.halt, rfl⟩

theorem commit (alike : first.Alike second) (read : Footprint) (action : Action) :
    AlikeWith (first.commit read action) (second.commit read action) := by
  apply follow
  exact ⟨alike.program, by simp only [alike.memory], alike.programCounter, alike.halted, rfl,
    alike.lastError⟩

theorem fail (alike : first.Alike second) (read : Footprint) (error : ExecutionError) :
    AlikeWith (first.fail read error) (second.fail read error) :=
  ⟨⟨alike.program, alike.memory, rfl, rfl, rfl, rfl⟩, rfl⟩

/-- Alike machines do the same with instructions that differ in names only. -/
theorem execute (alike : first.Alike second) {one other : Instruction}
    (same : Image.entry one = Image.entry other) :
    AlikeWith (first.execute one) (second.execute other) := by
  have reads : first.reading one = second.reading other := by
    rw [reading_eq_entry, reading_eq_entry, same, alike.memory, alike.program.length]
  -- A fault reports the mnemonic and the position, so these have to be the same as well.
  have mnemonic : one.mnemonic = other.mnemonic := congrArg Image.Entry.mnemonic same
  simp only [Machine.execute, reads, mnemonic, alike.programCounter]
  split
  next action success => exact alike.commit _ action
  next fault failure => exact alike.fail _ _

/-- Alike machines make alike steps with the same outcome. -/
theorem step (alike : first.Alike second) : AlikeWith first.step second.step := by
  have idle : ({ first with trace := {} } : Machine).Alike { second with trace := {} } :=
    ⟨alike.program, alike.memory, alike.programCounter, alike.halted, rfl, alike.lastError⟩
  cases halted : first.halted with
  | true =>
      rw [step_of_halted halted, step_of_halted (alike.halted.symm.trans halted)]
      exact ⟨idle, rfl⟩
  | false =>
      have running := alike.halted.symm.trans halted
      have fetched := alike.program.get? first.programCounter
      cases found : first.program.get? first.programCounter with
      | none =>
          rw [found, alike.programCounter, Option.map_none, eq_comm, Option.map_eq_none_iff]
            at fetched
          rw [step_of_outside halted found, step_of_outside running fetched]
          exact ⟨idle.halt, rfl⟩
      | some one =>
          rw [found, alike.programCounter, Option.map_some, eq_comm, Option.map_eq_some_iff]
            at fetched
          obtain ⟨other, otherFound, same⟩ := fetched
          rw [step_of_running halted found, step_of_running running otherFound]
          exact alike.execute same.symm

/-! ### Many steps -/

/-- Runs of alike machines stay alike and are equally long. -/
theorem runFrom (alike : first.Alike second) (made budget : Nat) :
    AlikeWith (first.runFrom made budget) (second.runFrom made budget) := by
  induction budget generalizing first second made with
  | zero => exact ⟨alike, rfl⟩
  | succ budget hypothesis =>
      simp only [Machine.runFrom, ← alike.halted]
      split
      next => exact ⟨alike, rfl⟩
      next => exact hypothesis alike.step.machine (made + 1)

/-! ### Commands -/

theorem withMemory (alike : first.Alike second) (memory : Memory) :
    ({ first with memory } : Machine).Alike { second with memory } :=
  ⟨alike.program, rfl, alike.programCounter, alike.halted, alike.trace, alike.lastError⟩

/-- Alike machines take a command alike and give the same reply. -/
theorem apply (alike : first.Alike second) (command : Command) :
    AlikeWith (first.apply command) (second.apply command) := by
  cases command with
  | step => exact ⟨alike.step.machine, congrArg Reply.outcome alike.step.result⟩
  | run budget =>
      have ran := alike.runFrom 0 budget
      exact ⟨ran.machine, congrArg Reply.steps ran.result⟩
  | reset =>
      refine ⟨⟨alike.program, ?_, rfl, rfl, rfl, rfl⟩, rfl⟩
      exact congrArg Memory.clearRegisters alike.memory
  | setProgram program =>
      -- From here on both machines hold the same program.
      exact ⟨⟨.refl program, alike.memory, alike.programCounter, alike.halted, alike.trace,
        alike.lastError⟩, rfl⟩
  | setAccumulator value =>
      simp only [Machine.apply, Machine.setAccumulator, alike.memory]
      exact ⟨alike.withMemory _, rfl⟩
  | setRegister number value =>
      simp only [Machine.apply, Machine.setRegister, alike.memory]
      split
      next => exact ⟨alike.withMemory _, rfl⟩
      next => exact ⟨alike, rfl⟩
  | setTape address value =>
      simp only [Machine.apply, Machine.setTape, alike.memory]
      split
      next => exact ⟨alike.withMemory _, rfl⟩
      next => exact ⟨alike, rfl⟩

/-- Alike machines give the same replies to any commands and stay alike. -/
theorem applyAll (alike : first.Alike second) (commands : List Command) :
    AlikeWith (first.applyAll commands) (second.applyAll commands) := by
  induction commands generalizing first second with
  | nil => exact ⟨alike, rfl⟩
  | cons command rest hypothesis =>
      have applied := alike.apply command
      have final := hypothesis applied.machine
      refine ⟨final.machine, ?_⟩
      simp only [Machine.applyAll, applied.result, final.result]

end Alike

/-! ## Machines with the program of an image -/

/-- A machine that holds a program and one that holds what comes back from the image of the
program, and that are otherwise the same, give the same replies to all commands and are alike
after each of them. -/
theorem applyAll_decode_encode {program decoded : Program} {image : List Word}
    (encoded : program.encode = .ok image) (success : Program.decode image = .ok decoded)
    (machine : Machine) (commands : List Command) :
    ((machine.setProgram program).applyAll commands).2 =
        ((machine.setProgram decoded).applyAll commands).2 ∧
      ∀ past, past <+: commands →
        ((machine.setProgram program).applyAll past).1.Alike
          ((machine.setProgram decoded).applyAll past).1 := by
  obtain ⟨fits, rfl⟩ := Image.encode_eq_ok_iff.mp encoded
  obtain ⟨_, rfl⟩ := (Image.decode_words_eq_ok_iff fits).mp success
  have alike := machine.alike_setProgram program.alike_canonical
  exact ⟨(alike.applyAll commands).result, fun past _ => (alike.applyAll past).machine⟩

/-- A program that counts a register down to zero and then fails, in a session with edits that
are refused and a reset. -/
theorem applyAll_decode_encode_countdown :
    let program : Program :=
      ⟨[⟨.load, ["loop"], [.register 1], rfl⟩, ⟨.jzero, [], [.label "done" 6], rfl⟩,
        ⟨.sub, [], [.literal 1], rfl⟩, ⟨.store, [], [.register 1], rfl⟩,
        ⟨.jump, [], [.label "loop" 1], rfl⟩, ⟨.read, ["done"], [.literal 9], rfl⟩]⟩
    let decoded : Program :=
      ⟨[⟨.load, ["l1"], [.register 1], rfl⟩, ⟨.jzero, [], [.label "l6" 6], rfl⟩,
        ⟨.sub, [], [.literal 1], rfl⟩, ⟨.store, [], [.register 1], rfl⟩,
        ⟨.jump, [], [.label "l1" 1], rfl⟩, ⟨.read, ["l6"], [.literal 9], rfl⟩]⟩
    let machine : Machine := { memory := .zero 1 1 }
    let commands : List Command :=
      [.setRegister 1 2, .step, .run 100, .step, .setTape 1 0, .setRegister 2 0, .reset, .step]
    let image : List Word :=
      [0x0000000100000204, 0x0000000600000308, 0x0000000100000102, 0x0000000100000205,
        0x000000010000030A, 0x0000000900000106]
    let replies : List Reply :=
      [.done, .outcome .executed, .steps 12, .outcome .idle, .refused (.tapeAddressOutOfRange 1),
        .refused (.registerOutOfRange 2), .done, .outcome .executed]
    program.encode = .ok image ∧ Program.decode image = .ok decoded ∧
      ((machine.setProgram program).applyAll commands).2 = replies ∧
      ((machine.setProgram decoded).applyAll commands).2 = replies := by
  intro program decoded machine commands image replies
  have words : program.instructions.map Image.word = image := by decide +kernel
  have encoded : program.encode = .ok image :=
    Image.encode_eq_ok_iff.mpr ⟨by decide +kernel, words.symm⟩
  have success : Program.decode image = .ok decoded := by
    rw [← words]
    exact (Image.decode_words_eq_ok_iff (by decide +kernel)).mpr
      ⟨by decide +kernel, by decide +kernel⟩
  have replied : ((machine.setProgram program).applyAll commands).2 = replies := by decide +kernel
  have same := (applyAll_decode_encode encoded success machine commands).1
  exact ⟨encoded, success, replied, same.symm.trans replied⟩

end Machine

end Ram
