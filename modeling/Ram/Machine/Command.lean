import Ram.Machine.Basic

/-!
# Commands

Everything that can be done to a machine from outside is a command, and a command gives a
reply.  A list of commands is a session with the machine.
-/

namespace Ram

/-- Something to do with a machine. -/
inductive Command where
  /-- Makes one step. -/
  | step
  /-- Steps until the machine halts, at most as often as the number says. -/
  | run (budget : Nat)
  /-- Resets the machine. -/
  | reset
  /-- Gives the machine another program. -/
  | setProgram (program : Program)
  /-- Writes the accumulator. -/
  | setAccumulator (value : Value)
  /-- Writes a register. -/
  | setRegister (number : RegisterNumber) (value : Value)
  /-- Writes a cell of the tape. -/
  | setTape (address : Nat) (value : Value)
deriving DecidableEq

/-- The answer to a command. -/
inductive Reply where
  /-- What came of a step. -/
  | outcome (outcome : Outcome)
  /-- The number of steps of a run. -/
  | steps (count : Nat)
  /-- The command was carried out. -/
  | done
  /-- The command was refused and the machine stays as it was. -/
  | refused (error : MachineError)
deriving DecidableEq, Repr

namespace Machine

/-- The machine after an edit, or as it was if the edit is refused. -/
def edited (machine : Machine) : Except MachineError Machine → Machine × Reply
  | .ok next => (next, .done)
  | .error error => (machine, .refused error)

/-- The machine after a command, and the reply. -/
def apply (machine : Machine) : Command → Machine × Reply
  | .step => (machine.step.1, .outcome machine.step.2)
  | .run budget => ((machine.run budget).1, .steps (machine.run budget).2)
  | .reset => (machine.reset, .done)
  | .setProgram program => (machine.setProgram program, .done)
  | .setAccumulator value => (machine.setAccumulator value, .done)
  | .setRegister number value => machine.edited (machine.setRegister number value)
  | .setTape address value => machine.edited (machine.setTape address value)

/-- The machine after some commands, and their replies. -/
def applyAll (machine : Machine) : List Command → Machine × List Reply
  | [] => (machine, [])
  | command :: rest =>
    let after := machine.apply command
    let final := after.1.applyAll rest
    (final.1, after.2 :: final.2)

end Machine

end Ram
