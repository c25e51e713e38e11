import Ram.Machine.Command

/-!
# Runners

A runner steps a machine in the background until the machine halts or the runner is told
to stop.  It goes round a loop.  It looks at its stop flag, pauses, looks at the flag
again, and then holds the machine for one step.  It finishes when it sees the flag set,
when it finds the machine halted, and after a step that halts the machine.

Others may use the machine between any two parts of the loop, and may set the flag at any
time.  So the loop is cut into the parts that nothing can interrupt, and `advance` does
the next of them.  A step is one such part: once a runner holds the machine, the step is
completed, and setting the flag only prevents the next one.
-/

namespace Ram

/-- What a runner did so far. -/
structure Summary where
  /-- The number of steps it made. -/
  steps : Nat := 0
  /-- The error of its last step, if that step failed. -/
  error : Option ExecutionError := none
deriving DecidableEq, Repr

/-- Where a runner is in its loop. -/
inductive Phase where
  /-- Before the first look at the stop flag. -/
  | starting
  /-- In the pause, before the second look at the flag. -/
  | pausing
  /-- Before holding the machine. -/
  | ready
  /-- Out of the loop. -/
  | finished
deriving DecidableEq, Repr

/-- A runner. -/
structure Runner where
  /-- Where it is in its loop. -/
  phase : Phase := .starting
  /-- Whether it has been told to stop. -/
  stopRequested : Bool := false
  /-- What it did so far. -/
  summary : Summary := {}
deriving DecidableEq, Repr

/-- What one part of the loop of a runner leads to. -/
structure Advance where
  /-- The runner afterwards. -/
  runner : Runner
  /-- The machine afterwards. -/
  machine : Machine
  /-- What came of the step, if the runner made one. -/
  outcome : Option Outcome := none
deriving DecidableEq

namespace Summary

/-- The error that an outcome reports. -/
def errorOf : Outcome → Option ExecutionError
  | .faulted error => some error
  | _ => none

/-- The summary after one more step. -/
def record (summary : Summary) (outcome : Outcome) : Summary :=
  { steps := summary.steps + 1, error := (errorOf outcome).or summary.error }

theorem errorOf_eq_some_iff {outcome : Outcome} {error : ExecutionError} :
    errorOf outcome = some error ↔ outcome = .faulted error := by
  cases outcome <;> simp [errorOf]

end Summary

namespace Runner

/-- Whether the runner is out of its loop. -/
def isFinished (runner : Runner) : Bool := runner.phase = .finished

/-- The runner told to stop. -/
def requestStop (runner : Runner) : Runner := { runner with stopRequested := true }

/-- The runner at another place of its loop, or out of it if it has been told to stop. -/
def unlessStopped (runner : Runner) (next : Phase) : Runner :=
  { runner with phase := if runner.stopRequested then .finished else next }

/-- What a runner does while it holds the machine. -/
def hold (runner : Runner) (machine : Machine) : Advance :=
  if machine.halted then { runner := { runner with phase := .finished }, machine }
  else
    let after := machine.step
    { runner :=
        { runner with
          phase := if after.1.halted then .finished else .starting
          summary := runner.summary.record after.2 }
      machine := after.1
      outcome := some after.2 }

/-- The next part of the loop of a runner. -/
def advance (runner : Runner) (machine : Machine) : Advance :=
  match runner.phase with
  | .starting => { runner := runner.unlessStopped .pausing, machine }
  | .pausing => { runner := runner.unlessStopped .ready, machine }
  | .ready => runner.hold machine
  | .finished => { runner, machine }

/-- A runner alone with a machine, after some parts of its loop. -/
def drive (runner : Runner) (machine : Machine) : Nat → Runner × Machine
  | 0 => (runner, machine)
  | parts + 1 =>
    let after := runner.advance machine
    after.runner.drive after.machine parts

end Runner

end Ram
