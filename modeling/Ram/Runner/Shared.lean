import Ram.Runner.Basic

/-!
# A machine that is shared

Any number of runners and a front end share one machine.  A *move* is one thing that
nothing can interrupt: the next part of the loop of a runner, a request that a runner
stops, a new runner, or a command of the front end.  A history of the whole is a list of
moves, and every interleaving is such a list.

What is recorded of a history are the steps that the runners made, each with the index of
its runner and what came of it.
-/

namespace Ram

/-- A machine with its runners. -/
structure Shared where
  /-- The machine. -/
  machine : Machine
  /-- The runners, the oldest first. -/
  runners : List Runner := []
deriving DecidableEq

/-- One thing that happens to a shared machine. -/
inductive Move where
  /-- A new runner starts. -/
  | spawn
  /-- A runner does the next part of its loop. -/
  | advance (index : Nat)
  /-- A runner is told to stop. -/
  | requestStop (index : Nat)
  /-- The front end uses the machine. -/
  | command (command : Command)
deriving DecidableEq

/-- A step that a runner made. -/
structure RunnerStep where
  /-- The index of the runner. -/
  runner : Nat
  /-- What came of the step. -/
  outcome : Outcome
deriving DecidableEq, Repr

namespace Shared

/-- The shared machine after a move. -/
def act (shared : Shared) : Move → Shared
  | .spawn => { shared with runners := shared.runners ++ [{}] }
  | .advance index =>
    match shared.runners[index]? with
    | none => shared
    | some runner =>
      let after := runner.advance shared.machine
      { machine := after.machine, runners := shared.runners.set index after.runner }
  | .requestStop index => { shared with runners := shared.runners.modify index .requestStop }
  | .command command => { shared with machine := (shared.machine.apply command).1 }

/-- The step that a runner makes in a move. -/
def stepOf (shared : Shared) : Move → Option RunnerStep
  | .advance index => do
    let runner ← shared.runners[index]?
    let outcome ← (runner.advance shared.machine).outcome
    return ⟨index, outcome⟩
  | _ => none

/-- The shared machine after some moves. -/
def actAll (shared : Shared) (moves : List Move) : Shared := moves.foldl act shared

/-- The steps that the runners make in some moves, in order. -/
def stepsOf (shared : Shared) : List Move → List RunnerStep
  | [] => []
  | move :: rest => (shared.stepOf move).toList ++ (shared.act move).stepsOf rest

end Shared

end Ram
