import Ram.Machine.Command

/-!
# Runs step by step

A running machine makes one step and then the rest of its run (`run_succ_of_running`), and a
halted one makes none (`run_of_halted`).  The outcome of a step tells whether the machine is
halted after it: `executed` is the only outcome of a machine that goes on
(`halted_step_iff`).

So no step but the last one of a run fails, and `lastOutcome?` is all that a run has to say about
faults.

What every step keeps is kept by a run (`run_induction`), and what every command keeps is kept by
a session (`applyAll_induction`).
-/

namespace Ram.Machine

variable {machine : Machine}

/-! ## The outcome of a step -/

/-- Whether the outcome of a step is one of a machine that was running, and says whether the
machine is halted after it. -/
def Tells (after : Machine × Outcome) : Prop :=
  after.2 ≠ .idle ∧ (after.1.halted = true ↔ after.2 ≠ .executed)

theorem tells_proceed (running : machine.halted = false) (position : Nat) :
    Tells (machine.proceed position) := by
  unfold proceed
  split
  next => simp [Tells, halt]
  next => simp [Tells, running]

theorem tells_follow (running : machine.halted = false) (flow : Flow) :
    Tells (machine.follow flow) := by
  cases flow with
  | next => exact tells_proceed running _
  | jump target => exact tells_proceed running target
  | halt => simp [Tells, follow, halt]

theorem tells_execute (running : machine.halted = false) (instruction : Instruction) :
    Tells (machine.execute instruction) := by
  unfold execute
  dsimp only
  split
  next action _ =>
    apply tells_follow
    exact running
  next => simp [Tells, Machine.fail]

/-- A step says whether the machine is halted after it. -/
theorem tells_step (running : machine.halted = false) : Tells machine.step := by
  cases fetched : machine.program.get? machine.programCounter with
  | none => simp [Tells, step_of_outside running fetched, halt]
  | some instruction =>
      rw [step_of_running running fetched]
      exact tells_execute running instruction

theorem step_ne_idle (running : machine.halted = false) : machine.step.2 ≠ .idle :=
  (tells_step running).1

/-- A machine that was running is halted after a step exactly when the outcome says so. -/
theorem halted_step_iff (running : machine.halted = false) :
    machine.step.1.halted = true ↔ machine.step.2 ≠ .executed :=
  (tells_step running).2

/-- A step after which the machine goes on has executed an instruction. -/
theorem step_eq_executed (running : machine.halted = false)
    (goesOn : machine.step.1.halted = false) : machine.step.2 = .executed := by
  refine Decidable.byContradiction fun stopped => ?_
  rw [(halted_step_iff running).mpr stopped] at goesOn
  cases goesOn

/-- A halted machine stays halted in a step. -/
theorem halted_step (halted : machine.halted = true) : machine.step.1.halted = true := by
  rw [step_of_halted halted]
  exact halted

/-! ## Runs -/

/-- The number that a run starts to count from is added to its steps. -/
theorem runFrom_eq (machine : Machine) (made budget : Nat) :
    machine.runFrom made budget = ((machine.run budget).1, made + (machine.run budget).2) := by
  induction budget generalizing machine made with
  | zero => rfl
  | succ budget hypothesis =>
      unfold run runFrom
      split
      next => rfl
      next => rw [hypothesis machine.step.1 (made + 1), hypothesis machine.step.1 (0 + 1),
        Nat.zero_add, Nat.add_assoc]

theorem run_of_halted (halted : machine.halted = true) (budget : Nat) :
    machine.run budget = (machine, 0) := by
  cases budget with
  | zero => rfl
  | succ budget => simp [run, runFrom, halted]

/-- A running machine makes one step and then the rest of its run. -/
theorem run_succ_of_running (running : machine.halted = false) (budget : Nat) :
    machine.run (budget + 1) =
      ((machine.step.1.run budget).1, (machine.step.1.run budget).2 + 1) := by
  rw [run, runFrom, if_neg (by simp [running]), runFrom_eq, Nat.zero_add, Nat.add_comm 1]

/-- What every step keeps is kept by a run. -/
theorem run_induction {holds : Machine → Prop}
    (kept : ∀ machine : Machine, holds machine → holds machine.step.1) (budget : Nat)
    (initially : holds machine) : holds (machine.run budget).1 := by
  induction budget generalizing machine with
  | zero => exact initially
  | succ budget hypothesis =>
      cases halted : machine.halted with
      | true => rwa [run_of_halted halted]
      | false =>
          rw [run_succ_of_running halted]
          exact hypothesis (kept machine initially)

/-- The machine after some steps, halted or not. -/
def after (machine : Machine) : Nat → Machine
  | 0 => machine
  | count + 1 => machine.step.1.after count

theorem halted_after {count : Nat} (halted : machine.halted = true) :
    (machine.after count).halted = true := by
  induction count generalizing machine with
  | zero => exact halted
  | succ count hypothesis => exact hypothesis (halted_step halted)

/-- A machine that has halted within a run is halted after as many steps as the run may make. -/
theorem halted_after_of_run {budget : Nat} (halted : (machine.run budget).1.halted = true) :
    (machine.after budget).halted = true := by
  induction budget generalizing machine with
  | zero => exact halted
  | succ budget hypothesis =>
      cases before : machine.halted with
      | true => exact halted_after before
      | false =>
          rw [run_succ_of_running before] at halted
          exact hypothesis halted

/-! ## The last step of a run -/

/-- The outcome of the last step of a run, if the run makes a step. -/
def lastOutcome? (machine : Machine) (budget : Nat) : Option Outcome :=
  match (machine.run budget).2 with
  | 0 => none
  | made + 1 => some (machine.run made).1.step.2

theorem lastOutcome?_of_halted (halted : machine.halted = true) (budget : Nat) :
    machine.lastOutcome? budget = none := by
  rw [lastOutcome?, run_of_halted halted]

/-- The last step is that of the rest of the run, or the first one if there is no rest. -/
theorem lastOutcome?_succ_of_running (running : machine.halted = false) (budget : Nat) :
    machine.lastOutcome? (budget + 1) =
      (machine.step.1.lastOutcome? budget).or (some machine.step.2) := by
  rw [lastOutcome?, lastOutcome?, run_succ_of_running running]
  cases (machine.step.1.run budget).2 with
  | zero => rfl
  | succ made =>
      dsimp only
      rw [run_succ_of_running running, Option.some_or]

/-- A step that others follow in the same run has executed an instruction. -/
theorem step_eq_executed_of_later (running : machine.halted = false) {budget : Nat}
    {later : Outcome} (last : machine.step.1.lastOutcome? budget = some later) :
    machine.step.2 = .executed := by
  cases halted : machine.step.1.halted with
  | true =>
      rw [lastOutcome?_of_halted halted] at last
      cases last
  | false => exact step_eq_executed running halted

/-! ## Sessions -/

/-- What every command of a session keeps is kept by the session. -/
theorem applyAll_induction {holds : Machine → Prop} {commands : List Command}
    (kept : ∀ machine : Machine, ∀ command ∈ commands, holds machine →
      holds (machine.apply command).1)
    (initially : holds machine) : holds (machine.applyAll commands).1 := by
  induction commands generalizing machine with
  | nil => exact initially
  | cons command rest hypothesis =>
      apply hypothesis
      · intro machine later member
        exact kept machine later (.tail command member)
      · exact kept machine command (.head rest) initially

end Ram.Machine
