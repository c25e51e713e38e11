import Ram.CommandLine.Session
import Ram.Runner.Basic
import Ram.Proofs.Machine.Run

/-!
# Three ways to run a machine

A machine is run by itself (`Machine.run`), by the command line (`Progress.go`) and by a runner
(`Runner.drive`).  The three look at the machine at different points: a run and the command line
before every step, a runner before and after it.  The command line reports a fault as soon as it
comes up, a runner keeps it in its summary, and a run leaves it in the machine.

All three make the same steps.  For the command line that is an induction over the number of steps
that are allowed (`Progress.machine_go`, `Progress.steps_go`).  A runner goes three times round its
loop for each step, so an induction over the steps says where it stands after three times as many
parts (`Runner.drive_of_halts`).

A fault halts the machine, so only the last step of a run can be one.  That is why both reports
come down to the outcome of the last step, and an old error of the machine is not among them.
-/

namespace Ram

/-! ## The command line -/

namespace CommandLine

/-- Whether an event writes to the standard error. -/
def Event.isError : Event → Bool
  | err _ => true
  | _ => false

namespace Progress

variable {options : Options} {progress : Progress}

/-- What a run has written to the standard error, in order. -/
def errors (progress : Progress) : List Event := progress.events.reverse.filter Event.isError

/-- Showing the machine writes nothing to the standard error. -/
theorem filter_shown (options : Options) (machine : Machine) :
    (shown options machine).filter Event.isError = [] := by
  unfold shown shownText
  split
  next =>
    cases options.speed with
    | none => rfl
    | some speed => rfl
  next => rfl

theorem filter_reported (outcome : Outcome) :
    (reported outcome).filter Event.isError = reported outcome := by
  cases outcome <;> rfl

theorem errors_tick (options : Options) (progress : Progress) :
    (progress.tick options).errors = progress.errors ++ reported progress.machine.step.2 := by
  simp only [errors, tick, List.reverse_append, List.reverse_reverse, List.filter_append,
    filter_shown, filter_reported, List.nil_append]

theorem go_of_halted (halted : progress.machine.halted = true) (budget : Nat) :
    progress.go options budget = progress := by
  cases budget with
  | zero => rfl
  | succ budget => simp [go, halted]

theorem go_succ_of_running (running : progress.machine.halted = false) (budget : Nat) :
    progress.go options (budget + 1) = (progress.tick options).go options budget := by
  simp [go, running]

theorem machine_go (options : Options) (progress : Progress) (budget : Nat) :
    (progress.go options budget).machine = (progress.machine.run budget).1 := by
  induction budget generalizing progress with
  | zero => rfl
  | succ budget hypothesis =>
      cases halted : progress.machine.halted with
      | true => rw [go_of_halted halted, Machine.run_of_halted halted]
      | false =>
          rw [go_succ_of_running halted, hypothesis, Machine.run_succ_of_running halted]
          rfl

theorem steps_go (options : Options) (progress : Progress) (budget : Nat) :
    (progress.go options budget).steps = progress.steps + (progress.machine.run budget).2 := by
  induction budget generalizing progress with
  | zero => rfl
  | succ budget hypothesis =>
      cases halted : progress.machine.halted with
      | true => rw [go_of_halted halted, Machine.run_of_halted halted, Nat.add_zero]
      | false =>
          rw [go_succ_of_running halted, hypothesis, Machine.run_succ_of_running halted]
          simp only [tick]
          omega

/-- Of all steps of a run only the last one is reported. -/
theorem errors_go (options : Options) (progress : Progress) (budget : Nat) :
    (progress.go options budget).errors =
      progress.errors ++ (progress.machine.lastOutcome? budget).elim [] reported := by
  induction budget generalizing progress with
  | zero => simp [go, Machine.lastOutcome?]
  | succ budget hypothesis =>
      cases halted : progress.machine.halted with
      | true => simp [go_of_halted halted, Machine.lastOutcome?_of_halted halted]
      | false =>
          rw [go_succ_of_running halted, hypothesis, errors_tick,
            Machine.lastOutcome?_succ_of_running halted, List.append_assoc]
          show _ ++ (_ ++ (progress.machine.step.1.lastOutcome? budget).elim [] reported) = _
          cases last : progress.machine.step.1.lastOutcome? budget with
          | none => simp
          | some later =>
              rw [Machine.step_eq_executed_of_later halted last]
              rfl

end Progress

end CommandLine

/-! ## A runner alone -/

/-- The summary after the steps of a run, which reports the fault of the last one. -/
def Summary.after (summary : Summary) (machine : Machine) (budget : Nat) : Summary :=
  { steps := summary.steps + (machine.run budget).2
    error := ((machine.lastOutcome? budget).bind errorOf).or summary.error }

theorem Summary.after_of_halted {machine : Machine} (halted : machine.halted = true)
    (summary : Summary) (budget : Nat) : summary.after machine budget = summary := by
  simp [after, Machine.run_of_halted halted, Machine.lastOutcome?_of_halted halted]

/-- Recording a step and then the rest of a run is recording the run. -/
theorem Summary.after_record {machine : Machine} (running : machine.halted = false)
    (summary : Summary) (budget : Nat) :
    (summary.record machine.step.2).after machine.step.1 budget =
      summary.after machine (budget + 1) := by
  simp only [after, record, Machine.run_succ_of_running running,
    Machine.lastOutcome?_succ_of_running running, Summary.mk.injEq]
  refine ⟨by omega, ?_⟩
  cases last : machine.step.1.lastOutcome? budget with
  | none => rfl
  | some later =>
      rw [Machine.step_eq_executed_of_later running last]
      rfl

namespace Runner

variable {runner : Runner} {machine : Machine}

theorem drive_of_finished (finished : runner.phase = .finished) (parts : Nat) :
    runner.drive machine parts = (runner, machine) := by
  induction parts with
  | zero => rfl
  | succ parts hypothesis => simp only [drive, advance, finished, hypothesis]

theorem drive_add (first second : Nat) :
    runner.drive machine (first + second) =
      (runner.drive machine first).1.drive (runner.drive machine first).2 second := by
  induction first generalizing runner machine with
  | zero => rw [Nat.zero_add]; rfl
  | succ first hypothesis =>
      rw [Nat.add_right_comm]
      exact hypothesis

/-- Once round the loop a runner holds the machine once. -/
theorem drive_round (summary : Summary) (machine : Machine) (parts : Nat) :
    let held := hold { phase := .ready, summary } machine
    drive { summary } machine (parts + 3) = held.runner.drive held.machine parts := rfl

theorem drive_of_halted (halted : machine.halted = true) (summary : Summary) (parts : Nat) :
    drive { summary } machine (parts + 3) = ({ phase := .finished, summary }, machine) := by
  simp only [drive_round, hold, halted, if_true]
  exact drive_of_finished rfl parts

/-- A runner alone makes the steps of a run that halts and finishes. -/
theorem drive_of_halts {budget : Nat} (halts : (machine.run budget).1.halted = true)
    (summary : Summary) (parts : Nat) :
    drive { summary } machine (parts + 3 * (budget + 1)) =
      ({ phase := .finished, summary := summary.after machine budget },
        (machine.run budget).1) := by
  induction budget generalizing machine summary with
  | zero =>
      have halted : machine.halted = true := halts
      rw [Summary.after_of_halted halted]
      exact drive_of_halted halted summary parts
  | succ budget hypothesis =>
      cases halted : machine.halted with
      | true =>
          rw [Machine.run_of_halted halted, Summary.after_of_halted halted]
          exact drive_of_halted halted summary (parts + 3 * (budget + 1))
      | false =>
          rw [Machine.run_succ_of_running halted] at halts ⊢
          rw [← Summary.after_record halted]
          have round : parts + 3 * (budget + 1 + 1) = parts + 3 * (budget + 1) + 3 := by omega
          simp only [round, drive_round, hold, halted, Bool.false_eq_true, if_false]
          cases stopped : machine.step.1.halted with
          | true =>
              rw [Machine.run_of_halted stopped, Summary.after_of_halted stopped]
              exact drive_of_finished rfl _
          | false => exact hypothesis halts _

end Runner

/-! ## Agreement -/

/-- The command line and a runner that has a machine for itself end with the machine and the number
of steps of a run.  The command line writes one message to the standard error if the last step
failed and otherwise none, and the summary of the runner has an error exactly if the last step
failed.  A machine that is halted from the start leaves the summary empty, whatever error it has. -/
theorem drivers_agree (machine : Machine) :
    (∀ options budget,
      let final := CommandLine.Progress.go options { machine } budget
      final.machine = (machine.run budget).1 ∧ final.steps = (machine.run budget).2 ∧
        (∀ error, machine.lastOutcome? budget = some (.faulted error) →
          final.errors = [.err (error.message ++ "\n")]) ∧
        ((∀ error, machine.lastOutcome? budget ≠ some (.faulted error)) → final.errors = [])) ∧
    (∀ budget, (machine.run budget).1.halted = true →
      (∃ parts, (Runner.drive {} machine parts).1.isFinished = true) ∧
        ∀ parts, (Runner.drive {} machine parts).1.isFinished = true →
          let final := Runner.drive {} machine parts
          final.2 = (machine.run budget).1 ∧
            final.1.summary.steps = (machine.run budget).2 ∧
            (∀ error, final.1.summary.error = some error ↔
              machine.lastOutcome? budget = some (.faulted error)) ∧
            (machine.halted = true → final.1.summary = { steps := 0, error := none })) := by
  constructor
  · intro options budget final
    have errors : final.errors =
        (machine.lastOutcome? budget).elim [] CommandLine.Progress.reported :=
      CommandLine.Progress.errors_go options { machine } budget
    refine ⟨CommandLine.Progress.machine_go options { machine } budget, ?_, ?_, ?_⟩
    · simpa using CommandLine.Progress.steps_go options { machine } budget
    · intro error last
      rw [errors, last]
      rfl
    · intro clean
      rw [errors]
      cases last : machine.lastOutcome? budget with
      | none => rfl
      | some outcome =>
          cases outcome with
          | executed => rfl
          | halted => rfl
          | faulted error => exact absurd last (clean error)
          | idle => rfl
  · intro budget halts
    have ended := Runner.drive_of_halts halts {}
    refine ⟨⟨0 + 3 * (budget + 1), by rw [ended]; rfl⟩, fun parts finished => ?_⟩
    -- a runner that is finished stays as it is, so any time is as good as a late one
    have complete : Runner.drive {} machine parts =
        ({ phase := .finished, summary := Summary.after {} machine budget },
          (machine.run budget).1) := by
      have out : (Runner.drive {} machine parts).1.phase = .finished := by
        simpa [Runner.isFinished] using finished
      rw [← ended parts, Runner.drive_add, Runner.drive_of_finished out]
    rw [complete]
    refine ⟨rfl, by simp [Summary.after], fun error => ?_, fun halted => ?_⟩
    · simp [Summary.after, Summary.errorOf_eq_some_iff, Option.bind_eq_some_iff]
    · exact Summary.after_of_halted halted {} budget

/-- A program that reads beyond the tape in its second step.  The machine keeps the error, and a
runner that is started then does not report it again. -/
theorem drivers_agree_fault :
    let machine : Machine :=
      { memory := .zero 1 1
        program := ⟨[⟨.nop, [], [], rfl⟩, ⟨.read, [], [.literal 9], rfl⟩]⟩ }
    let error : ExecutionError := ⟨.read, 2, .tapeReadOutOfBounds 9⟩
    let options : CommandLine.Options := { file := "program.ram", trace := true }
    let stopped := (machine.run 5).1
    machine.lastOutcome? 5 = some (.faulted error) ∧ stopped.halted = true ∧
      stopped.lastError = some error ∧
      (CommandLine.Progress.go options { machine } 5).errors = [.err (error.message ++ "\n")] ∧
      (∃ parts, (Runner.drive {} machine parts).1.summary = { steps := 2, error := some error }) ∧
      ∃ parts, (Runner.drive {} stopped parts).1.summary = { steps := 0, error := none } := by
  intro machine error options stopped
  have last : machine.lastOutcome? 5 = some (.faulted error) := by decide +kernel
  have count : (machine.run 5).2 = 2 := by decide +kernel
  have halted : stopped.halted = true := by decide +kernel
  have kept : stopped.lastError = some error := by decide +kernel
  obtain ⟨line, runner⟩ := drivers_agree machine
  obtain ⟨_, again⟩ := drivers_agree stopped
  obtain ⟨⟨parts, finished⟩, results⟩ := runner 5 halted
  obtain ⟨_, steps, reports, _⟩ := results parts finished
  obtain ⟨⟨others, done⟩, resultsAgain⟩ := again 0 halted
  refine ⟨last, halted, kept, (line options 5).2.2.1 error last, ⟨parts, ?_⟩, others, ?_⟩
  · have reported := (reports error).mpr last
    cases same : (Runner.drive {} machine parts).1.summary with
    | mk made failure =>
        rw [same] at steps reported
        rw [← count, ← steps, ← reported]
  · exact (resultsAgain others done).2.2.2 halted

end Ram
