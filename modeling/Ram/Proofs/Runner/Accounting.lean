import Ram.Runner.Shared
import Ram.Proofs.Machine.Run
import Mathlib.Algebra.Ring.Nat

/-!
# The steps of runners

Any number of runners share a machine with a front end, and every interleaving of what they do is a
list of moves.  The summaries of the runners account for the steps that are recorded of it.

*One runner.*  `Runner.Accounts` ties a runner to the outcomes of its steps: the summary counts
them and has the error of the last one, all others left the machine running, and so did the last
one if the runner is still in its loop.  A part of the loop keeps this, with the outcome of its step
added if it makes one (`Accounts.advance`).

*All runners.*  `Shared.Accounts` says it of every runner and the steps that are its own.  A move
keeps it (`Accounts.act`), so every list of moves does (`Accounts.actAll`).

A runner that is out of its loop makes no step, and no move brings it back
(`Finished.ne_of_mem_stepsOf`).  It leaves the loop in the step that halts the machine, so it does
not matter whether the machine runs again later.
-/

namespace Ram

/-! ## One runner -/

namespace Runner

/-- What is always the case with a runner that has made steps with the given outcomes. -/
structure Accounts (runner : Runner) (outcomes : List Outcome) : Prop where
  /-- Every step is counted. -/
  steps : runner.summary.steps = outcomes.length
  /-- The error is that of the last step. -/
  error : ∀ error, runner.summary.error = some error ↔
    outcomes.getLast? = some (.faulted error)
  /-- The machine was running after every step but the last one. -/
  earlier : ∀ outcome ∈ outcomes.dropLast, outcome = .executed
  /-- While the runner is in its loop, the machine was running after the last step too. -/
  looping : runner.phase ≠ .finished → ∀ outcome ∈ outcomes, outcome = .executed

theorem accounts_start : Accounts {} [] :=
  ⟨rfl, by simp, by simp, by simp⟩

namespace Accounts

variable {runner : Runner} {outcomes : List Outcome}

theorem requestStop (accounts : runner.Accounts outcomes) : runner.requestStop.Accounts outcomes :=
  { accounts with }

theorem withPhase (accounts : runner.Accounts outcomes) (looping : runner.phase ≠ .finished)
    (phase : Phase) : ({ runner with phase } : Runner).Accounts outcomes :=
  { accounts with looping := fun _ => accounts.looping looping }

/-- A fault is an outcome exactly if it is the last one. -/
theorem faulted_mem_iff (accounts : runner.Accounts outcomes) {error : ExecutionError} :
    .faulted error ∈ outcomes ↔ runner.summary.error = some error := by
  rw [accounts.error]
  constructor
  · intro member
    rcases List.eq_nil_or_concat outcomes with rfl | ⟨others, last, split⟩
    · cases member
    · rw [List.concat_eq_append] at split
      subst split
      have earlier := accounts.earlier (.faulted error)
      rw [List.dropLast_concat] at earlier
      rcases List.mem_append.mp member with before | atEnd
      · exact absurd (earlier before) (by simp)
      · rw [List.getLast?_concat, List.mem_singleton.mp atEnd]
  · exact List.mem_of_getLast?

/-- One more step of a runner that is ready for it. -/
theorem record {machine : Machine} (accounts : runner.Accounts outcomes)
    (looping : runner.phase ≠ .finished) (running : machine.halted = false) (phase : Phase)
    (leaves : machine.step.1.halted = true → phase = .finished) :
    ({ runner with phase, summary := runner.summary.record machine.step.2 } : Runner).Accounts
      (outcomes ++ [machine.step.2]) := by
  have executed := accounts.looping looping
  -- the runner has not seen a fault, or it would have left its loop
  have clean : runner.summary.error = none := by
    rw [Option.eq_none_iff_forall_ne_some]
    intro error reported
    exact absurd (executed _ (accounts.faulted_mem_iff.mpr reported)) (by simp)
  constructor
  · simp [Summary.record, accounts.steps]
  · intro error
    rw [List.getLast?_concat, Option.some.injEq, ← Summary.errorOf_eq_some_iff]
    simp [Summary.record, clean]
  · rw [List.dropLast_concat]
    exact executed
  · intro stays outcome member
    rcases List.mem_append.mp member with before | atEnd
    · exact executed outcome before
    · rw [List.mem_singleton.mp atEnd]
      cases halted : machine.step.1.halted with
      | true => exact absurd (leaves halted) stays
      | false => exact Machine.step_eq_executed running halted

/-- A part of the loop of a runner adds the outcome of its step, if it makes one. -/
theorem advance (accounts : runner.Accounts outcomes) (machine : Machine) :
    (runner.advance machine).runner.Accounts
      (outcomes ++ (runner.advance machine).outcome.toList) := by
  unfold Runner.advance
  split
  next starting =>
    simp only [Option.toList_none, List.append_nil]
    exact accounts.withPhase (by simp [starting]) _
  next pausing =>
    simp only [Option.toList_none, List.append_nil]
    exact accounts.withPhase (by simp [pausing]) _
  next ready =>
    unfold hold
    split
    next =>
      simp only [Option.toList_none, List.append_nil]
      exact accounts.withPhase (by simp [ready]) _
    next running =>
      refine accounts.record (by simp [ready]) (by simpa using running) _ ?_
      intro halted
      rw [if_pos halted]
  next =>
    simp only [Option.toList_none, List.append_nil]
    exact accounts

end Accounts

/-- A runner makes a step when it holds a machine that is running, and then the outcome is that of
the step. -/
theorem outcome_advance_eq_some_iff {runner : Runner} {machine : Machine} {outcome : Outcome} :
    (runner.advance machine).outcome = some outcome ↔
      runner.phase = .ready ∧ machine.halted = false ∧ outcome = machine.step.2 := by
  unfold advance
  cases phase : runner.phase with
  | starting => simp
  | pausing => simp
  | ready =>
      cases halted : machine.halted with
      | true => simp [hold, halted]
      | false =>
          simp only [hold, halted, Bool.false_eq_true, if_false, Option.some.injEq, true_and]
          exact eq_comm
  | finished => simp

/-- A runner that is about to step makes one step of a running machine, and comes to its end if the
machine halts. -/
theorem advance_of_ready {runner : Runner} {machine : Machine} (ready : runner.phase = .ready)
    (running : machine.halted = false) :
    (runner.advance machine).machine = machine.step.1 ∧
      (machine.step.1.halted = true → (runner.advance machine).runner.phase = .finished) := by
  simp only [advance, ready, hold, running, Bool.false_eq_true, if_false, true_and]
  intro halted
  rw [if_pos halted]

/-- A part of the loop without a step leaves the machine alone. -/
theorem machine_advance_of_none {runner : Runner} {machine : Machine}
    (none : (runner.advance machine).outcome = none) :
    (runner.advance machine).machine = machine := by
  unfold advance at none ⊢
  cases phase : runner.phase with
  | starting => rfl
  | pausing => rfl
  | ready =>
      cases halted : machine.halted with
      | true => simp [hold, halted]
      | false => simp [phase, hold, halted] at none
  | finished => rfl

theorem advance_of_finished {runner : Runner} (finished : runner.phase = .finished)
    (machine : Machine) :
    runner.advance machine = { runner, machine } := by
  simp only [advance, finished]

end Runner

/-! ## All runners -/

/-- The outcomes of the steps that one runner made, in order. -/
def outcomesOf (index : Nat) (steps : List RunnerStep) : List Outcome :=
  (steps.filter fun step => step.runner = index).map RunnerStep.outcome

theorem mem_outcomesOf_iff {index : Nat} {steps : List RunnerStep} {outcome : Outcome} :
    outcome ∈ outcomesOf index steps ↔ ⟨index, outcome⟩ ∈ steps := by
  simp only [outcomesOf, List.mem_map, List.mem_filter, decide_eq_true_eq]
  constructor
  · rintro ⟨step, ⟨member, rfl⟩, rfl⟩
    exact member
  · intro member
    exact ⟨_, ⟨member, rfl⟩, rfl⟩

/-- The steps of a runner in a longer list are those in its two parts. -/
theorem outcomesOf_append (index : Nat) (first second : List RunnerStep) :
    outcomesOf index (first ++ second) = outcomesOf index first ++ outcomesOf index second := by
  simp [outcomesOf]

theorem outcomesOf_self (index : Nat) (outcome : Option Outcome) :
    outcomesOf index (outcome.map (RunnerStep.mk index)).toList = outcome.toList := by
  cases outcome <;> simp [outcomesOf]

theorem outcomesOf_other {index other : Nat} (different : other ≠ index)
    (outcome : Option Outcome) :
    outcomesOf other (outcome.map (RunnerStep.mk index)).toList = [] := by
  cases outcome <;> simp [outcomesOf, Ne.symm different]

namespace Shared

variable {shared : Shared}

/-- What advancing one runner does to everything that is shared. -/
theorem act_advance {index : Nat} {runner : Runner}
    (found : shared.runners[index]? = some runner) :
    shared.act (.advance index) =
      { machine := (runner.advance shared.machine).machine
        runners := shared.runners.set index (runner.advance shared.machine).runner } := by
  simp [act, found]

/-- The step that advancing one runner makes, if it makes one. -/
theorem stepOf_advance {index : Nat} {runner : Runner}
    (found : shared.runners[index]? = some runner) :
    shared.stepOf (.advance index) =
      (runner.advance shared.machine).outcome.map (RunnerStep.mk index) := by
  cases made : (runner.advance shared.machine).outcome <;> simp [stepOf, found, made]

/-- A step is made by a runner that is ready, when the machine is running. -/
theorem stepOf_eq_some {move : Move} {step : RunnerStep} (made : shared.stepOf move = some step) :
    ∃ runner, move = .advance step.runner ∧ shared.runners[step.runner]? = some runner ∧
      runner.phase = .ready ∧ shared.machine.halted = false ∧
      step.outcome = shared.machine.step.2 := by
  cases move with
  | spawn => cases made
  | requestStop index => cases made
  | command command => cases made
  | advance index =>
      cases found : shared.runners[index]? with
      | none => simp [stepOf, found] at made
      | some runner =>
          rw [stepOf_advance found, Option.map_eq_some_iff] at made
          obtain ⟨outcome, made, rfl⟩ := made
          exact ⟨runner, rfl, found, Runner.outcome_advance_eq_some_iff.mp made⟩

/-- What a move does to one runner, and the steps that the runner makes in it.  Either the runner
does the next part of its loop, or it makes no step and is at most told to stop. -/
theorem runner_act {index : Nat} {runner : Runner}
    (known : shared.runners[index]? = some runner) (move : Move) :
    ∃ after, (shared.act move).runners[index]? = some after ∧
      ((after = runner ∨ after = runner.requestStop) ∧
          outcomesOf index (shared.stepOf move).toList = [] ∨
        after = (runner.advance shared.machine).runner ∧
          outcomesOf index (shared.stepOf move).toList =
            (runner.advance shared.machine).outcome.toList) := by
  have inside : index < shared.runners.length := (List.getElem?_eq_some_iff.mp known).1
  cases move with
  | spawn =>
      refine ⟨runner, ?_, .inl ⟨.inl rfl, rfl⟩⟩
      rw [act, List.getElem?_append_left inside, known]
  | requestStop other =>
      rw [act, List.getElem?_modify, known]
      by_cases same : other = index
      · exact ⟨runner.requestStop, by simp [same], .inl ⟨.inr rfl, rfl⟩⟩
      · exact ⟨runner, by simp [same], .inl ⟨.inl rfl, rfl⟩⟩
  | command command => exact ⟨runner, known, .inl ⟨.inl rfl, rfl⟩⟩
  | advance other =>
      by_cases same : other = index
      · subst same
        refine ⟨_, ?_, .inr ⟨rfl, ?_⟩⟩
        · rw [act_advance known, List.getElem?_set_self inside]
        · rw [stepOf_advance known, outcomesOf_self]
      · refine ⟨runner, ?_, .inl ⟨.inl rfl, ?_⟩⟩
        · cases found : shared.runners[other]? with
          | none => simpa [act, found] using known
          | some actor => rw [act_advance found, List.getElem?_set_ne same, known]
        · cases found : shared.runners[other]? with
          | none => simp [stepOf, found, outcomesOf]
          | some actor => rw [stepOf_advance found, outcomesOf_other (Ne.symm same)]

/-- What is always the case with the runners of a shared machine that have made some steps. -/
structure Accounts (shared : Shared) (steps : List RunnerStep) : Prop where
  /-- Every step was made by one of the runners. -/
  known : ∀ step ∈ steps, step.runner < shared.runners.length
  /-- Every runner accounts for its own steps. -/
  each : ∀ (index : Nat) (runner : Runner), shared.runners[index]? = some runner →
    runner.Accounts (outcomesOf index steps)
  /-- Together they count every step once. -/
  total : (shared.runners.map fun runner => runner.summary.steps).sum = steps.length

theorem accounts_start (machine : Machine) : Accounts { machine } [] :=
  ⟨by simp, by simp, rfl⟩

/-- If one member of a list grows, the sum grows by as much. -/
theorem sum_map_set {α : Type} (size : α → Nat) {old new : α} {extra : Nat}
    (grown : size new = size old + extra) :
    ∀ {list : List α} {index : Nat}, list[index]? = some old →
      ((list.set index new).map size).sum = (list.map size).sum + extra
  | [], _, found => by simp at found
  | first :: rest, 0, found => by
      cases found
      simp only [List.set_cons_zero, List.map_cons, List.sum_cons]
      omega
  | first :: rest, index + 1, found => by
      have later : ((rest.set index new).map size).sum = (rest.map size).sum + extra :=
        sum_map_set size grown (by simpa using found)
      simp only [List.set_cons_succ, List.map_cons, List.sum_cons, later]
      omega

namespace Accounts

variable {steps : List RunnerStep}

/-- A new runner has made no steps. -/
theorem spawn (accounts : shared.Accounts steps) : (shared.act .spawn).Accounts steps := by
  constructor
  · intro step member
    have := accounts.known step member
    simp only [Shared.act, List.length_append, List.length_singleton]
    omega
  · intro index runner found
    simp only [Shared.act, List.getElem?_append] at found
    split at found
    next => exact accounts.each index runner found
    next outside =>
      -- nobody has made a step under the index of the new runner
      have fresh : outcomesOf index steps = [] := by
        rw [outcomesOf, List.map_eq_nil_iff, List.filter_eq_nil_iff]
        intro step member
        have := accounts.known step member
        simp only [decide_eq_true_eq]
        omega
      rw [fresh, List.mem_singleton.mp (List.mem_of_getElem? found)]
      exact Runner.accounts_start
  · simpa [Shared.act] using accounts.total

theorem requestStop (accounts : shared.Accounts steps) (index : Nat) :
    (shared.act (.requestStop index)).Accounts steps := by
  have kept : (shared.runners.modify index Runner.requestStop).map
      (fun runner => runner.summary.steps) =
        shared.runners.map fun runner => runner.summary.steps := by
    apply List.ext_getElem?
    intro other
    simp only [List.getElem?_map, List.getElem?_modify]
    cases shared.runners[other]? with
    | none => rfl
    | some runner =>
        by_cases same : index = other
        · simp [same, Runner.requestStop]
        · simp [same]
  constructor
  · simpa [Shared.act] using accounts.known
  · intro other runner found
    simp only [Shared.act, List.getElem?_modify, Option.map_eq_map, Option.map_eq_some_iff] at found
    obtain ⟨before, old, rfl⟩ := found
    split
    next => exact (accounts.each other before old).requestStop
    next => exact accounts.each other before old
  · rw [← accounts.total, ← kept]
    rfl

theorem advance (accounts : shared.Accounts steps) {index : Nat} {runner : Runner}
    (found : shared.runners[index]? = some runner) :
    (shared.act (.advance index)).Accounts
      (steps ++ ((runner.advance shared.machine).outcome.map (RunnerStep.mk index)).toList) := by
  have here := (accounts.each index runner found).advance shared.machine
  have inside : index < shared.runners.length := (List.getElem?_eq_some_iff.mp found).1
  rw [act_advance found]
  constructor
  · intro step member
    rw [List.length_set]
    rcases List.mem_append.mp member with old | new
    · exact accounts.known step old
    · obtain ⟨outcome, _, rfl⟩ := Option.map_eq_some_iff.mp (Option.mem_toList.mp new)
      exact inside
  · intro other now known
    rw [outcomesOf_append]
    rw [List.getElem?_set] at known
    split at known
    next same =>
      subst same
      rw [outcomesOf_self, ← Option.some.inj known]
      exact here
    next different =>
      rw [outcomesOf_other (Ne.symm different), List.append_nil]
      exact accounts.each other now known
  · have counted : (runner.advance shared.machine).runner.summary.steps =
        runner.summary.steps + (runner.advance shared.machine).outcome.toList.length := by
      rw [here.steps, (accounts.each index runner found).steps, List.length_append]
    rw [sum_map_set (fun runner : Runner => runner.summary.steps) counted found, accounts.total,
      List.length_append]
    cases (runner.advance shared.machine).outcome <;> rfl

/-- A move adds the step that a runner makes in it, if one does. -/
theorem act (accounts : shared.Accounts steps) (move : Move) :
    (shared.act move).Accounts (steps ++ (shared.stepOf move).toList) := by
  cases move with
  | spawn =>
      rw [show shared.stepOf .spawn = none from rfl, Option.toList_none, List.append_nil]
      exact accounts.spawn
  | requestStop index =>
      rw [show shared.stepOf (.requestStop index) = none from rfl, Option.toList_none,
        List.append_nil]
      exact accounts.requestStop index
  | command command =>
      rw [show shared.stepOf (.command command) = none from rfl, Option.toList_none,
        List.append_nil]
      exact { accounts with }
  | advance index =>
      cases found : shared.runners[index]? with
      | none => simpa [Shared.act, stepOf, found] using accounts
      | some runner =>
          rw [stepOf_advance found]
          exact accounts.advance found

/-- Moves add the steps that the runners make in them. -/
theorem actAll (accounts : shared.Accounts steps) (moves : List Move) :
    (shared.actAll moves).Accounts (steps ++ shared.stepsOf moves) := by
  induction moves generalizing shared steps with
  | nil => simpa [Shared.actAll, stepsOf] using accounts
  | cons move rest hypothesis =>
      rw [stepsOf, ← List.append_assoc]
      exact hypothesis (accounts.act move)

end Accounts

/-! ## Runners out of their loop -/

/-- Whether the runner with the given index is out of its loop. -/
def Finished (shared : Shared) (index : Nat) : Prop :=
  ∃ runner, shared.runners[index]? = some runner ∧ runner.phase = .finished

namespace Finished

variable {index : Nat}

/-- No move brings a runner back into its loop. -/
theorem act (finished : shared.Finished index) (move : Move) :
    (shared.act move).Finished index := by
  obtain ⟨runner, found, out⟩ := finished
  obtain ⟨after, now, ⟨rfl | rfl, _⟩ | ⟨rfl, _⟩⟩ := runner_act found move
  · exact ⟨after, now, out⟩
  · exact ⟨_, now, out⟩
  · refine ⟨_, now, ?_⟩
    rw [Runner.advance_of_finished out]
    exact out

/-- A runner at its end makes no step, whoever moves. -/
theorem ne_of_stepOf (finished : shared.Finished index) {move : Move} {step : RunnerStep}
    (made : shared.stepOf move = some step) : step.runner ≠ index := by
  rintro rfl
  obtain ⟨runner, found, out⟩ := finished
  obtain ⟨actor, _, known, ready, _⟩ := stepOf_eq_some made
  rw [found, Option.some.injEq] at known
  rw [known, ready] at out
  cases out

/-- A runner that is out of its loop makes no step any more. -/
theorem ne_of_mem_stepsOf (finished : shared.Finished index) {moves : List Move} :
    ∀ step ∈ shared.stepsOf moves, step.runner ≠ index := by
  induction moves generalizing shared with
  | nil => simp [stepsOf]
  | cons move rest hypothesis =>
      intro step member
      rw [stepsOf, List.mem_append] at member
      rcases member with now | later
      · exact finished.ne_of_stepOf (Option.mem_toList.mp now)
      · exact hypothesis (finished.act move) step later

end Finished

/-! ## One step -/

section Step

variable {move : Move} {step : RunnerStep}

/-- A step of a runner is a step of the shared machine. -/
theorem machine_of_stepOf (made : shared.stepOf move = some step) :
    (shared.act move).machine = shared.machine.step.1 := by
  obtain ⟨runner, rfl, found, ready, running, _⟩ := stepOf_eq_some made
  rw [act_advance found]
  exact (Runner.advance_of_ready ready running).1

/-- A step of one runner leaves the others as they are. -/
theorem runners_of_stepOf (made : shared.stepOf move = some step) {other : Nat}
    (different : other ≠ step.runner) :
    (shared.act move).runners[other]? = shared.runners[other]? := by
  obtain ⟨runner, rfl, found, _⟩ := stepOf_eq_some made
  rw [act_advance found]
  exact List.getElem?_set_ne (Ne.symm different)

/-- A runner leaves its loop in the step that halts the machine. -/
theorem finished_of_stepOf (made : shared.stepOf move = some step)
    (halted : (shared.act move).machine.halted = true) :
    (shared.act move).Finished step.runner := by
  rw [machine_of_stepOf made] at halted
  obtain ⟨runner, rfl, found, ready, running, _⟩ := stepOf_eq_some made
  have inside : step.runner < shared.runners.length := (List.getElem?_eq_some_iff.mp found).1
  rw [act_advance found]
  exact ⟨_, List.getElem?_set_self inside, (Runner.advance_of_ready ready running).2 halted⟩

/-- A runner that makes no step leaves the machine alone. -/
theorem machine_of_stepOf_eq_none {index : Nat} (none : shared.stepOf (.advance index) = none) :
    (shared.act (.advance index)).machine = shared.machine := by
  cases found : shared.runners[index]? with
  | none => simp [act, found]
  | some runner =>
      rw [stepOf_advance found, Option.map_eq_none_iff] at none
      rw [act_advance found]
      exact Runner.machine_advance_of_none none

end Step

/-- No runner steps a machine that is halted. -/
theorem ne_idle_of_mem_stepsOf {moves : List Move} :
    ∀ step ∈ shared.stepsOf moves, step.outcome ≠ .idle := by
  induction moves generalizing shared with
  | nil => simp [stepsOf]
  | cons move rest hypothesis =>
      intro step member
      rw [stepsOf, List.mem_append] at member
      rcases member with now | later
      · obtain ⟨_, _, _, _, running, same⟩ := stepOf_eq_some (Option.mem_toList.mp now)
        rw [same]
        exact Machine.step_ne_idle running
      · exact hypothesis step later

/-! ## Every interleaving -/

/-- However runners and a front end take turns, no runner steps a halted machine, and the counters
of the runners add up to the steps that were made.  The error of a runner is that of its last step,
so a fault is reported by the runner that met it and by no other.  A move of a runner without a
recorded step leaves the machine alone, and a recorded one is a step of the machine that leaves the
other runners alone.  If the machine is halted after it, the runner makes no step any more, whatever
happens to the machine. -/
theorem runners_account (machine : Machine) (moves : List Move) :
    let start : Shared := { machine }
    let steps := start.stepsOf moves
    let final := start.actAll moves
    (∀ step ∈ steps, step.outcome ≠ .idle) ∧
      (final.runners.map fun runner => runner.summary.steps).sum = steps.length ∧
      (∀ (index : Nat) (runner : Runner), final.runners[index]? = some runner →
        runner.summary.steps = (outcomesOf index steps).length ∧
          ∀ error,
            (runner.summary.error = some error ↔
              (outcomesOf index steps).getLast? = some (.faulted error)) ∧
            (runner.summary.error = some error ↔ ⟨index, .faulted error⟩ ∈ steps)) ∧
      ∀ (first : List Move) (move : Move) (rest : List Move),
        let before := start.actAll first
        let after := before.act move
        (∀ index, move = .advance index → before.stepOf move = none →
          after.machine = before.machine) ∧
          ∀ step, before.stepOf move = some step →
            step.outcome = before.machine.step.2 ∧
              after.machine = before.machine.step.1 ∧
              (∀ other, other ≠ step.runner → after.runners[other]? = before.runners[other]?) ∧
              (after.machine.halted = true →
                ∀ later ∈ after.stepsOf rest, later.runner ≠ step.runner) := by
  intro start steps final
  have accounts : final.Accounts steps := (accounts_start machine).actAll moves
  refine ⟨ne_idle_of_mem_stepsOf, accounts.total, ?_, ?_⟩
  · intro index runner found
    have here := accounts.each index runner found
    refine ⟨here.steps, fun error => ⟨here.error error, ?_⟩⟩
    rw [← here.faulted_mem_iff, mem_outcomesOf_iff]
  · intro first move rest before after
    constructor
    · rintro index rfl none
      exact machine_of_stepOf_eq_none none
    · intro step made
      obtain ⟨_, _, _, _, _, outcome⟩ := stepOf_eq_some made
      refine ⟨outcome, machine_of_stepOf made,
        fun other different => runners_of_stepOf made different, ?_⟩
      intro halted
      exact (finished_of_stepOf made halted).ne_of_mem_stepsOf

/-- Two runners are ready when the first one meets a fault.  The front end resets the machine and
gives it another program, which the second runner steps.  The first one reports the fault and makes
no step any more. -/
theorem runners_account_fault :
    let machine : Machine :=
      { memory := .zero 1 1, program := ⟨[⟨.read, [], [.literal 9], rfl⟩]⟩ }
    let idling : Program := ⟨[⟨.nop, [], [], rfl⟩, ⟨.nop, [], [], rfl⟩]⟩
    let error : ExecutionError := ⟨.read, 1, .tapeReadOutOfBounds 9⟩
    let first : List Move :=
      [.spawn, .spawn, .advance 0, .advance 0, .advance 1, .advance 1]
    let rest : List Move :=
      [.command .reset, .command (.setProgram idling), .advance 1, .advance 0, .advance 0]
    let before := actAll { machine } first
    let final := actAll { machine } (first ++ .advance 0 :: rest)
    stepsOf { machine } (first ++ .advance 0 :: rest) = [⟨0, .faulted error⟩, ⟨1, .executed⟩] ∧
      (∃ one other, final.runners[0]? = some one ∧ final.runners[1]? = some other ∧
        one.summary.error = some error ∧ other.summary.error = none ∧
        one.summary.steps = 1 ∧ other.summary.steps = 1) ∧
      before.stepOf (.advance 0) = some ⟨0, .faulted error⟩ ∧
      ∀ later ∈ (before.act (.advance 0)).stepsOf rest, later.runner ≠ 0 := by
  intro machine idling error first rest before final
  have recorded : stepsOf { machine } (first ++ .advance 0 :: rest) =
      [⟨0, .faulted error⟩, ⟨1, .executed⟩] := by decide +kernel
  have made : before.stepOf (.advance 0) = some ⟨0, .faulted error⟩ := by decide +kernel
  have halted : (before.act (.advance 0)).machine.halted = true := by decide +kernel
  have present : final.runners[0]?.isSome = true := by decide +kernel
  have alsoPresent : final.runners[1]?.isSome = true := by decide +kernel
  obtain ⟨one, atZero⟩ := Option.isSome_iff_exists.mp present
  obtain ⟨other, atOne⟩ := Option.isSome_iff_exists.mp alsoPresent
  obtain ⟨_, _, each, moments⟩ := runners_account machine (first ++ .advance 0 :: rest)
  obtain ⟨oneSteps, oneError⟩ := each 0 one atZero
  obtain ⟨otherSteps, otherError⟩ := each 1 other atOne
  rw [recorded] at oneSteps otherSteps
  refine ⟨recorded, ⟨one, other, atZero, atOne, ?_, ?_, oneSteps, otherSteps⟩, made, ?_⟩
  · rw [(oneError error).2, recorded]
    exact .head _
  · rw [Option.eq_none_iff_forall_ne_some]
    intro wrong reported
    rw [(otherError wrong).2, recorded] at reported
    simp at reported
  · exact ((moments first (.advance 0) rest).2 _ made).2.2.2 halted

end Shared

end Ram
