import Ram.Proofs.Runner.Accounting

/-!
# Stopping a runner

A runner looks at its stop flag twice before it holds the machine, and not again while it holds it.
So a request that comes after the second look lets one more step through, and an earlier one lets
none through.

*One runner.*  `Runner.remaining` is the number of steps that a runner can make after it has been
told to stop.  A part of its loop takes from it what it steps (`Runner.remaining_advance`).

*All moves.*  `Shared.runner_act` says everything that a move can do to one runner.  With it a
runner that has been told to stop keeps to its limit in every move (`Stopping.act`) and in every
list of moves (`Stopping.length_le`), and a runner that is out of its loop stays as it is
(`Ended.act`).
-/

namespace Ram

/-! ## One runner -/

namespace Runner

variable {runner : Runner}

/-- What those get who wait for a runner.  They wait while the runner is in its loop, and then they
get its summary. -/
def result? (runner : Runner) : Option Summary :=
  if runner.isFinished then some runner.summary else none

/-- A runner has a result exactly at its end, and the result is its summary. -/
theorem result?_eq_some_iff {summary : Summary} :
    runner.result? = some summary ↔ runner.phase = .finished ∧ runner.summary = summary := by
  simp [result?, isFinished]

/-- The number of steps that a runner can still make after it has been told to stop. -/
def remaining (runner : Runner) : Nat := if runner.phase = .ready then 1 else 0

/-- A runner that is told to stop has one more step to make at most. -/
theorem remaining_le_one (runner : Runner) : runner.remaining ≤ 1 := by
  unfold remaining
  split <;> omega

/-- Only a runner that has already looked for a stop has a step to make. -/
theorem remaining_of_ne_ready (early : runner.phase ≠ .ready) : runner.remaining = 0 := if_neg early

/-- A part of the loop of a runner that has been told to stop takes a step from those that
remain, if it makes one. -/
theorem remaining_advance (stopped : runner.stopRequested = true) (machine : Machine) :
    (runner.advance machine).runner.stopRequested = true ∧
      (runner.advance machine).outcome.toList.length +
        (runner.advance machine).runner.remaining ≤ runner.remaining := by
  unfold advance
  cases phase : runner.phase with
  | starting => simp [unlessStopped, stopped, remaining]
  | pausing => simp [unlessStopped, stopped, remaining]
  | ready =>
      -- after the step the runner is at the start of its loop or out of it
      cases halted : machine.halted with
      | true => simp [hold, halted, stopped, remaining]
      | false =>
          cases stops : machine.step.1.halted with
          | true => simp [hold, halted, stops, stopped, remaining, phase]
          | false => simp [hold, halted, stops, stopped, remaining, phase]
  | finished => simp [stopped]

end Runner

/-! ## All moves -/

namespace Shared

variable {shared : Shared} {index limit : Nat} {runner : Runner}

/-- What comes later starts from where the earlier moves lead. -/
theorem stepsOf_append (shared : Shared) (first second : List Move) :
    shared.stepsOf (first ++ second) =
      shared.stepsOf first ++ (shared.actAll first).stepsOf second := by
  induction first generalizing shared with
  | nil => rfl
  | cons move rest hypothesis =>
      rw [List.cons_append, stepsOf, hypothesis, stepsOf, List.append_assoc]
      rfl

theorem actAll_append (shared : Shared) (first second : List Move) :
    shared.actAll (first ++ second) = (shared.actAll first).actAll second :=
  List.foldl_append

/-! ### Runners that have been told to stop -/

/-- Whether the runner with the given index has been told to stop and no more steps remain for it
than the limit says. -/
def Stopping (shared : Shared) (index limit : Nat) : Prop :=
  ∃ runner, shared.runners[index]? = some runner ∧ runner.stopRequested = true ∧
    runner.remaining ≤ limit

/-- Once it is told to stop, a runner has no more steps than those that remain. -/
theorem stopping_requestStop (known : shared.runners[index]? = some runner) :
    (shared.act (.requestStop index)).Stopping index runner.remaining :=
  ⟨runner.requestStop, by simp [act, known], rfl, Nat.le_refl _⟩

namespace Stopping

/-- A move takes from the limit what the runner steps in it. -/
theorem act (stopping : shared.Stopping index limit) (move : Move) :
    ∃ rest, (shared.act move).Stopping index rest ∧
      (outcomesOf index (shared.stepOf move).toList).length + rest ≤ limit := by
  obtain ⟨runner, known, stopped, remains⟩ := stopping
  obtain ⟨after, now, ⟨rfl | rfl, none⟩ | ⟨rfl, steps⟩⟩ := runner_act known move
  · exact ⟨limit, ⟨after, now, stopped, remains⟩, by simp [none]⟩
  · exact ⟨limit, ⟨_, now, rfl, remains⟩, by simp [none]⟩
  · obtain ⟨still, fewer⟩ := Runner.remaining_advance stopped shared.machine
    refine ⟨_, ⟨_, now, still, Nat.le_refl _⟩, ?_⟩
    rw [steps]
    exact Nat.le_trans fewer remains

/-- However the moves go on, the runner makes no more steps than its limit says. -/
theorem length_le (stopping : shared.Stopping index limit) (moves : List Move) :
    (outcomesOf index (shared.stepsOf moves)).length ≤ limit := by
  induction moves generalizing shared limit with
  | nil => exact Nat.zero_le limit
  | cons move rest hypothesis =>
      obtain ⟨fewer, later, enough⟩ := stopping.act move
      rw [stepsOf, outcomesOf_append, List.length_append]
      have := hypothesis later
      omega

end Stopping

/-! ### Runners out of their loop -/

/-- Whether those who wait for the runner with the given index have got its summary. -/
def Ended (shared : Shared) (index : Nat) (summary : Summary) : Prop :=
  ∃ runner, shared.runners[index]? = some runner ∧ runner.result? = some summary

namespace Ended

variable {summary : Summary}

theorem finished (ended : shared.Ended index summary) : shared.Finished index := by
  obtain ⟨runner, known, result⟩ := ended
  exact ⟨runner, known, (Runner.result?_eq_some_iff.mp result).1⟩

/-- A runner that is out of its loop has nothing to do any more. -/
theorem act_advance_eq (ended : shared.Ended index summary) :
    shared.act (.advance index) = shared := by
  obtain ⟨runner, known, result⟩ := ended
  rw [act_advance known, Runner.advance_of_finished (Runner.result?_eq_some_iff.mp result).1]
  obtain ⟨inside, rfl⟩ := List.getElem?_eq_some_iff.mp known
  rw [List.set_getElem_self inside]

theorem act (ended : shared.Ended index summary) (move : Move) :
    (shared.act move).Ended index summary := by
  obtain ⟨runner, known, result⟩ := ended
  obtain ⟨after, now, ⟨rfl | rfl, _⟩ | ⟨rfl, _⟩⟩ := runner_act known move
  · exact ⟨after, now, result⟩
  · exact ⟨_, now, result⟩
  · refine ⟨_, now, ?_⟩
    rw [Runner.advance_of_finished (Runner.result?_eq_some_iff.mp result).1]
    exact result

theorem actAll (ended : shared.Ended index summary) (moves : List Move) :
    (shared.actAll moves).Ended index summary := by
  induction moves generalizing shared with
  | nil => exact ended
  | cons move rest hypothesis => exact hypothesis (ended.act move)

/-- A runner that has ended makes no step. -/
theorem outcomesOf_eq_nil (ended : shared.Ended index summary) (moves : List Move) :
    outcomesOf index (shared.stepsOf moves) = [] := by
  rw [outcomesOf, List.map_eq_nil_iff, List.filter_eq_nil_iff]
  intro step member
  simpa using ended.finished.ne_of_mem_stepsOf step member

end Ended

/-! ## Every interleaving -/

/-- However a runner, its client and the other users of the machine take turns: after a request to
stop the runner makes at most one more step, and none if it has not looked at the flag for the
second time.  Once it is out of its loop, and so once anyone who waits for it has got its summary,
it does nothing any more, and the summary counts all steps that it made.  A move of the runner
without a recorded step leaves the machine alone. -/
theorem steps_after_requestStop {machine : Machine} {past : List Move} {index : Nat}
    {runner : Runner} (known : (actAll { machine } past).runners[index]? = some runner)
    (future : List Move) :
    let now := actAll { machine } past
    let asked := now.act (.requestStop index)
    let later := now.actAll future
    (outcomesOf index (asked.stepsOf future)).length ≤ 1 ∧
      (runner.phase ≠ .ready → outcomesOf index (asked.stepsOf future) = []) ∧
      (∀ summary, runner.result? = some summary →
        outcomesOf index (now.stepsOf future) = [] ∧ later.act (.advance index) = later ∧
          later.Ended index summary ∧
          summary.steps = (outcomesOf index (stepsOf { machine } (past ++ future))).length) ∧
      (now.stepOf (.advance index) = none →
        (now.act (.advance index)).machine = now.machine) := by
  intro now asked later
  have limit := (stopping_requestStop known).length_le future
  refine ⟨Nat.le_trans limit runner.remaining_le_one, fun early => ?_, fun summary result => ?_,
    machine_of_stepOf_eq_none⟩
  · rw [Runner.remaining_of_ne_ready early] at limit
    exact List.length_eq_zero_iff.mp (Nat.le_zero.mp limit)
  · have ended : now.Ended index summary := ⟨runner, known, result⟩
    have accounts := ((accounts_start machine).actAll past).each index runner known
    have none := ended.outcomesOf_eq_nil future
    refine ⟨none, (ended.actAll future).act_advance_eq, ended.actAll future, ?_⟩
    rw [stepsOf_append, outcomesOf_append, none, List.append_nil,
      ← (Runner.result?_eq_some_iff.mp result).2]
    exact accounts.steps

/-- A runner on a program without an end.  A request right before it holds the machine lets one
step through, and a request before its second look lets none through.  After the first request the
runner leaves its loop at its next look and reports one step, also after a reset by the front
end. -/
theorem steps_after_requestStop_endless :
    let machine : Machine :=
      { memory := .zero 0 1, program := ⟨[⟨.jump, ["again"], [.label "again" 1], rfl⟩]⟩ }
    let early : List Move := [.spawn, .advance 0]
    let late := early ++ [.advance 0]
    let gone := late ++ [.requestStop 0, .advance 0, .advance 0]
    let future : List Move := [.advance 0, .command .reset, .advance 0, .advance 0]
    let asked (past : List Move) := (actAll { machine } past).act (.requestStop 0)
    (outcomesOf 0 ((asked late).stepsOf future)).length = 1 ∧
      (outcomesOf 0 ((asked late).stepsOf future)).length ≤ 1 ∧
      outcomesOf 0 ((asked early).stepsOf future) = [] ∧
      (actAll { machine } (gone ++ future)).Ended 0 { steps := 1 } ∧
      outcomesOf 0 (stepsOf (actAll { machine } gone) future) = [] := by
  intro machine early late gone future asked
  have oneStep : (outcomesOf 0 ((asked late).stepsOf future)).length = 1 := by decide +kernel
  have pausing : (actAll { machine } early).runners[0]? = some { phase := .pausing } := by
    decide +kernel
  have ready : (actAll { machine } late).runners[0]? = some { phase := .ready } := by
    decide +kernel
  have finished : (actAll { machine } gone).runners[0]? =
      some { phase := .finished, stopRequested := true, summary := { steps := 1 } } := by
    decide +kernel
  obtain ⟨_, nothing, _⟩ := steps_after_requestStop pausing future
  obtain ⟨atMostOne, _⟩ := steps_after_requestStop ready future
  obtain ⟨_, _, ended, _⟩ := steps_after_requestStop finished future
  obtain ⟨none, _, same, _⟩ := ended { steps := 1 } rfl
  refine ⟨oneStep, atMostOne, nothing (by decide), ?_, none⟩
  rw [actAll_append]
  exact same

end Shared

end Ram
