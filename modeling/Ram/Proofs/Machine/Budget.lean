import Ram.Proofs.Machine.Run

/-!
# Budgets of runs

A run makes as many steps as its budget says, or fewer if the machine halts before.  `Spends` says
which number of steps that is without running the machine: it is within the budget, the machine is
running before each of the steps, and it is halted after them unless they are the whole budget.
There is one such number, and a run makes exactly these steps (`Spends.run_eq`, `spends_run`).

A budget can be cut in two anywhere (`run_add`).  A run looks at the machine before every step, so
the second part of a run that has halted in the first makes no step.  A step of a halted machine
would clear its trace.
-/

namespace Ram.Machine

variable {machine : Machine}

/-! ## The number of steps -/

/-- Whether a run spends the given number of steps out of a budget. -/
structure Spends (machine : Machine) (budget count : Nat) : Prop where
  /-- The budget allows the steps. -/
  within : count ≤ budget
  /-- The machine is running before each of them. -/
  running : ∀ fewer < count, (machine.after fewer).halted = false
  /-- The machine is halted after them if the budget allows more. -/
  halted : count < budget → (machine.after count).halted = true

theorem spends_zero (machine : Machine) : machine.Spends 0 0 := ⟨Nat.le_refl 0, nofun, nofun⟩

theorem spends_of_halted (halted : machine.halted = true) (budget : Nat) :
    machine.Spends budget 0 :=
  ⟨Nat.zero_le budget, nofun, fun _ => halted⟩

theorem Spends.succ {budget count : Nat} (running : machine.halted = false)
    (rest : machine.step.1.Spends budget count) : machine.Spends (budget + 1) (count + 1) where
  within := Nat.succ_le_succ rest.within
  running := by
    intro fewer less
    cases fewer with
    | zero => exact running
    | succ fewer => exact rest.running fewer (Nat.lt_of_succ_lt_succ less)
  halted more := rest.halted (Nat.lt_of_succ_lt_succ more)

theorem spends_run (machine : Machine) (budget : Nat) :
    machine.Spends budget (machine.run budget).2 := by
  induction budget generalizing machine with
  | zero => exact spends_zero machine
  | succ budget hypothesis =>
      cases halted : machine.halted with
      | true =>
          rw [run_of_halted halted]
          exact spends_of_halted halted (budget + 1)
      | false =>
          rw [run_succ_of_running halted]
          exact .succ halted (hypothesis machine.step.1)

/-- A machine that has made the steps of a run is where the run ends. -/
theorem Spends.run_eq {budget count : Nat} (spends : machine.Spends budget count) :
    machine.run budget = (machine.after count, count) := by
  induction count generalizing machine budget with
  | zero =>
      cases budget with
      | zero => rfl
      | succ budget => exact run_of_halted (spends.halted (Nat.succ_pos budget)) (budget + 1)
  | succ count hypothesis =>
      cases budget with
      | zero => exact absurd spends.within (Nat.not_succ_le_zero count)
      | succ budget =>
          have rest : machine.step.1.Spends budget count :=
            { within := Nat.le_of_succ_le_succ spends.within
              running := fun fewer less => spends.running (fewer + 1) (Nat.succ_lt_succ less)
              halted := fun more => spends.halted (Nat.succ_lt_succ more) }
          have running : machine.halted = false := spends.running 0 (Nat.succ_pos count)
          rw [run_succ_of_running running, hypothesis rest]
          rfl

/-- A budget of which something is left can be any other that allows the same steps. -/
theorem Spends.change {budget count other : Nat} (spends : machine.Spends budget count)
    (early : count < budget) (enough : count ≤ other) : machine.Spends other count :=
  ⟨enough, spends.running, fun _ => spends.halted early⟩

/-! ## Two budgets -/

/-- One run after another is a run with both budgets. -/
theorem run_add (machine : Machine) (first second : Nat) :
    machine.run (first + second) =
      (((machine.run first).1.run second).1,
        (machine.run first).2 + ((machine.run first).1.run second).2) := by
  induction first generalizing machine with
  | zero => rw [Nat.zero_add, run_zero, Nat.zero_add]
  | succ first hypothesis =>
      cases halted : machine.halted with
      | true => simp only [run_of_halted halted, Nat.add_zero]
      | false =>
          rw [Nat.add_right_comm, run_succ_of_running halted, run_succ_of_running halted,
            hypothesis, Nat.add_right_comm]

/-- Budgets compose.  A run and then another one are a run with both budgets, step for step.  A run
leaves the machine as so many steps leave it.  If it makes fewer steps than its budget says, then
the machine is halted and was running until the last of them, and every other budget that allows
these steps comes to the same. -/
theorem budgets_compose (machine : Machine) :
    (∀ first second,
      let half := machine.run first
      let rest := half.1.run second
      machine.run (first + second) = (rest.1, half.2 + rest.2)) ∧
    ∀ budget,
      let final := machine.run budget
      final.1 = machine.after final.2 ∧
        (final.2 = budget ∨
          final.2 < budget ∧ final.1.halted = true ∧
            (∀ fewer < final.2, (machine.after fewer).halted = false) ∧
            ∀ other, final.2 ≤ other → machine.run other = final) := by
  refine ⟨run_add machine, fun budget => ?_⟩
  intro final
  have spends : machine.Spends budget final.2 := spends_run machine budget
  have stands : final = (machine.after final.2, final.2) := spends.run_eq
  have place : final.1 = machine.after final.2 := congrArg Prod.fst stands
  refine ⟨place, ?_⟩
  rcases Nat.eq_or_lt_of_le spends.within with whole | early
  · exact .inl whole
  · refine .inr ⟨early, ?_, spends.running, fun other enough => ?_⟩
    · rw [place]
      exact spends.halted early
    · exact (spends.change early enough).run_eq.trans stands.symm

/-- The machine halts with the last step of the first budget.  The second run leaves the trace of
that step alone, which one more step clears. -/
example :
    let machine : Machine :=
      { memory := ⟨7, #[0], #[0]⟩, program := ⟨[⟨.write, [], [.literal 0], rfl⟩]⟩ }
    (machine.run 1).1.run 1 = ((machine.run 2).1, 0) ∧
      (machine.run 2).1.trace.changed = .ofCell 0 ∧ (machine.after 2).trace = {} := by
  decide

end Ram.Machine
