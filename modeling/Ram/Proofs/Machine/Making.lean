import Ram.Proofs.Machine.Bounds
import Ram.Proofs.Machine.InPlace

/-!
# Making a machine

The sizes of a machine are words, and the bank has one register more than the machine has general
ones.  For all numbers of registers but the largest the bank has an accumulator, and then the
machine that is made is one with zeros put in place (`InPlace.eq_inPlace_of_create`).  Whatever is
done with it, it does not crash and keeps its sizes (`InPlace.Consistent`), and what is said of
reachable machines holds of it (`InPlace.exists_reachable_of_create`).

For the largest number the sum wraps around.  The bank is empty then, and the machine is made all
the same (`InPlace.registers_of_create_largest`).  The first command that needs the accumulator
crashes.
-/

namespace Ram

namespace InPlace

variable {tapeLength registerCount : UInt64} {made : InPlace}

/-! ## The bank -/

theorem toNat_add_one_of_ne (fits : registerCount.toNat + 1 ≠ UInt64.size) :
    (registerCount + 1).toNat = registerCount.toNat + 1 := by
  have small : registerCount.toNat < UInt64.size := registerCount.toNat_lt
  rw [UInt64.toNat_add]
  exact Nat.mod_eq_of_lt (Nat.lt_of_le_of_ne small fits)

/-- When a machine is made, and which one. -/
theorem create_eq_made_iff :
    create tapeLength registerCount = .made made ↔
      registerCount.toNat ≠ 0 ∧ tapeLength.toNat ≤ maxCells ∧
        (registerCount + 1).toNat ≤ maxCells ∧
        { registers := Array.replicate (registerCount + 1).toNat 0
          tape := Array.replicate tapeLength.toNat 0 } = made := by
  have refused : registerCount < 1 ↔ registerCount.toNat = 0 := by
    rw [UInt64.lt_iff_toNat_lt]
    exact Nat.lt_one_iff
  unfold create
  split
  next none => simp [refused.mp none]
  next some =>
    have positive : registerCount.toNat ≠ 0 := fun zero => some (refused.mpr zero)
    split
    next long => simp [Nat.not_le.mpr long]
    next short =>
      split
      next many => simp [Nat.not_le.mpr many, -UInt64.toNat_add]
      next few => simp [positive, Nat.not_lt.mp short, Nat.not_lt.mp few, -UInt64.toNat_add]

/-- Unless the sum wraps around, the machine that is made is one with zeros, put in place. -/
theorem eq_inPlace_of_create (created : create tapeLength registerCount = .made made)
    (fits : registerCount.toNat + 1 ≠ UInt64.size) :
    made = ({ memory := .zero tapeLength.toNat registerCount.toNat } : Machine).inPlace := by
  obtain ⟨_, _, _, rfl⟩ := create_eq_made_iff.mp created
  rw [toNat_add_one_of_ne fits]
  simp [Machine.inPlace, Memory.registers, Memory.zero, ← List.toArray_replicate,
    List.replicate_succ]

/-- Unless the sum wraps around, commands lead from a machine that is made to reachable machines
that are put in place. -/
theorem exists_reachable_of_create (created : create tapeLength registerCount = .made made)
    (fits : registerCount.toNat + 1 ≠ UInt64.size) {commands : List Command} {reached : InPlace}
    {replies : List Reply} (applied : made.applyAll commands = some (reached, replies)) :
    ∃ machine : Machine, machine.Reachable ∧ reached = machine.inPlace := by
  have positive := (create_eq_made_iff.mp created).1
  obtain rfl := eq_inPlace_of_create created fits
  rw [Machine.applyAll_inPlace] at applied
  cases applied
  exact ⟨_, ⟨_, _, commands, Nat.one_le_iff_ne_zero.mpr positive, rfl⟩, rfl⟩

/-- What is always the case with a machine that was made with the given sizes. -/
structure Consistent (tapeLength registerCount : Nat) (machine : InPlace) : Prop where
  /-- The tape has its length. -/
  tape : machine.tape.size = tapeLength
  /-- The bank has the accumulator and the general registers. -/
  registers : machine.registers.size = registerCount + 1
  /-- The program counter is a position. -/
  counter : 1 ≤ machine.programCounter
  /-- A halted machine is at the first instruction. -/
  atStart : machine.halted = true → machine.programCounter = 1
  /-- A machine with an error is halted. -/
  error : machine.lastError ≠ none → machine.halted = true
  /-- What the last step read is there. -/
  read : machine.trace.read.Within tapeLength registerCount
  /-- What the last step wrote is there. -/
  changed : machine.trace.changed.Within tapeLength registerCount

theorem Consistent.inPlace {machine : Machine} {tapeLength registerCount : Nat}
    (consistent : machine.Consistent tapeLength registerCount) :
    machine.inPlace.Consistent tapeLength registerCount :=
  { consistent with
    tape := consistent.tape
    registers := by
      show machine.memory.registers.toArray.size = _
      rw [Memory.size_registers, consistent.general] }

end InPlace

end Ram
