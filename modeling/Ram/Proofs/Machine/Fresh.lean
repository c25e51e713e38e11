import Ram.Proofs.InOrder
import Ram.Proofs.Machine.Making

/-!
# Fresh machines

A machine that was just made and has made no step is settled by the size of its bank, its program
and its tape (`InPlace.fresh`).  There are two ways to come by one.

*Loading.*  Values are written to the tape cell by cell.  That takes as many cells as there are
values (`loadTape_of_fits`), and where the tape is too short the first address behind it is refused
(`loadTape_of_long`).

*Resetting.*  A reset keeps the sizes, the program and the tape, and nothing else
(`reset_eq_fresh`).  The sizes never change, so the machine could have been made anew instead,
whatever was done with it before.  That is so even for a bank without a register.
-/

namespace Ram

namespace InPlace

variable {machine : InPlace} {address : Nat} {values : List Value}

/-! ## Loading a tape -/

/-- The machine with other values in the cells from the given address on. -/
def overwrite (machine : InPlace) (address : Nat) (values : List Value) : InPlace :=
  let cells := machine.tape.toList
  { machine with
    tape := (cells.take address ++ values ++ cells.drop (address + values.length)).toArray }

@[simp] theorem overwrite_nil (machine : InPlace) (address : Nat) :
    machine.overwrite address [] = machine := by
  simp [overwrite]

/-- Writing some cells is writing the first one and then the others. -/
theorem overwrite_cons (inside : address < machine.tape.size) (value : Value)
    (rest : List Value) :
    machine.overwrite address (value :: rest) =
      ({ machine with tape := machine.tape.setIfInBounds address value } : InPlace).overwrite
        (address + 1) rest := by
  have inside : address < machine.tape.toList.length := by simpa using inside
  have before : (machine.tape.toList.set address value).take (address + 1) =
      machine.tape.toList.take address ++ [value] := by
    rw [List.take_succ_eq_append_getElem (by simpa using inside), List.getElem_set_self,
      List.take_set_of_le (Nat.le_refl address)]
  have behind : address + (value :: rest).length = address + 1 + rest.length := by
    simp only [List.length_cons]
    omega
  simp only [overwrite, Array.toList_setIfInBounds, before, behind, List.append_assoc,
    List.singleton_append]
  rw [List.drop_set_of_lt (by omega)]

theorem setTape_of_lt (inside : address < machine.tape.size) (value : Value) :
    machine.setTape address value =
      .ok { machine with tape := machine.tape.setIfInBounds address value } :=
  if_neg (Nat.not_le.mpr inside)

theorem loadTape_cons_of_lt (inside : address < machine.tape.size) (value : Value)
    (rest : List Value) :
    machine.loadTape address (value :: rest) =
      ({ machine with tape := machine.tape.setIfInBounds address value } : InPlace).loadTape
        (address + 1) rest := by
  rw [loadTape, setTape_of_lt inside]
  rfl

/-- Values that fit are put one after another. -/
theorem loadTape_of_fits (fits : address + values.length ≤ machine.tape.size) :
    machine.loadTape address values = .ok (machine.overwrite address values) := by
  induction values generalizing machine address with
  | nil => simp [loadTape]
  | cons value rest hypothesis =>
      rw [List.length_cons] at fits
      have inside : address < machine.tape.size := by omega
      rw [loadTape_cons_of_lt inside, overwrite_cons inside]
      apply hypothesis
      rw [Array.size_setIfInBounds]
      omega

/-- The replies to writing cell by cell say that all of them were there. -/
theorem applyAll_setTape {loaded : InPlace}
    (success : machine.loadTape address values = .ok loaded) :
    machine.applyAll (values.mapIdx fun index => .setTape (address + index)) =
      some (loaded, List.replicate values.length .done) := by
  induction values generalizing machine address with
  | nil =>
      cases success
      rfl
  | cons value rest hypothesis =>
      obtain ⟨next, written, others⟩ := bind_eq_ok_iff.mp success
      have later := hypothesis others
      simp only [Nat.add_assoc, Nat.add_comm 1] at later
      rw [List.mapIdx_cons]
      refine applyAll_cons_eq_some_iff.mpr ⟨next, .done, _, ?_, later, List.replicate_succ⟩
      simp [apply, written, edited]

/-! ## Fresh machines -/

/-- A machine that has just been made with a bank of some size and was given a program and a
tape. -/
def fresh (bank : Nat) (program : Program) (tape : List Value) : InPlace :=
  { registers := Array.replicate bank 0, tape := tape.toArray, program }

theorem create_eq_made_iff_fresh {tapeLength registerCount : UInt64} :
    create tapeLength registerCount = .made machine ↔
      registerCount.toNat ≠ 0 ∧ tapeLength.toNat ≤ maxCells ∧
        (registerCount + 1).toNat ≤ maxCells ∧
        fresh (registerCount + 1).toNat {} (List.replicate tapeLength.toNat 0) = machine := by
  rw [create_eq_made_iff, fresh, List.toArray_replicate]

/-- What a reset leaves is fresh. -/
theorem reset_eq_fresh (machine : InPlace) :
    machine.reset = fresh machine.registers.size machine.program machine.tape.toList := by
  rw [reset, fresh, Array.map_const']

/-- Values loaded into a fresh machine are the first cells of its tape. -/
theorem loadTape_fresh {bank : Nat} {program : Program} {tape : List Value}
    (fits : values.length ≤ tape.length) :
    (fresh bank program tape).loadTape 0 values =
      .ok (fresh bank program (values ++ tape.drop values.length)) := by
  rw [loadTape_of_fits (by simpa [fresh] using fits)]
  simp [fresh, overwrite]

theorem reset_reset (machine : InPlace) : machine.reset.reset = machine.reset := by
  simp [reset_eq_fresh, fresh]

/-- Resetting a machine is as good as making it anew.  Whatever was done with a machine, another
one of the same sizes that is given its program and then the values of its cells one after another,
none of which is refused, is the machine that a reset gives.  So a second reset changes nothing, and
nothing that is done later can tell the two apart. -/
theorem reset_eq_rebuilt {tapeLength registerCount : UInt64} {made reached : InPlace}
    {commands : List Command} {replies : List Reply}
    (created : create tapeLength registerCount = .made made)
    (applied : made.applyAll commands = some (reached, replies)) :
    ∃ rebuilt answers,
      made.applyAll (.setProgram reached.program :: reached.tape.toList.mapIdx .setTape) =
          some (rebuilt, answers) ∧
        (∀ reply ∈ answers, reply = .done) ∧ rebuilt = reached.reset ∧
        reached.reset.reset = reached.reset ∧
        ∀ later, rebuilt.applyAll later = reached.reset.applyAll later := by
  obtain ⟨bank, length⟩ := sameSizes_of_applyAll applied
  obtain ⟨_, _, _, rfl⟩ := create_eq_made_iff_fresh.mp created
  simp only [fresh, Array.size_replicate, List.size_toArray, List.length_replicate] at bank length
  -- the values of all cells take the place of the zeros
  have loads : (fresh (registerCount + 1).toNat reached.program
      (List.replicate tapeLength.toNat 0)).loadTape 0 reached.tape.toList = .ok reached.reset := by
    rw [loadTape_fresh (by simp [length]), Array.length_toList, length, reset_eq_fresh, bank]
    simp
  have written := applyAll_setTape loads
  simp only [Nat.zero_add] at written
  refine ⟨reached.reset, .done :: List.replicate reached.tape.toList.length .done,
    applyAll_cons_eq_some_iff.mpr ⟨_, .done, _, rfl, written, rfl⟩, ?_, rfl, reset_reset reached,
    fun _ => rfl⟩
  intro reply given
  rw [← List.replicate_succ] at given
  exact List.eq_of_mem_replicate given

/-- The machine has written a cell and failed, an edit was refused, and the program is another one
by then. -/
theorem reset_eq_rebuilt_fault :
    let failing : Program :=
      ⟨[⟨.write, [], [.literal 1], rfl⟩, ⟨.read, [], [.register 1], rfl⟩]⟩
    let other : Program := ⟨[⟨.nop, [], [], rfl⟩, ⟨.load, [], [.register 1], rfl⟩]⟩
    let made : InPlace := { registers := #[0, 0], tape := #[0, 0] }
    let commands : List Command :=
      [.setProgram failing, .setAccumulator 3, .setRegister 1 9, .setTape 4 0, .run 5,
        .setProgram other]
    let reached : InPlace :=
      { registers := #[3, 9]
        tape := #[0, 3]
        program := other
        halted := true
        trace := { read := { register := some 1 } }
        lastError := some ⟨.read, 2, .tapeReadOutOfBounds 9⟩ }
    let replies : List Reply :=
      [.done, .done, .done, .refused (.tapeAddressOutOfRange 4), .steps 2, .done]
    create 2 1 = .made made ∧ made.applyAll commands = some (reached, replies) ∧
      reached.reset = fresh 2 other [0, 3] ∧ reached.reset.reset = reached.reset ∧
      made.applyAll [.setProgram other, .setTape 0 0, .setTape 1 3] =
        some (reached.reset, [.done, .done, .done]) := by
  intro failing other made commands reached replies
  have created : create 2 1 = .made made := by decide +kernel
  have applied : made.applyAll commands = some (reached, replies) := by decide +kernel
  have rebuilt : made.applyAll [.setProgram other, .setTape 0 0, .setTape 1 3] =
      some (fresh 2 other [0, 3], [.done, .done, .done]) := by decide +kernel
  obtain ⟨_, _, carriedOut, _, same, again, _⟩ := reset_eq_rebuilt created applied
  change made.applyAll [.setProgram other, .setTape 0 0, .setTape 1 3] = _ at carriedOut
  rw [rebuilt] at carriedOut
  cases carriedOut
  exact ⟨created, applied, same.symm, again, same ▸ rebuilt⟩

end InPlace

end Ram
