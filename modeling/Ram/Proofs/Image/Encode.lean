import Ram.Image.Encode
import Ram.Proofs.Instruction

/-!
# Programs that have an image

A program has an image exactly when the number of every argument fits 32 bits without a sign,
and the image then holds the word of each instruction (`encode_eq_ok_iff`).  Otherwise encoding
fails at the first argument that does not fit and reports its number (`encode_eq_error_iff`).

`Program.FirstAt` says where the first argument of a kind stands.  Decoding reports its errors
in the same way, so it is stated for an arbitrary property of arguments.
-/

namespace Ram

/-! ## The first argument of a kind -/

/-- An argument with some property stands at a position, and no instruction before the position
has such an argument. -/
structure Program.FirstAt (program : Program) (property : Argument → Prop) (position : Nat)
    (argument : Argument) : Prop where
  given : ∃ instruction, program.get? position = some instruction ∧
    argument ∈ instruction.arguments
  holds : property argument
  before : ∀ earlier < position, ∀ instruction, program.get? earlier = some instruction →
    ∀ other ∈ instruction.arguments, ¬ property other

/-- A check of every instruction that fails on the arguments with some property fails first where
the first such argument stands. -/
theorem Program.inOrder_eq_error_iff_firstAt {ε ε' β : Type} {program : Program}
    {property : Argument → Prop} {check : Nat → Instruction → Except ε β} {place : Nat → ε → ε'}
    {cause : Argument → ε}
    (fails : ∀ position instruction, program.get? position = some instruction →
      ∀ error, check position instruction = .error error ↔
        ∃ argument ∈ instruction.arguments, property argument ∧ error = cause argument)
    {error : ε'} :
    inOrder (fun position instruction => (check position instruction).mapError (place position)) 1
        program.instructions = .error error ↔
      ∃ position argument, program.FirstAt property position argument ∧
        error = place position (cause argument) := by
  have succeeds (position : Nat) (instruction : Instruction)
      (found : program.get? position = some instruction) :
      (∃ result, (check position instruction).mapError (place position) = .ok result) ↔
        ∀ argument ∈ instruction.arguments, ¬ property argument := by
    simp only [mapError_eq_ok_iff, exists_ok_iff, ne_eq, fails position instruction found]
    constructor
    · intro never argument given holds
      exact never (cause argument) ⟨argument, given, holds, rfl⟩
    · rintro none error ⟨argument, given, holds, _⟩
      exact none argument given holds
  simp only [inOrder_eq_error_iff, Nat.add_comm 1]
  constructor
  · rintro ⟨index, instruction, found, failed, before⟩
    obtain ⟨inner, checked, rfl⟩ := mapError_eq_error_iff.mp failed
    obtain ⟨argument, given, holds, rfl⟩ := (fails (index + 1) instruction found inner).mp checked
    refine ⟨index + 1, argument, ⟨⟨instruction, found, given⟩, holds, ?_⟩, rfl⟩
    intro earlier less other otherFound
    cases earlier with
    | zero => cases otherFound
    | succ earlier =>
        apply (succeeds (earlier + 1) other otherFound).mp
        exact before earlier (by omega) other otherFound
  · rintro ⟨position, argument, first, rfl⟩
    obtain ⟨instruction, found, given⟩ := first.given
    cases position with
    | zero => cases found
    | succ index =>
        refine ⟨index, instruction, found, ?_, ?_⟩
        · rw [mapError_eq_error_iff]
          have failed := (fails (index + 1) instruction found (cause argument)).mpr
            ⟨argument, given, first.holds, rfl⟩
          exact ⟨cause argument, failed, rfl⟩
        · intro earlier less other otherFound
          apply (succeeds (earlier + 1) other otherFound).mpr
          exact first.before (earlier + 1) (by omega) other otherFound

namespace Image

/-! ## Encoding an instruction -/

/-- Whether the number of an argument fits 32 bits without a sign. -/
def Fits (argument : Argument) : Prop :=
  0 ≤ numberOf (some argument) ∧ numberOf (some argument) ≤ 0xFFFFFFFF

instance (argument : Argument) : Decidable (Fits argument) :=
  inferInstanceAs (Decidable (_ ∧ _))

theorem fits_iff {argument : Argument} :
    Fits argument ↔ 0 ≤ numberOf (some argument) ∧ numberOf (some argument) < 0x100000000 := by
  unfold Fits
  omega

/-- The word of an instruction whose argument fits. -/
def word (instruction : Instruction) : Word :=
  Word.pack (UInt32.ofNat (numberOf (instruction.argument? 0)).toNat)
    (tagOf (instruction.argument? 0)).code instruction.mnemonic.opcode

theorem encodeInstruction_eq_ok_iff {instruction : Instruction} {result : Word} :
    encodeInstruction instruction = .ok result ↔
      (∀ argument ∈ instruction.arguments, Fits argument) ∧ result = word instruction := by
  rw [instruction.arguments_eq_toList]
  unfold encodeInstruction word
  cases instruction.argument? 0 with
  | none => simp [numberOf, eq_comm]
  | some argument =>
      simp only [Option.toList_some, List.mem_singleton, forall_eq, fits_iff]
      split
      next fits => simp [fits, eq_comm]
      next outside => simp [outside]

theorem encodeInstruction_eq_error_iff {instruction : Instruction} {cause : Cause} :
    encodeInstruction instruction = .error cause ↔
      ∃ argument ∈ instruction.arguments, ¬ Fits argument ∧
        cause = .valueOutOfRange (numberOf (some argument)) := by
  rw [instruction.arguments_eq_toList]
  unfold encodeInstruction
  cases instruction.argument? 0 with
  | none => simp [numberOf]
  | some argument =>
      simp only [Option.toList_some, List.mem_singleton, exists_eq_left, fits_iff]
      split
      next fits => simp [fits]
      next outside => simp [outside, eq_comm]

/-! ## Encoding a program -/

/-- Encoding makes one word after another. -/
theorem encodeFrom_eq_inOrder :
    ∀ (instructions : List Instruction) (position : Nat),
      encodeFrom position instructions =
        inOrder (fun place instruction => (encodeInstruction instruction).mapError (Error.mk place))
          position instructions
  | [], _ => rfl
  | instruction :: rest, position => by
      simp only [encodeFrom, inOrder, encodeFrom_eq_inOrder rest]

/-- A program whose arguments all fit is encoded word by word, and no other program is. -/
theorem encode_eq_ok_iff {program : Program} {image : List Word} :
    program.encode = .ok image ↔
      (∀ instruction ∈ program.instructions, ∀ argument ∈ instruction.arguments, Fits argument) ∧
        image = program.instructions.map word := by
  rw [Program.encode, encodeFrom_eq_inOrder]
  apply inOrder_eq_ok_iff_map
  intro instruction _ position result
  rw [mapError_eq_ok_iff, encodeInstruction_eq_ok_iff]

/-- Encoding fails exactly at the first argument that does not fit, with its number. -/
theorem encode_eq_error_iff {program : Program} {error : Error} :
    program.encode = .error error ↔
      ∃ position argument, program.FirstAt (fun other => ¬ Fits other) position argument ∧
        error = ⟨position, .valueOutOfRange (numberOf (some argument))⟩ := by
  rw [Program.encode, encodeFrom_eq_inOrder]
  exact Program.inOrder_eq_error_iff_firstAt fun _ _ _ _ => encodeInstruction_eq_error_iff

end Image

end Ram
