import Ram.Sample
import Ram.Assembly.Assemble
import Mathlib.Algebra.Ring.Nat

/-!
# The sample programs

The programs count and walk with numbers that they keep as values.  Below 2^63 different numbers
are different values, and none of them is negative.

Each sample is assembled once, to instructions with the targets of the labels.  What the programs
do is in the modules about each of them.
-/

namespace Ram

/-! ## Numbers as values -/

/-- Numbers of 63 bits are different values if they are different. -/
theorem ofNat_ne_ofNat {first second : Nat} (small : first < 2 ^ 63) (alsoSmall : second < 2 ^ 63)
    (different : first ≠ second) : Int64.ofNat first ≠ Int64.ofNat second := by
  intro same
  have equal := congrArg Int64.toInt same
  rw [Int64.toInt_ofNat_of_lt small, Int64.toInt_ofNat_of_lt alsoSmall] at equal
  exact different (Int.ofNat.inj equal)

theorem zero_le_ofNat {number : Nat} (small : number < 2 ^ 63) : 0 ≤ Int64.ofNat number := by
  rw [Int64.le_iff_toInt_le, Int64.toInt_ofNat_of_lt small]
  exact Int.natCast_nonneg number

/-! ## Instructions -/

namespace Sample

namespace Multiply

/-- The instructions of the multiplication program. -/
def code : Program :=
  ⟨[⟨.load, [], [.register 2], rfl⟩,
    ⟨.store, [], [.register 3], rfl⟩,
    ⟨.load, ["loop"], [.register 3], rfl⟩,
    ⟨.jzero, [], [.label "done" 11], rfl⟩,
    ⟨.sub, [], [.literal 1], rfl⟩,
    ⟨.store, [], [.register 3], rfl⟩,
    ⟨.read, [], [.literal 0], rfl⟩,
    ⟨.add, [], [.register 1], rfl⟩,
    ⟨.write, [], [.literal 0], rfl⟩,
    ⟨.jump, [], [.label "loop" 3], rfl⟩,
    ⟨.halt, ["done"], [], rfl⟩]⟩

set_option maxRecDepth 4096 in
/-- The source of the first sample assembles to its code. -/
theorem assemble_multiply : assemble multiply = .ok code := by
  -- the characters are taken from the literal, since unpacking a string is slow
  have spelled : multiply = String.ofList _ := rfl
  rw [assemble, spelled, String.toList_ofList]
  decide +kernel

end Multiply

namespace DoubleTape

/-- The instructions of the program that doubles the tape. -/
def code : Program :=
  ⟨[⟨.load, ["next"], [.register 2], rfl⟩,
    ⟨.sub, [], [.register 1], rfl⟩,
    ⟨.jzero, [], [.label "end" 12], rfl⟩,
    ⟨.read, [], [.register 2], rfl⟩,
    ⟨.store, [], [.register 3], rfl⟩,
    ⟨.add, [], [.register 3], rfl⟩,
    ⟨.write, [], [.register 2], rfl⟩,
    ⟨.load, [], [.register 2], rfl⟩,
    ⟨.add, [], [.literal 1], rfl⟩,
    ⟨.store, [], [.register 2], rfl⟩,
    ⟨.jump, [], [.label "next" 1], rfl⟩,
    ⟨.halt, ["end"], [], rfl⟩]⟩

set_option maxRecDepth 4096 in
/-- The source of the second sample assembles to its code. -/
theorem assemble_doubleTape : assemble doubleTape = .ok code := by
  have spelled : doubleTape = String.ofList _ := rfl
  rw [assemble, spelled, String.toList_ofList]
  decide +kernel

end DoubleTape

end Sample

end Ram
