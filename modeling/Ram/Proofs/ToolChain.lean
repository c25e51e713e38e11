import Ram.Proofs.Assembly.RoundTrip
import Ram.Proofs.Image.Decode

/-!
# From source to image and back

A program is *contained* when its labels point at its own instructions and its literals are not
negative.  Programs of a source are contained, and so are programs of an image.

An image calls every label after the position that it points at.  Assembly can read such a name,
no two positions share one, and the name is attached where the label points.  So the program
that an image keeps of a contained program is legible (`legible_canonical`), and assembly reads
its text back unless a literal is too large.  A literal of an image may have 32 bits and a
literal of a source only 31, so this does happen to a decoded program, but not to one that came
of a source in the first place.
-/

namespace Ram

open Assembly Text

/-! ## Contained programs -/

/-- Whether no label of the program points outside it and no literal is negative. -/
structure Program.Contained (program : Program) : Prop where
  nonnegative : ∀ instruction ∈ program.instructions, ∀ value,
    Argument.literal value ∈ instruction.arguments → 0 ≤ value.toInt
  inside : ∀ instruction ∈ program.instructions, ∀ argument ∈ instruction.arguments,
    Image.Inside program.length argument

/-- The labels of a printable program point into it. -/
theorem Assembly.Printable.contained {program : Program} (printable : Printable program) :
    program.Contained := by
  constructor
  · intro instruction member value given
    exact (printable.literals instruction member value given).1
  · intro instruction member argument given
    cases argument with
    | literal value => trivial
    | register number => trivial
    | label name position =>
        obtain ⟨target, found, _⟩ := printable.targets instruction member name position given
        rw [Image.inside_label, ← Program.isSome_get?_iff, found]
        rfl

/-- The labels of a decoded program point into it. -/
theorem Program.contained_of_decode {image : List Word} {program : Program}
    (decoded : decode image = .ok program) : program.Contained := by
  obtain ⟨encoded, inside, _⟩ := Image.decode_eq_ok_iff.mp decoded
  obtain ⟨fits, _⟩ := Image.encode_eq_ok_iff.mp encoded
  exact ⟨fun instruction member value given => (fits instruction member _ given).1, inside⟩

/-! ## Names of positions -/

namespace Image

theorem toList_labelName (target : Nat) :
    (labelName target).toList = 'l' :: Nat.toDigits 10 target := by
  simp [labelName]

/-- Labels with different targets have different names. -/
theorem labelName_injective : Function.Injective labelName := by
  intro first second same
  have digits := congrArg String.toList same
  rw [toList_labelName, toList_labelName, List.cons.injEq] at digits
  have numbers := congrArg (Numeral.natural? 10) digits.2
  simpa using numbers

theorem isLabelText_labelName (target : Nat) : IsLabelText (labelName target).toList := by
  rw [toList_labelName]
  constructor
  · exact ⟨'l', _, rfl, by decide, by decide⟩
  · exact List.forall_mem_cons.mpr ⟨by decide, (solid_toDigits target).plain⟩
  · rintro ⟨c, rest, same, _⟩
    exact absurd (List.cons.inj same).1 (by decide)
  · apply lowercase_of_small
    exact List.forall_mem_cons.mpr ⟨by decide, fun c member => isSmall_of_mem_toDigits member⟩

end Image

/-! ## Programs as an image keeps them -/

theorem Argument.canonical_eq_literal_iff {argument : Argument} {value : Value} :
    argument.canonical = .literal value ↔ argument = .literal value := by
  cases argument with
  | literal other => rfl
  | register number => simp [canonical]
  | label name position => simp [canonical]

theorem Argument.canonical_eq_label_iff {argument : Argument} {name : String} {position : Nat} :
    argument.canonical = .label name position ↔
      (∃ other, argument = .label other position) ∧ name = Image.labelName position := by
  cases argument with
  | literal value => simp [canonical]
  | register number => simp [canonical]
  | label other target =>
      constructor
      · intro same
        cases same
        exact ⟨⟨other, rfl⟩, rfl⟩
      · rintro ⟨⟨_, same⟩, rfl⟩
        cases same
        rfl

namespace Program

variable {program : Program}

/-- The labels at a position of the program as an image keeps it. -/
def labelsFor (program : Program) (position : Nat) : List String :=
  if program.Targets position then [Image.labelName position] else []

/-- An instruction has a label exactly if there is a jump to it, and only one. -/
theorem mem_labelsFor_iff {position : Nat} {name : String} :
    name ∈ program.labelsFor position ↔
      program.Targets position ∧ name = Image.labelName position := by
  unfold labelsFor
  split
  next targeted => simp [targeted]
  next free => simp [free]

/-- The canonical program has the canonical instructions, each with the labels for its place. -/
theorem getElem?_canonical (program : Program) (index : Nat) :
    program.canonical.instructions[index]? =
      program.instructions[index]?.map fun instruction =>
        instruction.canonical (program.labelsFor (index + 1)) := by
  rw [canonical, List.getElem?_mapIdx]
  rfl

theorem exists_of_getElem?_canonical {index : Nat} {instruction : Instruction}
    (found : program.canonical.instructions[index]? = some instruction) :
    ∃ original, program.instructions[index]? = some original ∧
      instruction = original.canonical (program.labelsFor (index + 1)) := by
  rw [getElem?_canonical, Option.map_eq_some_iff] at found
  obtain ⟨original, known, same⟩ := found
  exact ⟨original, known, same.symm⟩

/-- No two positions share a name. -/
theorem nodup_labelsFor (program : Program) (positions : List Nat) (distinct : positions.Nodup) :
    (positions.flatMap program.labelsFor).Nodup := by
  rw [List.nodup_flatMap]
  constructor
  · intro position _
    unfold labelsFor
    split <;> simp
  · apply distinct.imp
    intro position other different
    apply List.disjoint_left.mpr
    intro name here there
    obtain ⟨_, rfl⟩ := mem_labelsFor_iff.mp here
    obtain ⟨_, same⟩ := mem_labelsFor_iff.mp there
    exact different (Image.labelName_injective same)

/-- A canonical program whose labels point into it is legible. -/
theorem legible_canonical (contained : program.Contained) : Legible program.canonical := by
  constructor
  · intro instruction member value given
    obtain ⟨index, found⟩ := List.mem_iff_getElem?.mp member
    obtain ⟨original, known, rfl⟩ := exists_of_getElem?_canonical found
    obtain ⟨argument, written, same⟩ := List.mem_map.mp given
    rw [Argument.canonical_eq_literal_iff] at same
    subst same
    exact contained.nonnegative original (List.mem_of_getElem? known) value written
  · intro instruction member name attached
    obtain ⟨index, found⟩ := List.mem_iff_getElem?.mp member
    obtain ⟨original, _, rfl⟩ := exists_of_getElem?_canonical found
    obtain ⟨_, rfl⟩ := mem_labelsFor_iff.mp attached
    exact Image.isLabelText_labelName (index + 1)
  · have attached {index : Nat} {instruction : Instruction}
        (found : program.canonical.instructions[index]? = some instruction) :
        instruction.labels = program.labelsFor (index + 1) := by
      obtain ⟨original, _, rfl⟩ := exists_of_getElem?_canonical found
      rfl
    rw [flatMap_labels attached]
    exact program.nodup_labelsFor _ List.nodup_range'
  · intro instruction member name position given
    obtain ⟨index, found⟩ := List.mem_iff_getElem?.mp member
    obtain ⟨original, known, rfl⟩ := exists_of_getElem?_canonical found
    obtain ⟨argument, written, same⟩ := List.mem_map.mp given
    obtain ⟨⟨other, rfl⟩, rfl⟩ := Argument.canonical_eq_label_iff.mp same
    have originalMember := List.mem_of_getElem? known
    -- The label points at an instruction, which therefore has the name of its position.
    obtain ⟨first, last⟩ := contained.inside original originalMember _ written
    obtain ⟨target, rfl⟩ : ∃ target, position = target + 1 := ⟨position - 1, by omega⟩
    obtain ⟨pointed, there⟩ : ∃ pointed, program.instructions[target]? = some pointed :=
      ⟨_, List.getElem?_eq_getElem last⟩
    refine ⟨pointed.canonical (program.labelsFor (target + 1)), ?_, ?_⟩
    · rw [get?_succ, getElem?_canonical, there]
      rfl
    · exact mem_labelsFor_iff.mpr ⟨⟨original, originalMember, other, written⟩, rfl⟩

end Program

/-! ## The text of a decoded program -/

/-- The text of a legible program is refused for its first argument that is out of limits. -/
theorem Assembly.Legible.assemble_text_eq_error_iff {program : Program}
    (legible : Legible program) {error : Assembly.Error} :
    assemble program.text = .error error ↔
      ∃ position argument,
        program.FirstAt (fun other => ¬ InLimits other) position argument ∧
          error = ⟨position, .invalidNumeral argument.text⟩ := by
  rw [legible.assemble_text_eq, bind_eq_error_iff, Program.inOrder_eq_error_iff_firstAt
    fun position instruction found cause => legible.instruction_readBack_eq_error_iff found,
    or_iff_left]
  rintro ⟨_, _, failed⟩
  cases failed

theorem Program.legible_of_decode {image : List Word} {program : Program}
    (decoded : decode image = .ok program) : Legible program := by
  obtain ⟨_, _, same⟩ := Image.decode_eq_ok_iff.mp decoded
  rw [same]
  exact legible_canonical (contained_of_decode decoded)

/-- The text of a decoded program is assembled to the program again exactly when no literal is
too large for assembly.  Otherwise the first literal that is too large is reported. -/
theorem Program.assemble_text_decode {image : List Word} {program : Program}
    (decoded : decode image = .ok program) :
    (assemble program.text = .ok program ↔
      ∀ instruction ∈ program.instructions, ∀ argument ∈ instruction.arguments,
        InLimits argument) ∧
    ∀ error, assemble program.text = .error error ↔
      ∃ position argument, program.FirstAt (fun other => ¬ InLimits other) position argument ∧
        error = ⟨position, .invalidNumeral argument.text⟩ := by
  have legible := legible_of_decode decoded
  refine ⟨⟨fun assembled => ?_, fun limited => ?_⟩, fun error => ?_⟩
  · exact (printable_iff.mp (printable_of_assemble assembled)).2
  · exact assemble_text (printable_iff.mpr ⟨legible, limited⟩)
  · exact legible.assemble_text_eq_error_iff

/-- The largest literal that assembly takes, and then the next number. -/
theorem Program.assemble_text_decode_limits :
    let image : List Word := [0x7FFFFFFF00000101, 0x8000000000000101, 0x0000000100000308]
    let program : Program :=
      ⟨[⟨.add, ["l1"], [.literal 0x7FFFFFFF], rfl⟩, ⟨.add, [], [.literal 0x80000000], rfl⟩,
        ⟨.jzero, [], [.label "l1" 1], rfl⟩]⟩
    decode image = .ok program ∧
      assemble program.text = .error ⟨2, .invalidNumeral "2147483648"⟩ := by
  intro image program
  have decoded : decode image = .ok program := by rfl
  refine ⟨decoded, ((assemble_text_decode decoded).2 _).mpr ?_⟩
  refine ⟨2, .literal 0x80000000, ⟨⟨_, rfl, .head _⟩, by decide, ?_⟩, rfl⟩
  intro earlier less instruction found other given
  obtain rfl | rfl : earlier = 0 ∨ earlier = 1 := by omega
  · cases found
  · cases found
    obtain rfl := List.mem_singleton.mp given
    decide

/-- A literal of 32 bits is decoded, printed, and then refused by assembly. -/
theorem Program.assemble_text_decode_large :
    let program : Program := ⟨[⟨.add, [], [.literal 0x80000000], rfl⟩]⟩
    decode [0x8000000000000101] = .ok program ∧ program.text = "ADD 2147483648" ∧
      assemble program.text = .error ⟨1, .invalidNumeral "2147483648"⟩ := by
  decide +kernel

/-! ## The way of an assembled program -/

/-- Whether two arguments are the same literal, the same register, or labels for the same
position. -/
inductive Argument.Agrees : Argument → Argument → Prop
  | literal (value : Value) : Agrees (.literal value) (.literal value)
  | register (number : RegisterNumber) : Agrees (.register number) (.register number)
  | label (name other : String) (position : Nat) :
      Agrees (.label name position) (.label other position)

theorem Argument.agrees_canonical (argument : Argument) : argument.Agrees argument.canonical := by
  cases argument with
  | literal value => exact .literal value
  | register number => exact .register number
  | label name position => exact .label name _ position

theorem Assembly.inLimits_canonical_iff {argument : Argument} :
    InLimits argument.canonical ↔ InLimits argument := by
  cases argument <;> rfl

/-- Of the arguments of an assembled program only a register may have too large a number for an
image, if the program has positions of 32 bits. -/
theorem Assembly.Printable.fits_iff {program : Program} (printable : Printable program)
    (short : program.length < 0x100000000) {instruction : Instruction} {argument : Argument}
    (member : instruction ∈ program.instructions) (given : argument ∈ instruction.arguments) :
    Image.Fits argument ↔ ∀ number, argument = .register number → number.toNat ≤ 0xFFFFFFFF := by
  cases argument with
  | literal value =>
      obtain ⟨nonneg, small⟩ := printable.literals instruction member value given
      have fits : Image.Fits (.literal value) := ⟨nonneg, by show value.toInt ≤ _; omega⟩
      simp [fits]
  | register number =>
      have fits : Image.Fits (.register number) ↔ number.toNat ≤ 0xFFFFFFFF := by
        show 0 ≤ (number.toNat : Int) ∧ (number.toNat : Int) ≤ 0xFFFFFFFF ↔ _
        omega
      simp [fits]
  | label name position =>
      obtain ⟨_, last⟩ := printable.contained.inside instruction member _ given
      have fits : Image.Fits (.label name position) := by
        show 0 ≤ (position : Int) ∧ (position : Int) ≤ 0xFFFFFFFF
        omega
      simp [fits]

theorem Program.printable_canonical {program : Program} (printable : Printable program) :
    Printable program.canonical := by
  rw [printable_iff]
  refine ⟨legible_canonical printable.contained, ?_⟩
  intro instruction member argument given
  obtain ⟨index, found⟩ := List.mem_iff_getElem?.mp member
  obtain ⟨original, known, rfl⟩ := exists_of_getElem?_canonical found
  obtain ⟨written, there, rfl⟩ := List.mem_map.mp given
  rw [inLimits_canonical_iff]
  exact (printable_iff.mp printable).2 original (List.mem_of_getElem? known) written there

/-- An assembled program that is not too long has an image, unless it names a register that is too
large for one.  The image is decoded, the text of the decoded program is assembled to that program
again, and the two programs differ in nothing but labels and their names. -/
theorem assemble_encode_decode {source : String} {program : Program}
    (assembled : assemble source = .ok program) (short : program.length < 0x100000000) :
    ((∃ error, program.encode = .error error) ↔
      ∃ instruction ∈ program.instructions, ∃ number,
        Argument.register number ∈ instruction.arguments ∧ 0xFFFFFFFF < number.toNat) ∧
    ∀ image, program.encode = .ok image →
      ∃ decoded, Program.decode image = .ok decoded ∧ assemble decoded.text = .ok decoded ∧
        decoded.length = program.length ∧
        ∀ position instruction, program.get? position = some instruction →
          ∃ other, decoded.get? position = some other ∧
            other.mnemonic = instruction.mnemonic ∧
            List.Forall₂ Argument.Agrees instruction.arguments other.arguments := by
  have printable := printable_of_assemble assembled
  constructor
  · rw [exists_error_iff]
    simp only [Image.encode_eq_ok_iff, exists_and_left, exists_eq, and_true]
    constructor
    · intro fails
      by_contra none
      apply fails
      intro instruction member argument given
      rw [printable.fits_iff short member given]
      rintro number rfl
      by_contra large
      exact none ⟨instruction, member, number, given, Nat.lt_of_not_le large⟩
    · rintro ⟨instruction, member, number, given, large⟩ fits
      have small := (printable.fits_iff short member given).mp (fits instruction member _ given)
      exact absurd (small number rfl) (Nat.not_le_of_lt large)
  · intro image encoded
    obtain ⟨fits, rfl⟩ := Image.encode_eq_ok_iff.mp encoded
    refine ⟨program.canonical, ?_, ?_, ?_, ?_⟩
    · exact (Image.decode_words_eq_ok_iff fits).mpr ⟨printable.contained.inside, rfl⟩
    · exact assemble_text (Program.printable_canonical printable)
    · simp [Program.length, Program.canonical]
    · intro position instruction found
      cases position with
      | zero => cases found
      | succ index =>
          rw [Program.get?_succ] at found
          refine ⟨instruction.canonical (program.labelsFor (index + 1)), ?_, rfl, ?_⟩
          · rw [Program.get?_succ, Program.getElem?_canonical, found]
            rfl
          · rw [Instruction.canonical, List.forall₂_map_right_iff, List.forall₂_same]
            intro argument _
            exact argument.agrees_canonical

/-- Labels before and after their use, a label after the last statement, and the largest literal
and register that an image holds. -/
theorem assemble_encode_decode_loop :
    let source := "\n".intercalate
      ["loop: again: load r4294967295", "jzero end", "SUB 0x7fffffff", "jump again", "end:"]
    let program : Program :=
      ⟨[⟨.load, ["loop", "again"], [.register 4294967295], rfl⟩,
        ⟨.jzero, [], [.label "end" 5], rfl⟩, ⟨.sub, [], [.literal 0x7FFFFFFF], rfl⟩,
        ⟨.jump, [], [.label "again" 1], rfl⟩, ⟨.halt, ["end"], [], rfl⟩]⟩
    let image : List Word :=
      [0xFFFFFFFF00000204, 0x0000000500000308, 0x7FFFFFFF00000102, 0x000000010000030A, 0xB]
    let decoded : Program :=
      ⟨[⟨.load, ["l1"], [.register 4294967295], rfl⟩, ⟨.jzero, [], [.label "l5" 5], rfl⟩,
        ⟨.sub, [], [.literal 0x7FFFFFFF], rfl⟩, ⟨.jump, [], [.label "l1" 1], rfl⟩,
        ⟨.halt, ["l5"], [], rfl⟩]⟩
    assemble source = .ok program ∧ program.length < 0x100000000 ∧
      program.encode = .ok image ∧ Program.decode image = .ok decoded ∧
      assemble decoded.text = .ok decoded ∧ decoded.length = program.length := by
  intro source program image decoded
  have assembled : assemble source = .ok program := by decide +kernel
  have short : program.length < 0x100000000 := by decide
  have encoded : program.encode = .ok image := by decide +kernel
  have success : Program.decode image = .ok decoded := by decide +kernel
  obtain ⟨_, found, again, length, _⟩ := (assemble_encode_decode assembled short).2 _ encoded
  rw [success] at found
  cases found
  exact ⟨assembled, short, encoded, success, again, length⟩

end Ram
