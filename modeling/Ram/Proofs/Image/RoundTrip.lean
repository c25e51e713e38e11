import Ram.Image.Decode
import Ram.Proofs.Image.Encode

/-!
# Decoding an encoded program

The image of a program keeps everything but the names of its labels.  Decoding it gives back
the mnemonics and the arguments, with the label for position `k` called `lk`, and attaches that
name to the instruction at `k` if some label points there.  `Program.canonical` is the program
that comes back.  Decoding fails exactly when some label points outside the program, and then
at the first such label.

The fields of a word do not overlap, so each of them is read back from the word alone, and only
a label can be refused (`readWord_word`).  The second walk of decoding does not fail
at all, because a label with another name fits wherever the label did
(`instructionsFrom_entries`).
-/

namespace Ram

/-! ## Programs without the names of their labels -/

/-- An argument as an image keeps it: a label loses its name and is called after its position. -/
def Argument.canonical : Argument → Argument
  | label _ position => label (Image.labelName position) position
  | other => other

theorem Shape.admits_canonical (shape : Shape) (argument : Argument) :
    shape.admits argument.canonical = shape.admits argument := by
  cases shape <;> cases argument <;> rfl

@[simp] theorem Argument.position?_canonical (argument : Argument) :
    argument.canonical.position? = argument.position? := by
  cases argument <;> rfl

/-- The instruction with other labels and with its argument as an image keeps it. -/
def Instruction.canonical (instruction : Instruction) (labels : List String) : Instruction where
  mnemonic := instruction.mnemonic
  labels := labels
  arguments := instruction.arguments.map Argument.canonical
  fits := by rw [fill_map Shape.admits_canonical]; exact instruction.fits

/-- Some label of the program points at the position. -/
def Program.Targets (program : Program) (position : Nat) : Prop :=
  ∃ instruction ∈ program.instructions, ∃ name, .label name position ∈ instruction.arguments

theorem Argument.position?_eq_some_iff {argument : Argument} {position : Nat} :
    argument.position? = some position ↔ ∃ name, argument = .label name position := by
  cases argument with
  | literal value => simp [Argument.position?]
  | register number => simp [Argument.position?]
  | label name target => simp [Argument.position?]

theorem Program.targets_iff {program : Program} {position : Nat} :
    program.Targets position ↔ ∃ instruction ∈ program.instructions,
      ∃ argument ∈ instruction.arguments, argument.position? = some position := by
  simp only [Targets, Argument.position?_eq_some_iff]
  constructor
  · rintro ⟨instruction, member, name, given⟩
    exact ⟨instruction, member, _, given, name, rfl⟩
  · rintro ⟨instruction, member, _, given, name, rfl⟩
    exact ⟨instruction, member, name, given⟩

instance (program : Program) (position : Nat) : Decidable (program.Targets position) :=
  decidable_of_iff _ Program.targets_iff.symm

/-- The program as an image keeps it.  Every label is called after its position, and the names
stand where they point. -/
def Program.canonical (program : Program) : Program where
  instructions := program.instructions.mapIdx fun index instruction =>
    instruction.canonical
      (if program.Targets (index + 1) then [Image.labelName (index + 1)] else [])

namespace Image

/-- Whether the argument is no label, or one that points at an instruction of a program of the
given length. -/
def Inside (length : Nat) : Argument → Prop
  | .label _ target => 1 ≤ target ∧ target ≤ length
  | _ => True

theorem inside_label {length target : Nat} {name : String} :
    Inside length (.label name target) ↔ 1 ≤ target ∧ target ≤ length :=
  Iff.rfl

instance (length : Nat) : ∀ argument, Decidable (Inside length argument)
  | .literal _ => inferInstanceAs (Decidable True)
  | .register _ => inferInstanceAs (Decidable True)
  | .label _ target => inferInstanceAs (Decidable (1 ≤ target ∧ target ≤ length))

/-! ## Reading a word -/

theorem ofCode?_code (tag : Tag) : Tag.ofCode? tag.code = some tag := by
  cases tag <;> rfl

/-- The fields of an instruction as an image keeps them. -/
def entry (instruction : Instruction) : Entry :=
  ⟨instruction.mnemonic, (instruction.argument? 0).map Argument.canonical⟩

/-- The target of an entry is the position of the label of its instruction. -/
theorem target?_entry_eq_some_iff {instruction : Instruction} {position : Nat} :
    (entry instruction).target? = some position ↔
      ∃ argument ∈ instruction.arguments, argument.position? = some position := by
  rw [instruction.arguments_eq_toList, Entry.target?, entry]
  cases instruction.argument? 0 with
  | none => simp
  | some argument => simp

/-- The argument of a word is the one that was encoded, unless that one points outside. -/
theorem argument_of_fits {length : Nat} {argument : Argument} (fits : Fits argument) :
    Image.argument length (tagOf (some argument))
        (UInt32.ofNat (numberOf (some argument)).toNat) =
      if Inside length argument then .ok (some argument.canonical)
      else .error (.labelOutOfRange (numberOf (some argument)).toNat) := by
  rw [fits_iff] at fits
  -- Nothing is cut off, neither by the 32 bits of the field nor by the 64 of the argument.
  have back : (UInt32.ofNat (numberOf (some argument)).toNat).toNat =
      (numberOf (some argument)).toNat := by
    rw [UInt32.toNat_ofNat']
    omega
  cases argument with
  | literal value =>
      simp only [numberOf] at fits back
      have same : Int64.ofNat value.toInt.toNat = value :=
        Int64.ofNat_toNatClampNeg value (Int64.le_iff_toInt_le.mpr fits.1)
      rw [if_pos (show Inside length (.literal value) from trivial)]
      simp only [Image.argument, tagOf, numberOf, back, same, Argument.canonical]
  | register number =>
      simp only [numberOf, Int.toNat_natCast] at fits back
      have same : (UInt32.ofNat number.toNat).toUInt64 = number := by
        apply UInt64.toNat.inj
        rw [UInt32.toNat_toUInt64, back]
      rw [if_pos (show Inside length (.register number) from trivial)]
      simp only [Image.argument, tagOf, numberOf, Int.toNat_natCast, same, Argument.canonical]
  | label name target =>
      simp only [numberOf, Int.toNat_natCast] at fits back
      simp only [Image.argument, tagOf, numberOf, Int.toNat_natCast, back, Argument.canonical]
      split
      next outside => rw [if_neg (by rw [inside_label]; omega)]
      next inside => rw [if_pos (by rw [inside_label]; omega)]

section Words

variable {length : Nat} {instruction : Instruction}

/-- The fields of a word are those of its instruction, unless a label points outside. -/
theorem readWord_word (fits : ∀ argument ∈ instruction.arguments, Fits argument) :
    readWord length (word instruction) =
      if ∀ argument ∈ instruction.arguments, Inside length argument then .ok (entry instruction)
      else .error (.labelOutOfRange (numberOf (instruction.argument? 0)).toNat) := by
  simp only [instruction.arguments_eq_toList] at fits ⊢
  simp only [readWord, word, entry, Word.opcode_pack, Word.tag_pack, Word.value_pack,
    Mnemonic.ofOpcode?_opcode, ofCode?_code]
  cases same : instruction.argument? 0 with
  | none => simp [Image.argument, tagOf, Except.map]
  | some argument =>
      rw [argument_of_fits (fits argument (by simp [same]))]
      by_cases inside : Inside length argument
      · simp [inside, Except.map]
      · simp [inside, Except.map]

/-- The word of an instruction is read as the instruction, if its label points into the image. -/
theorem readWord_word_eq_ok_iff (fits : ∀ argument ∈ instruction.arguments, Fits argument)
    {result : Entry} :
    readWord length (word instruction) = .ok result ↔
      (∀ argument ∈ instruction.arguments, Inside length argument) ∧
        result = entry instruction := by
  rw [readWord_word fits]
  split
  next inside => simp [eq_comm, and_iff_right inside]
  next outside => simp [outside]

/-- The word of an instruction is refused for a label that points outside, and for nothing else. -/
theorem readWord_word_eq_error_iff (fits : ∀ argument ∈ instruction.arguments, Fits argument)
    {cause : Cause} :
    readWord length (word instruction) = .error cause ↔
      ∃ argument ∈ instruction.arguments, ¬ Inside length argument ∧
        cause = .labelOutOfRange (numberOf (some argument)).toNat := by
  rw [readWord_word fits]
  simp only [instruction.arguments_eq_toList]
  cases instruction.argument? 0 with
  | none => simp
  | some argument =>
      by_cases inside : Inside length argument
      · simp [inside]
      · simp [inside, eq_comm]

end Words

/-! ## The two walks of decoding -/

/-- The first pass of decoding reads one word after another. -/
theorem readFrom_eq_inOrder (length : Nat) :
    ∀ (words : List Word) (position : Nat),
      readFrom length position words =
        inOrder (fun place word => (readWord length word).mapError (Error.mk place))
          position words
  | [], _ => rfl
  | word :: rest, position => by
      simp only [readFrom, inOrder, readFrom_eq_inOrder length rest]

section Programs

variable {program : Program}

/-- The first walk reads the words of a program exactly when no label points outside. -/
theorem readFrom_words_eq_ok_iff
    (fits : ∀ instruction ∈ program.instructions, ∀ argument ∈ instruction.arguments,
      Fits argument) {length : Nat} {entries : List Entry} :
    readFrom length 1 (program.instructions.map word) = .ok entries ↔
      (∀ instruction ∈ program.instructions, ∀ argument ∈ instruction.arguments,
        Inside length argument) ∧ entries = program.instructions.map entry := by
  rw [readFrom_eq_inOrder, inOrder_map]
  apply inOrder_eq_ok_iff_map
  intro instruction member position result
  rw [mapError_eq_ok_iff, readWord_word_eq_ok_iff (fits instruction member)]

theorem readFrom_words_eq_error_iff
    (fits : ∀ instruction ∈ program.instructions, ∀ argument ∈ instruction.arguments,
      Fits argument) {length : Nat} {error : Error} :
    readFrom length 1 (program.instructions.map word) = .error error ↔
      ∃ position name target,
        program.FirstAt (fun other => ¬ Inside length other) position (.label name target) ∧
          error = ⟨position, .labelOutOfRange target⟩ := by
  rw [readFrom_eq_inOrder, inOrder_map, Program.inOrder_eq_error_iff_firstAt
    fun _ instruction found _ =>
      readWord_word_eq_error_iff (fits instruction (Program.mem_of_get? found))]
  constructor
  · rintro ⟨position, argument, first, rfl⟩
    cases argument with
    | literal value => exact absurd trivial first.holds
    | register number => exact absurd trivial first.holds
    | label name target => exact ⟨position, name, target, first, rfl⟩
  · rintro ⟨position, name, target, first, rfl⟩
    exact ⟨position, .label name target, first, rfl⟩

/-- A position has one label if there is a jump to it. -/
theorem labelsAt_entries (position : Nat) :
    labelsAt (program.instructions.map entry) position =
      if program.Targets position then [labelName position] else [] := by
  have same : ((program.instructions.map entry).any fun entry => entry.target? = some position) ↔
      program.Targets position := by
    rw [Program.targets_iff, List.any_map, List.any_eq_true]
    apply exists_congr
    intro instruction
    rw [Function.comp_apply, decide_eq_true_eq, target?_entry_eq_some_iff]
  simp only [labelsAt, same]

/-- The second walk makes the instructions of any entries that came of instructions. -/
theorem instructionsFrom_entries (all : List Entry) :
    ∀ (instructions : List Instruction) (position : Nat),
      instructionsFrom all position (instructions.map entry) =
        .ok (instructions.mapIdx fun index instruction =>
          instruction.canonical (labelsAt all (position + index)))
  | [], _ => rfl
  | instruction :: rest, position => by
      have made : Instruction.make instruction.mnemonic (labelsAt all position)
          (entry instruction).argument.toList =
            .ok (instruction.canonical (labelsAt all position)) := by
        have same : (entry instruction).argument.toList =
            instruction.arguments.map Argument.canonical := by
          rw [instruction.arguments_eq_toList, entry, Option.toList_map]
        rw [same]
        exact Instruction.make_of_fits _ (instruction.canonical []).fits
      rw [List.map_cons, instructionsFrom, bind_eq_ok_iff]
      refine ⟨_, mapError_eq_ok_iff.mpr made, bind_eq_ok_iff.mpr ⟨_, instructionsFrom_entries all
        rest (position + 1), ?_⟩⟩
      simp [List.mapIdx_cons, pure, Except.pure, Nat.add_assoc, Nat.add_comm 1]

/-- The image of a program is decoded to the program as the image keeps it, if no label points
outside. -/
theorem decode_words_eq_ok_iff
    (fits : ∀ instruction ∈ program.instructions, ∀ argument ∈ instruction.arguments,
      Fits argument) {decoded : Program} :
    Program.decode (program.instructions.map word) = .ok decoded ↔
      (∀ instruction ∈ program.instructions, ∀ argument ∈ instruction.arguments,
        Inside program.length argument) ∧ decoded = program.canonical := by
  have made : instructionsFrom (program.instructions.map entry) 1
      (program.instructions.map entry) = .ok program.canonical.instructions := by
    rw [instructionsFrom_entries]
    simp only [labelsAt_entries, Program.canonical, Nat.add_comm 1]
  rw [Program.decode, List.length_map, bind_eq_ok_iff]
  constructor
  · rintro ⟨entries, read, rest⟩
    obtain ⟨inside, rfl⟩ := (readFrom_words_eq_ok_iff fits).mp read
    obtain ⟨instructions, success, same⟩ := bind_eq_ok_iff.mp rest
    rw [made] at success
    cases success
    cases same
    exact ⟨inside, rfl⟩
  · rintro ⟨inside, rfl⟩
    refine ⟨_, (readFrom_words_eq_ok_iff fits).mpr ⟨inside, rfl⟩, bind_eq_ok_iff.mpr ?_⟩
    exact ⟨_, made, rfl⟩

theorem decode_words_eq_error_iff
    (fits : ∀ instruction ∈ program.instructions, ∀ argument ∈ instruction.arguments,
      Fits argument) {error : Error} :
    Program.decode (program.instructions.map word) = .error error ↔
      ∃ position name target,
        program.FirstAt (fun other => ¬ Inside program.length other) position
          (.label name target) ∧ error = ⟨position, .labelOutOfRange target⟩ := by
  rw [Program.decode, List.length_map, ← Program.length, bind_eq_error_iff,
    readFrom_words_eq_error_iff fits, or_iff_left]
  -- Entries that come of a program are never refused by the second walk.
  rintro ⟨entries, read, failed⟩
  obtain ⟨_, rfl⟩ := (readFrom_words_eq_ok_iff fits).mp read
  rw [instructionsFrom_entries] at failed
  cases failed

end Programs

end Image

/-- A program has an image exactly when every number in it fits 32 bits without a sign, and the
first that does not is reported.  The image has a program exactly when every label of the first
program points at an instruction, and the first that does not is reported.  The program of the
image is the first one with every label called after its position. -/
theorem Program.decode_encode (program : Program) :
    ((∃ image, program.encode = .ok image) ↔
      ∀ instruction ∈ program.instructions, ∀ argument ∈ instruction.arguments,
        Image.Fits argument) ∧
    (∀ error, program.encode = .error error ↔
      ∃ position argument, program.FirstAt (fun other => ¬ Image.Fits other) position argument ∧
        error = ⟨position, .valueOutOfRange (Image.numberOf (some argument))⟩) ∧
    ∀ image, program.encode = .ok image →
      ((∃ decoded, decode image = .ok decoded) ↔
        ∀ instruction ∈ program.instructions, ∀ argument ∈ instruction.arguments,
          Image.Inside program.length argument) ∧
      (∀ error, decode image = .error error ↔
        ∃ position name target,
          program.FirstAt (fun other => ¬ Image.Inside program.length other) position
            (.label name target) ∧ error = ⟨position, .labelOutOfRange target⟩) ∧
      ∀ decoded, decode image = .ok decoded → decoded = program.canonical := by
  refine ⟨?_, fun error => Image.encode_eq_error_iff, ?_⟩
  · simp only [Image.encode_eq_ok_iff, exists_and_left, exists_eq, and_true]
  · intro image encoded
    obtain ⟨fits, rfl⟩ := Image.encode_eq_ok_iff.mp encoded
    refine ⟨?_, fun error => Image.decode_words_eq_error_iff fits, ?_⟩
    · simp only [Image.decode_words_eq_ok_iff fits, exists_and_left, exists_eq, and_true]
    · intro decoded success
      exact ((Image.decode_words_eq_ok_iff fits).mp success).2

/-- The largest numbers that an image holds come back, and so do labels whose names are not
attached where they point. -/
theorem Program.decode_encode_largest :
    let program : Program :=
      ⟨[⟨.load, ["start", "again"], [.register 0xFFFFFFFF], rfl⟩,
        ⟨.add, [], [.literal 0xFFFFFFFF], rfl⟩,
        ⟨.jzero, ["start"], [.label "again" 1], rfl⟩,
        ⟨.jump, [], [.label "nowhere" 4], rfl⟩]⟩
    let image : List Word :=
      [0xFFFFFFFF00000204, 0xFFFFFFFF00000101, 0x0000000100000308, 0x000000040000030A]
    let decoded : Program :=
      ⟨[⟨.load, ["l1"], [.register 0xFFFFFFFF], rfl⟩,
        ⟨.add, [], [.literal 0xFFFFFFFF], rfl⟩,
        ⟨.jzero, [], [.label "l1" 1], rfl⟩,
        ⟨.jump, ["l4"], [.label "l4" 4], rfl⟩]⟩
    program.encode = .ok image ∧ decode image = .ok decoded ∧ decoded = program.canonical := by
  intro program image decoded
  have encoded : program.encode = .ok image :=
    Image.encode_eq_ok_iff.mpr ⟨by decide +kernel, by decide +kernel⟩
  have success : decode image = .ok decoded := by rfl
  exact ⟨encoded, success, (program.decode_encode.2.2 image encoded).2.2 decoded success⟩

end Ram
