import Ram.Proofs.Image.Decode

/-!
# Valid images

Decoding reads the fields of all words before it makes the first instruction.  A word is
*readable* when a mnemonic has its opcode, a kind of argument has its tag, and its value points
into the image if the tag says that it is a label.  It is *fitting* when its mnemonic takes an
argument of the kind that the tag says, or none.  An image has a program exactly when each of its
words is readable and fitting.

The first walk fails at the first word that is not readable, even if a word before it does not
fit (`readFrom_eq_error_iff`).  The second walk fails at the first word that does not fit
(`instructionsFrom_eq_error_iff`).
-/

namespace Ram

/-! ## Codes -/

/-- The opcodes are the numbers below 12. -/
theorem Mnemonic.exists_opcode_iff {code : UInt8} :
    (∃ mnemonic : Mnemonic, code = mnemonic.opcode) ↔ code.toNat < 12 := by
  constructor
  · rintro ⟨mnemonic, rfl⟩
    cases mnemonic <;> decide
  · intro small
    have counted : ∀ index : Fin 12, (catalog.get index).opcode.toNat = index := by decide
    exact ⟨catalog.get ⟨code.toNat, small⟩, UInt8.toNat.inj (counted ⟨code.toNat, small⟩).symm⟩

theorem Mnemonic.ofOpcode?_eq_none_iff {code : UInt8} :
    ofOpcode? code = none ↔ 12 ≤ code.toNat := by
  rw [← Nat.not_lt, ← exists_opcode_iff]
  simp only [Option.eq_none_iff_forall_ne_some, ne_eq, ofOpcode?_eq_some_iff, not_exists]

/-- The codes of tags are the numbers below 4. -/
theorem Image.exists_code_iff {code : UInt8} :
    (∃ tag : Tag, code = tag.code) ↔ code.toNat < 4 := by
  constructor
  · rintro ⟨tag, rfl⟩
    cases tag <;> decide
  · intro small
    have counted : ∀ index : Fin 4,
        ([Tag.none, .literal, .register, .label].get index).code.toNat = index := by decide
    exact ⟨_, UInt8.toNat.inj (counted ⟨code.toNat, small⟩).symm⟩

theorem Image.ofCode?_eq_none_iff {code : UInt8} : Tag.ofCode? code = none ↔ 4 ≤ code.toNat := by
  rw [← Nat.not_lt, ← exists_code_iff]
  simp only [Option.eq_none_iff_forall_ne_some, ne_eq, ofCode?_eq_some_iff, not_exists]

/-! ## Words -/

namespace Word

/-- Whether the fields of a word mean something in an image of the given length. -/
structure Readable (length : Nat) (word : Word) : Prop where
  opcode : word.opcode.toNat < 12
  tag : word.tag.toNat < 4
  target : word.tag = Image.Tag.label.code →
    1 ≤ word.value.toNat ∧ word.value.toNat ≤ length

/-- The first field of a word that means nothing.  The opcode comes before the tag and the tag
before the value. -/
inductive Unreadable (length : Nat) (word : Word) : Image.Cause → Prop where
  | opcode (large : 12 ≤ word.opcode.toNat) :
      Unreadable length word (.invalidOpcode word.opcode)
  | tag (known : word.opcode.toNat < 12) (large : 4 ≤ word.tag.toNat) :
      Unreadable length word (.invalidTag word.tag)
  | target (known : word.opcode.toNat < 12) (label : word.tag = Image.Tag.label.code)
      (outside : word.value.toNat = 0 ∨ length < word.value.toNat) :
      Unreadable length word (.labelOutOfRange word.value.toNat)

/-- A word is readable exactly if nothing is wrong with it. -/
theorem readable_iff {length : Nat} {word : Word} :
    word.Readable length ↔ ∀ cause, ¬ word.Unreadable length cause := by
  constructor
  · rintro ⟨opcode, tag, target⟩ cause (large | ⟨_, large⟩ | ⟨_, label, outside⟩)
    · omega
    · omega
    · have := target label
      omega
  · intro never
    have known : word.opcode.toNat < 12 := Nat.lt_of_not_le fun large => never _ (.opcode large)
    refine ⟨known, Nat.lt_of_not_le fun large => never _ (.tag known large), fun label => ?_⟩
    have inside : ¬ (word.value.toNat = 0 ∨ length < word.value.toNat) :=
      fun outside => never _ (.target known label outside)
    omega

end Word

/-- Whether the instructions of a mnemonic have an argument of the kind that the tag says. -/
def Mnemonic.Takes (mnemonic : Mnemonic) : Image.Tag → Prop
  | .none => mnemonic.arity = 0
  | .literal => mnemonic.shape? 0 = some .literalOrRegister
  | .register => mnemonic.shape? 0 = some .register ∨ mnemonic.shape? 0 = some .literalOrRegister
  | .label => mnemonic.shape? 0 = some .label

/-- A mnemonic takes the tag of an argument exactly when the argument fits it. -/
theorem Mnemonic.takes_tagOf_iff {mnemonic : Mnemonic} {argument : Option Argument} :
    mnemonic.Takes (Image.tagOf argument) ↔ fill mnemonic.shapes argument.toList = some [] := by
  have shapes := mnemonic.shapes_eq_toList
  rcases argument with _ | argument
  · simp [Takes, Image.tagOf, arity]
  · cases takes : mnemonic.shape? 0 with
    | none =>
        rw [shapes, takes]
        cases argument <;> simp [Takes, Image.tagOf, fill, takes]
    | some shape =>
        rw [shapes, takes]
        cases argument <;> cases shape <;>
          simp [Takes, Image.tagOf, fill, takes, Shape.admits, Argument.isLiteral,
            Argument.isRegister, Argument.isLabel]

namespace Word

/-- Whether a word has the opcode of the mnemonic and the code of the tag. -/
structure Carries (word : Word) (mnemonic : Mnemonic) (tag : Image.Tag) : Prop where
  opcode : word.opcode = mnemonic.opcode
  tag : word.tag = tag.code

theorem Carries.unique {word : Word} {mnemonic other : Mnemonic} {tag otherTag : Image.Tag}
    (first : word.Carries mnemonic tag) (second : word.Carries other otherTag) :
    mnemonic = other ∧ tag = otherTag := by
  constructor
  · have found := Mnemonic.ofOpcode?_eq_some_iff.mpr first.opcode
    rw [second.opcode, Mnemonic.ofOpcode?_opcode] at found
    exact (Option.some.inj found).symm
  · have found := Image.ofCode?_eq_some_iff.mpr first.tag
    rw [second.tag, Image.ofCode?_code] at found
    exact (Option.some.inj found).symm

/-- Whether the mnemonic of a word takes an argument of the kind that the tag says. -/
def Fitting (word : Word) : Prop :=
  ∃ mnemonic tag, word.Carries mnemonic tag ∧ mnemonic.Takes tag

/-- Why the mnemonic of a word refuses the argument that the word has. -/
def Unfit (word : Word) (reason : ArgumentError) : Prop :=
  ∃ mnemonic tag argument, word.Carries mnemonic tag ∧ Image.ReadAs tag word.value argument ∧
    mnemonic.Refuses argument reason

end Word

namespace Image

theorem argument_eq_error_iff {length : Nat} {tag : Tag} {value : UInt32} {cause : Cause} :
    Image.argument length tag value = .error cause ↔
      tag = .label ∧ (value.toNat = 0 ∨ length < value.toNat) ∧
        cause = .labelOutOfRange value.toNat := by
  cases tag with
  | none => simp [Image.argument]
  | literal => simp [Image.argument]
  | register => simp [Image.argument]
  | label =>
      simp only [Image.argument]
      split
      next outside =>
        simp only [Except.error.injEq, outside, true_and]
        exact eq_comm
      next inside => simp [inside]

/-- A word is refused for its first field that means nothing. -/
theorem readWord_eq_error_iff {length : Nat} {word : Word} {cause : Cause} :
    readWord length word = .error cause ↔ word.Unreadable length cause := by
  unfold readWord
  split
  next unknown =>
    have large := Mnemonic.ofOpcode?_eq_none_iff.mp unknown
    constructor
    · intro failed
      cases failed
      exact .opcode large
    · rintro (_ | ⟨known, _⟩ | ⟨known, _⟩)
      · rfl
      · omega
      · omega
  next mnemonic found =>
    have known := Mnemonic.exists_opcode_iff.mp ⟨mnemonic, Mnemonic.ofOpcode?_eq_some_iff.mp found⟩
    split
    next unknown =>
      have large := ofCode?_eq_none_iff.mp unknown
      constructor
      · intro failed
        cases failed
        exact .tag known large
      · rintro (unknown | _ | ⟨_, label, _⟩)
        · omega
        · rfl
        · simp [label, Tag.code] at large
    next tag tagged =>
      have code := ofCode?_eq_some_iff.mp tagged
      have small := exists_code_iff.mp ⟨tag, code⟩
      have same : (Image.argument length tag word.value).map (Entry.mk mnemonic) = .error cause ↔
          Image.argument length tag word.value = .error cause := by
        cases Image.argument length tag word.value <;> simp [Except.map]
      rw [same, argument_eq_error_iff]
      constructor
      · rintro ⟨rfl, outside, rfl⟩
        exact .target known code outside
      · rintro (unknown | ⟨_, large⟩ | ⟨_, label, outside⟩)
        · omega
        · omega
        · rw [label, ofCode?_code, Option.some.injEq] at tagged
          exact ⟨tagged.symm, outside, rfl⟩

/-- A word is read exactly if it is readable. -/
theorem exists_readWord_iff {length : Nat} {word : Word} :
    (∃ entry, readWord length word = .ok entry) ↔ word.Readable length := by
  simp only [exists_ok_iff, ne_eq, readWord_eq_error_iff, Word.readable_iff]

/-! ## Making an instruction of a word -/

theorem ReadAs.unique {tag : Tag} {value : UInt32} {argument other : Option Argument}
    (first : ReadAs tag value argument) (second : ReadAs tag value other) : argument = other := by
  have tags : tagOf argument = tagOf other := first.tagged.trans second.tagged.symm
  have numbers : numberOf argument = numberOf other := first.number.trans second.number.symm
  rw [← first.canonical, ← second.canonical]
  rcases argument with _ | (value | number | ⟨name, position⟩) <;>
    rcases other with _ | (value | number | ⟨name, position⟩) <;> try cases tags
  · rfl
  · cases Int64.toInt.inj numbers
    rfl
  · cases UInt64.toNat.inj (Int.ofNat.inj numbers)
    rfl
  · cases Int.ofNat.inj numbers
    rfl

section Entries

variable {length : Nat} {word : Word} {entry : Entry} {labels : List String}

/-- The entry of a word makes an instruction exactly when the word fits. -/
theorem exists_make_of_readWord (read : readWord length word = .ok entry) :
    (∃ instruction,
      Instruction.make entry.mnemonic labels entry.argument.toList = .ok instruction) ↔
      word.Fitting := by
  obtain ⟨opcode, tag, code, given⟩ := readWord_eq_ok_iff.mp read
  have carries : word.Carries entry.mnemonic tag := ⟨opcode, code⟩
  rw [Instruction.exists_make_iff, ← Mnemonic.takes_tagOf_iff, (readAs_of_argument given).tagged]
  constructor
  · intro takes
    exact ⟨entry.mnemonic, tag, carries, takes⟩
  · rintro ⟨mnemonic, other, alsoCarries, takes⟩
    obtain ⟨sameMnemonic, sameTag⟩ := carries.unique alsoCarries
    rwa [sameMnemonic, sameTag]

theorem make_eq_error_of_readWord (read : readWord length word = .ok entry)
    {reason : ArgumentError} :
    Instruction.make entry.mnemonic labels entry.argument.toList = .error reason ↔
      word.Unfit reason := by
  obtain ⟨opcode, tag, code, given⟩ := readWord_eq_ok_iff.mp read
  have carries : word.Carries entry.mnemonic tag := ⟨opcode, code⟩
  have readAs := readAs_of_argument given
  rw [Instruction.make_eq_error_iff]
  constructor
  · intro refuses
    exact ⟨entry.mnemonic, tag, entry.argument, carries, readAs, refuses⟩
  · rintro ⟨mnemonic, other, argument, alsoCarries, alsoReadAs, refuses⟩
    obtain ⟨sameMnemonic, rfl⟩ := carries.unique alsoCarries
    rwa [sameMnemonic, readAs.unique alsoReadAs]

end Entries

/-! ## The two walks -/

/-- Whether the word with the given index is the first one of an image that lacks a property. -/
structure FirstFailing (image : List Word) (property : Word → Prop) (index : Nat)
    (word : Word) : Prop where
  found : image[index]? = some word
  fails : ¬ property word
  before : ∀ earlier < index, ∀ other, image[earlier]? = some other → property other

section Walks

variable {image : List Word} {error : Error}

theorem exists_readFrom_iff {length position : Nat} :
    (∃ entries, readFrom length position image = .ok entries) ↔
      ∀ word ∈ image, word.Readable length := by
  simp only [readFrom_eq_inOrder, exists_inOrder_iff, mapError_eq_ok_iff, exists_readWord_iff,
    List.mem_iff_getElem?, forall_exists_index]
  exact forall_comm

/-- The first walk fails at the first word that is not readable. -/
theorem readFrom_eq_error_iff {length : Nat} :
    readFrom length 1 image = .error error ↔
      ∃ index word cause, FirstFailing image (Word.Readable length) index word ∧
        word.Unreadable length cause ∧ error = ⟨index + 1, cause⟩ := by
  rw [readFrom_eq_inOrder, inOrder_eq_error_iff]
  simp only [mapError_eq_ok_iff, exists_readWord_iff, mapError_eq_error_iff, readWord_eq_error_iff]
  constructor
  · rintro ⟨index, word, found, ⟨cause, unreadable, rfl⟩, before⟩
    have fails : ¬ word.Readable length := fun readable =>
      Word.readable_iff.mp readable cause unreadable
    exact ⟨index, word, cause, ⟨found, fails, before⟩, unreadable, by rw [Nat.add_comm]⟩
  · rintro ⟨index, word, cause, first, unreadable, rfl⟩
    exact ⟨index, word, first.found, ⟨cause, unreadable, by rw [Nat.add_comm]⟩, first.before⟩

/-- The second pass makes one instruction after another. -/
theorem instructionsFrom_eq_inOrder (all : List Entry) :
    ∀ (entries : List Entry) (position : Nat),
      instructionsFrom all position entries =
        inOrder (fun place entry =>
          (Instruction.make entry.mnemonic (labelsAt all place) entry.argument.toList).mapError
            fun reason => ⟨place, .invalidInstruction reason⟩) position entries
  | [], _ => rfl
  | entry :: rest, position => by
      simp only [instructionsFrom, inOrder, instructionsFrom_eq_inOrder all rest]

/-- The second pass succeeds exactly if every word fits. -/
theorem exists_instructionsFrom_iff {length : Nat} {entries : List Entry}
    (read : readFrom length 1 image = .ok entries) :
    (∃ instructions, instructionsFrom entries 1 entries = .ok instructions) ↔
      ∀ word ∈ image, word.Fitting := by
  rw [readFrom_eq_inOrder] at read
  simp only [instructionsFrom_eq_inOrder, exists_inOrder_iff, mapError_eq_ok_iff]
  constructor
  · intro every word member
    obtain ⟨index, found⟩ := List.mem_iff_getElem?.mp member
    obtain ⟨entry, there, readHere⟩ := getElem?_results_of_inOrder read found
    exact (exists_make_of_readWord (mapError_eq_ok_iff.mp readHere)).mp (every index entry there)
  · intro every index entry there
    obtain ⟨word, found, readHere⟩ := getElem?_of_inOrder read there
    have fitting := every word (List.mem_of_getElem? found)
    exact (exists_make_of_readWord (mapError_eq_ok_iff.mp readHere)).mpr fitting

/-- The second walk fails at the first word that does not fit. -/
theorem instructionsFrom_eq_error_iff {length : Nat} {entries : List Entry}
    (read : readFrom length 1 image = .ok entries) :
    instructionsFrom entries 1 entries = .error error ↔
      ∃ index word reason, FirstFailing image Word.Fitting index word ∧ word.Unfit reason ∧
        error = ⟨index + 1, .invalidInstruction reason⟩ := by
  rw [readFrom_eq_inOrder] at read
  simp only [instructionsFrom_eq_inOrder, inOrder_eq_error_iff, mapError_eq_ok_iff,
    mapError_eq_error_iff]
  constructor
  · rintro ⟨index, entry, there, ⟨reason, refused, rfl⟩, before⟩
    obtain ⟨word, found, readHere⟩ := getElem?_of_inOrder read there
    rw [mapError_eq_ok_iff] at readHere
    refine ⟨index, word, reason, ⟨found, ?_, ?_⟩, (make_eq_error_of_readWord readHere).mp refused,
      by rw [Nat.add_comm]⟩
    · intro fitting
      obtain ⟨instruction, made⟩ := (exists_make_of_readWord readHere).mpr fitting
      rw [refused] at made
      cases made
    · intro earlier less other otherFound
      obtain ⟨otherEntry, otherThere, otherRead⟩ := getElem?_results_of_inOrder read otherFound
      have made := before earlier less otherEntry otherThere
      exact (exists_make_of_readWord (mapError_eq_ok_iff.mp otherRead)).mp made
  · rintro ⟨index, word, reason, first, unfit, rfl⟩
    obtain ⟨entry, there, readHere⟩ := getElem?_results_of_inOrder read first.found
    rw [mapError_eq_ok_iff] at readHere
    refine ⟨index, entry, there, ⟨reason, (make_eq_error_of_readWord readHere).mpr unfit,
      by rw [Nat.add_comm]⟩, ?_⟩
    intro earlier less otherEntry otherThere
    obtain ⟨other, otherFound, otherRead⟩ := getElem?_of_inOrder read otherThere
    have fitting := first.before earlier less other otherFound
    exact (exists_make_of_readWord (mapError_eq_ok_iff.mp otherRead)).mpr fitting

end Walks

end Image

/-- Decoding accepts exactly the valid images, which are those whose words are all readable and
fitting.  It reports the first word that is not readable, for the first of its fields that means
nothing, and only if there is none the first word that does not fit. -/
theorem Program.decode_valid (image : List Word) :
    ((∃ program, decode image = .ok program) ↔
      ∀ word ∈ image, word.Readable image.length ∧ word.Fitting) ∧
    ∀ error, decode image = .error error ↔
      (∃ index word cause, Image.FirstFailing image (Word.Readable image.length) index word ∧
        word.Unreadable image.length cause ∧ error = ⟨index + 1, cause⟩) ∨
      (∀ word ∈ image, word.Readable image.length) ∧
        ∃ index word reason, Image.FirstFailing image Word.Fitting index word ∧
          word.Unfit reason ∧ error = ⟨index + 1, .invalidInstruction reason⟩ := by
  constructor
  · simp only [decode, bind_eq_ok_iff, forall_and]
    constructor
    · rintro ⟨program, entries, read, instructions, made, _⟩
      exact ⟨Image.exists_readFrom_iff.mp ⟨entries, read⟩,
        (Image.exists_instructionsFrom_iff read).mp ⟨instructions, made⟩⟩
    · rintro ⟨readable, fitting⟩
      obtain ⟨entries, read⟩ := Image.exists_readFrom_iff.mpr readable
      obtain ⟨instructions, made⟩ := (Image.exists_instructionsFrom_iff read).mpr fitting
      exact ⟨_, entries, read, instructions, made, rfl⟩
  · intro error
    rw [decode, bind_eq_error_iff, Image.readFrom_eq_error_iff]
    apply or_congr_right
    constructor
    · rintro ⟨entries, read, failed⟩
      rcases bind_eq_error_iff.mp failed with refused | ⟨_, _, impossible⟩
      · exact ⟨Image.exists_readFrom_iff.mp ⟨entries, read⟩,
          (Image.instructionsFrom_eq_error_iff read).mp refused⟩
      · cases impossible
    · rintro ⟨readable, refused⟩
      obtain ⟨entries, read⟩ := Image.exists_readFrom_iff.mpr readable
      have failed := (Image.instructionsFrom_eq_error_iff read).mpr refused
      exact ⟨entries, read, bind_eq_error_iff.mpr (.inl failed)⟩

-- The fields are the ends of a word, and what stands between them is ignored.
example : Program.decode [0x00000007ABCD0201, 0x000000000000000B] =
    .ok ⟨[⟨.add, [], [.register 7], rfl⟩, ⟨.halt, [], [], rfl⟩]⟩ := rfl

-- The `ADD` without an argument comes first, but the opcode behind it is reported, and not its tag.
example : Program.decode [0x0000000000000001, 0x000000000000FF0C] =
    .error ⟨2, .invalidOpcode 12⟩ := rfl

end Ram
