import Ram.Proofs.Image.RoundTrip

/-!
# Encoding a decoded image

Decoding does not look at the reserved bits of a word, nor at its value if the tag says that
there is none.  `Word.canonical` is the word with zeros in these bits.  It is the word that
encoding gives for the fields that decoding reads (`Word.pack_fields`), so the image of a decoded
program is the image it was decoded from with every word made canonical.

Decoding a canonical image and encoding a decoded program are therefore inverse to each other.
`decode_eq_ok_iff` says which programs come of an image: those that are encoded as its canonical
words, with labels that point at instructions and are called after their positions.
-/

namespace Ram

/-! ## Bits of a word -/

namespace Word

/-- The word with zeros in the bits that decoding does not look at.  These are the reserved bits
16 to 31, and the bits 32 to 63 of the value if the tag says that there is none. -/
def canonical (word : Word) : Word :=
  if word.tag = Image.Tag.none.code then word &&& 0x000000000000FFFF
  else word &&& 0xFFFFFFFF0000FFFF

theorem testBit_of_le {word : Word} {bit : Nat} (large : 64 ≤ bit) :
    word.toNat.testBit bit = false := by
  apply Nat.testBit_lt_two_pow
  calc word.toNat < 2 ^ 64 := word.toNat_lt
    _ ≤ 2 ^ bit := Nat.pow_le_pow_right (by decide) large

/-- The lowest 16 bits are kept, the next 16 are cleared, and the others are kept if there is a
value. -/
theorem testBit_canonical (word : Word) (bit : Nat) :
    word.canonical.toNat.testBit bit =
      (word.toNat.testBit bit &&
        (bit < 16 || 32 ≤ bit && word.tag ≠ Image.Tag.none.code)) := by
  rcases Nat.lt_or_ge bit 64 with small | large
  · have low : ∀ bit < 64, (0x000000000000FFFF : Nat).testBit bit = decide (bit < 16) := by decide
    have fields : ∀ bit < 64, (0xFFFFFFFF0000FFFF : Nat).testBit bit =
        (decide (bit < 16) || decide (32 ≤ bit)) := by decide
    unfold canonical
    split
    next none => simp [none, low bit small]
    next given => simp [given, fields bit small]
  · simp [testBit_of_le large]

/-- The bits of a word are those of its fields. -/
theorem testBit_pack (value : UInt32) (tag opcode : UInt8) (bit : Nat) :
    (pack value tag opcode).toNat.testBit bit =
      if bit < 32 then
        if bit < 8 then opcode.toNat.testBit bit else tag.toNat.testBit (bit - 8)
      else value.toNat.testBit (bit - 32) := by
  have ho := opcode.toNat_lt
  have ht := tag.toNat_lt
  have parts : (pack value tag opcode).toNat =
      2 ^ 32 * value.toNat + (2 ^ 8 * tag.toNat + opcode.toNat) := by
    rw [toNat_pack]
    omega
  rw [parts, Nat.testBit_two_pow_mul_add _ (by omega), Nat.testBit_two_pow_mul_add _ ho]

theorem testBit_opcode (word : Word) (bit : Nat) :
    word.opcode.toNat.testBit bit = (decide (bit < 8) && word.toNat.testBit bit) := by
  rw [opcode, UInt64.toNat_toUInt8, Nat.testBit_mod_two_pow]

theorem testBit_tag (word : Word) (bit : Nat) :
    word.tag.toNat.testBit bit = (decide (bit < 8) && word.toNat.testBit (8 + bit)) := by
  rw [tag, UInt64.toNat_toUInt8, Nat.testBit_mod_two_pow, UInt64.toNat_shiftRight,
    Nat.testBit_shiftRight]
  rfl

theorem testBit_value (word : Word) (bit : Nat) :
    word.value.toNat.testBit bit = (decide (bit < 32) && word.toNat.testBit (32 + bit)) := by
  rw [value, UInt64.toNat_toUInt32, Nat.testBit_mod_two_pow, UInt64.toNat_shiftRight,
    Nat.testBit_shiftRight]
  rfl

/-- A canonical word is made of the fields of the word alone. -/
theorem pack_fields (word : Word) :
    pack (if word.tag = Image.Tag.none.code then 0 else word.value) word.tag word.opcode =
      word.canonical := by
  apply UInt64.toNat.inj
  apply Nat.eq_of_testBit_eq
  intro bit
  rw [testBit_pack, testBit_canonical, testBit_opcode, testBit_tag]
  rcases Nat.lt_or_ge bit 32 with low | high
  · rcases Nat.lt_or_ge bit 8 with inOpcode | above
    · have : bit < 16 := by omega
      simp [low, inOpcode, this]
    · have place : 8 + (bit - 8) = bit := by omega
      have tagged : bit - 8 < 8 ↔ bit < 16 := by omega
      have notValue : ¬ 32 ≤ bit := by omega
      simp [low, Nat.not_lt.mpr above, place, tagged, notValue, Bool.and_comm]
  · have place : 32 + (bit - 32) = bit := by omega
    have notLow : ¬ bit < 16 := by omega
    rw [if_neg (Nat.not_lt.mpr high)]
    split
    next none => simp [none, notLow]
    next given =>
      rw [testBit_value, place]
      rcases Nat.lt_or_ge bit 64 with small | large
      · have : bit - 32 < 32 := by omega
        simp [this, given, high]
      · simp [testBit_of_le large]

@[simp] theorem opcode_canonical (word : Word) : word.canonical.opcode = word.opcode := by
  rw [← pack_fields, opcode_pack]

@[simp] theorem tag_canonical (word : Word) : word.canonical.tag = word.tag := by
  rw [← pack_fields, tag_pack]

theorem value_canonical {word : Word} (given : word.tag ≠ Image.Tag.none.code) :
    word.canonical.value = word.value := by
  rw [← pack_fields, value_pack, if_neg given]

end Word

/-! ## Reading a word -/

theorem Mnemonic.ofOpcode?_eq_some_iff {code : UInt8} {mnemonic : Mnemonic} :
    ofOpcode? code = some mnemonic ↔ code = mnemonic.opcode := by
  constructor
  · intro found
    have same := List.find?_some found
    exact (of_decide_eq_true same).symm
  · rintro rfl
    exact ofOpcode?_opcode mnemonic

namespace Image

theorem ofCode?_eq_some_iff {code : UInt8} {tag : Tag} :
    Tag.ofCode? code = some tag ↔ code = tag.code := by
  constructor
  · intro found
    have same := List.find?_some found
    exact (of_decide_eq_true same).symm
  · rintro rfl
    exact ofCode?_code tag

theorem readWord_eq_ok_iff {length : Nat} {word : Word} {entry : Entry} :
    readWord length word = .ok entry ↔
      word.opcode = entry.mnemonic.opcode ∧
        ∃ tag : Tag, word.tag = tag.code ∧
          Image.argument length tag word.value = .ok entry.argument := by
  constructor
  · intro read
    unfold readWord at read
    split at read
    next => cases read
    next mnemonic known =>
      split at read
      next => cases read
      next tag tagged =>
        cases given : Image.argument length tag word.value with
        | error cause =>
            rw [given] at read
            cases read
        | ok argument =>
            rw [given] at read
            cases read
            exact ⟨Mnemonic.ofOpcode?_eq_some_iff.mp known, tag, ofCode?_eq_some_iff.mp tagged, given⟩
  · rintro ⟨opcode, tag, tagged, read⟩
    simp only [readWord, opcode, Mnemonic.ofOpcode?_opcode, tagged, ofCode?_code, read]
    rfl

theorem readWord_canonical (length : Nat) (word : Word) :
    readWord length word.canonical = readWord length word := by
  simp only [readWord, Word.opcode_canonical, Word.tag_canonical]
  by_cases given : word.tag = Tag.none.code
  · simp only [given, ofCode?_code, Image.argument]
  · simp only [Word.value_canonical given]

/-- What is known of an argument that was read from the tag and the value of a word. -/
structure ReadAs (tag : Tag) (value : UInt32) (argument : Option Argument) : Prop where
  tagged : tagOf argument = tag
  number : numberOf argument = (if tag = .none then 0 else value).toNat
  canonical : argument.map Argument.canonical = argument

theorem readAs_of_argument {length : Nat} {tag : Tag} {value : UInt32}
    {argument : Option Argument} (read : Image.argument length tag value = .ok argument) :
    ReadAs tag value argument := by
  have bound := value.toNat_lt
  cases tag with
  | none =>
      cases read
      exact ⟨rfl, rfl, rfl⟩
  | literal =>
      cases read
      exact ⟨rfl, Int64.toInt_ofNat_of_lt (by omega), rfl⟩
  | register =>
      cases read
      exact ⟨rfl, by simp [numberOf], rfl⟩
  | label =>
      simp only [Image.argument] at read
      split at read
      next => cases read
      next =>
        cases read
        exact ⟨rfl, rfl, rfl⟩

theorem tagOf_canonical (argument : Option Argument) :
    tagOf (argument.map Argument.canonical) = tagOf argument := by
  rcases argument with _ | (_ | _ | _) <;> rfl

theorem numberOf_canonical (argument : Option Argument) :
    numberOf (argument.map Argument.canonical) = numberOf argument := by
  rcases argument with _ | (_ | _ | _) <;> rfl

theorem code_eq_none_iff {tag : Tag} : tag.code = Tag.none.code ↔ tag = .none := by
  cases tag <;> decide

/-- An instruction with the fields of a word is encoded as the canonical word. -/
theorem encodeInstruction_of_readWord {length : Nat} {word : Word} {instruction : Instruction}
    (read : readWord length word = .ok (entry instruction)) :
    encodeInstruction instruction = .ok word.canonical := by
  obtain ⟨opcode, tag, tagged, read⟩ := readWord_eq_ok_iff.mp read
  obtain ⟨sameTag, number, _⟩ := readAs_of_argument read
  rw [entry, tagOf_canonical] at sameTag
  rw [entry, numberOf_canonical] at number
  have bound := (if tag = .none then 0 else word.value).toNat_lt
  rw [encodeInstruction, if_pos (by rw [number]; omega), number, sameTag, Int.toNat_natCast,
    UInt32.ofNat_toNat, ← Word.pack_fields, opcode, tagged]
  simp only [code_eq_none_iff, entry]

/-! ## The two walks of decoding -/

/-- Instructions with the fields of some words are encoded as the canonical words. -/
theorem encodeFrom_of_readFrom {length : Nat} :
    ∀ {words : List Word} {position : Nat} {instructions : List Instruction},
      readFrom length position words = .ok (instructions.map entry) →
        encodeFrom position instructions = .ok (words.map Word.canonical)
  | [], _, [], _ => rfl
  | [], _, _ :: _, walked => by cases walked
  | _ :: _, _, [], walked => by
      rw [readFrom_eq_inOrder, inOrder_cons_eq_ok_iff] at walked
      obtain ⟨_, _, _, _, same⟩ := walked
      cases same
  | word :: rest, position, instruction :: others, walked => by
      rw [readFrom_eq_inOrder, inOrder_cons_eq_ok_iff] at walked
      obtain ⟨_, _, read, walked, same⟩ := walked
      cases same
      rw [← readFrom_eq_inOrder] at walked
      rw [encodeFrom_eq_inOrder, List.map_cons, inOrder_cons_eq_ok_iff, ← encodeFrom_eq_inOrder]
      have encoded := encodeInstruction_of_readWord (mapError_eq_ok_iff.mp read)
      exact ⟨_, _, mapError_eq_ok_iff.mpr encoded, encodeFrom_of_readFrom walked, rfl⟩

theorem canonical_of_mem_readFrom {length position : Nat} {words : List Word}
    {entries : List Entry} (walked : readFrom length position words = .ok entries) :
    ∀ entry ∈ entries, entry.argument.map Argument.canonical = entry.argument := by
  intro entry member
  rw [readFrom_eq_inOrder] at walked
  obtain ⟨index, found⟩ := List.mem_iff_getElem?.mp member
  obtain ⟨word, _, read⟩ := getElem?_of_inOrder walked found
  obtain ⟨_, _, _, read⟩ := readWord_eq_ok_iff.mp (mapError_eq_ok_iff.mp read)
  exact (readAs_of_argument read).canonical

/-- Instructions have the fields of the entries that they were made of. -/
theorem map_entry_of_instructionsFrom {all : List Entry} :
    ∀ {entries : List Entry} {position : Nat} {instructions : List Instruction},
      (∀ entry ∈ entries, entry.argument.map Argument.canonical = entry.argument) →
        instructionsFrom all position entries = .ok instructions →
          instructions.map entry = entries
  | [], _, _, _, walked => by
      cases walked
      rfl
  | first :: rest, position, _, canonical, walked => by
      rw [instructionsFrom, bind_eq_ok_iff] at walked
      obtain ⟨instruction, made, walked⟩ := walked
      obtain ⟨others, restWalked, same⟩ := bind_eq_ok_iff.mp walked
      cases same
      obtain ⟨mnemonic, _, arguments⟩ := Instruction.make_eq_ok_iff.mp (mapError_eq_ok_iff.mp made)
      obtain ⟨firstCanonical, restCanonical⟩ := List.forall_mem_cons.mp canonical
      have argument : instruction.argument? 0 = first.argument := by
        rw [Instruction.argument?, arguments]
        cases first.argument <;> rfl
      rw [List.map_cons, map_entry_of_instructionsFrom restCanonical restWalked, entry, argument,
        firstCanonical, mnemonic]

/-! ## Decoding and encoding again -/

theorem encode_of_decode {image : List Word} {program : Program}
    (decoded : Program.decode image = .ok program) :
    program.encode = .ok (image.map Word.canonical) := by
  rw [Program.decode, bind_eq_ok_iff] at decoded
  obtain ⟨entries, read, decoded⟩ := decoded
  obtain ⟨instructions, made, same⟩ := bind_eq_ok_iff.mp decoded
  cases same
  rw [← map_entry_of_instructionsFrom (canonical_of_mem_readFrom read) made] at read
  exact encodeFrom_of_readFrom read

/-- Decoding does not tell an image from the one with the canonical words. -/
theorem decode_map_canonical (image : List Word) :
    Program.decode (image.map Word.canonical) = Program.decode image := by
  simp only [Program.decode, readFrom_eq_inOrder, inOrder_map, readWord_canonical, List.length_map]

/-- A program comes of an image exactly when it is encoded as the canonical words of the image and
its labels point at instructions and are called after their positions. -/
theorem decode_eq_ok_iff {image : List Word} {program : Program} :
    Program.decode image = .ok program ↔
      program.encode = .ok (image.map Word.canonical) ∧
        (∀ instruction ∈ program.instructions, ∀ argument ∈ instruction.arguments,
          Inside program.length argument) ∧
        program = program.canonical := by
  constructor
  · intro decoded
    have encoded := encode_of_decode decoded
    obtain ⟨fits, words⟩ := encode_eq_ok_iff.mp encoded
    rw [← decode_map_canonical, words] at decoded
    exact ⟨encoded, (decode_words_eq_ok_iff fits).mp decoded⟩
  · rintro ⟨encoded, known⟩
    obtain ⟨fits, words⟩ := encode_eq_ok_iff.mp encoded
    rw [← decode_map_canonical, words]
    exact (decode_words_eq_ok_iff fits).mpr known

end Image

/-- A decoded program is encoded as the image it came of, with zeros in the bits that decoding
does not look at, and that image is decoded to the same program again. -/
theorem Program.encode_decode {image : List Word} {program : Program}
    (decoded : decode image = .ok program) :
    program.encode = .ok (image.map Word.canonical) ∧
      decode (image.map Word.canonical) = .ok program := by
  constructor
  · exact Image.encode_of_decode decoded
  · rw [Image.decode_map_canonical, decoded]

/-- Reserved bits in every word, and values in words that have no argument. -/
theorem Program.encode_decode_junk :
    let image : List Word :=
      [0x00000003FFFF0308, 0x8000000000010101, 0xFFFFFFFFFFFF000B, 0xFFFFFFFFABCD0204]
    let canonical : List Word :=
      [0x0000000300000308, 0x8000000000000101, 0x000000000000000B, 0xFFFFFFFF00000204]
    let program : Program :=
      ⟨[⟨.jzero, [], [.label "l3" 3], rfl⟩, ⟨.add, [], [.literal 0x80000000], rfl⟩,
        ⟨.halt, ["l3"], [], rfl⟩, ⟨.load, [], [.register 0xFFFFFFFF], rfl⟩]⟩
    decode image = .ok program ∧ image.map Word.canonical = canonical ∧
      program.encode = .ok canonical ∧ decode canonical = .ok program := by
  intro image canonical program
  have decoded : decode image = .ok program := by rfl
  have words : image.map Word.canonical = canonical := by decide +kernel
  exact ⟨decoded, words, words ▸ encode_decode decoded⟩

end Ram
