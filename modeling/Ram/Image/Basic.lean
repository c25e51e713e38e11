import Ram.Instruction

/-!
# Binary images

The image of a program has one word of 64 bits for each instruction.

```text
[value : 32] [reserved : 16] [tag : 8] [opcode : 8]
```

The tag says what the value is: nothing, a literal, the number of a register or the
position of a label.  Names of labels are not part of an image.  This module holds the
fields of a word, the tags and the errors.
-/

namespace Ram

/-- A word of an image. -/
abbrev Word := UInt64

namespace Word

/-- The opcode of a word. -/
def opcode (word : Word) : UInt8 := word.toUInt8

/-- The tag of a word. -/
def tag (word : Word) : UInt8 := (word >>> 8).toUInt8

/-- The value of a word. -/
def value (word : Word) : UInt32 := (word >>> 32).toUInt32

/-- The word with the given fields. -/
def pack (value : UInt32) (tag opcode : UInt8) : Word :=
  (value.toUInt64 <<< 32) + (tag.toUInt64 <<< 8) + opcode.toUInt64

/-! ### The fields as numbers -/

/-- The opcode is the lowest byte. -/
theorem toNat_opcode (word : Word) : word.opcode.toNat = word.toNat % 0x100 :=
  UInt64.toNat_toUInt8 word

/-- The tag is the byte above the opcode. -/
theorem toNat_tag (word : Word) : word.tag.toNat = word.toNat / 0x100 % 0x100 := by
  rw [tag, UInt64.toNat_toUInt8, UInt64.toNat_shiftRight, Nat.shiftRight_eq_div_pow]
  rfl

/-- The value is the upper half. -/
theorem toNat_value (word : Word) : word.value.toNat = word.toNat / 0x100000000 := by
  have bound := word.toNat_lt
  rw [value, UInt64.toNat_toUInt32, UInt64.toNat_shiftRight, Nat.shiftRight_eq_div_pow]
  simp only [UInt64.reduceToNat, Nat.reduceMod]
  omega

/-- The fields of a word do not overlap. -/
theorem toNat_pack (value : UInt32) (tag opcode : UInt8) :
    (pack value tag opcode).toNat =
      value.toNat * 0x100000000 + tag.toNat * 0x100 + opcode.toNat := by
  have ho := opcode.toNat_lt
  have ht := tag.toNat_lt
  have hv := value.toNat_lt
  simp only [pack, UInt64.toNat_add, UInt64.toNat_shiftLeft, UInt32.toNat_toUInt64,
    UInt8.toNat_toUInt64, Nat.shiftLeft_eq, UInt64.reduceToNat, Nat.reduceMod]
  omega

@[simp] theorem opcode_pack (value : UInt32) (tag opcode : UInt8) :
    Word.opcode (pack value tag opcode) = opcode := by
  apply UInt8.toNat.inj
  have ho := opcode.toNat_lt
  rw [toNat_opcode, toNat_pack]
  omega

@[simp] theorem tag_pack (value : UInt32) (tag opcode : UInt8) :
    Word.tag (pack value tag opcode) = tag := by
  apply UInt8.toNat.inj
  have ho := opcode.toNat_lt
  have ht := tag.toNat_lt
  rw [toNat_tag, toNat_pack]
  omega

@[simp] theorem value_pack (value : UInt32) (tag opcode : UInt8) :
    Word.value (pack value tag opcode) = value := by
  apply UInt32.toNat.inj
  have ho := opcode.toNat_lt
  have ht := tag.toNat_lt
  rw [toNat_value, toNat_pack]
  omega

end Word

namespace Image

/-! ## Tags -/

/-- What the value field of a word holds. -/
inductive Tag where
  /-- Nothing. -/
  | none
  /-- A literal. -/
  | literal
  /-- The number of a register. -/
  | register
  /-- The position of a label. -/
  | label
deriving DecidableEq, Repr

/-- The code of a tag. -/
def Tag.code : Tag → UInt8
  | none => 0
  | literal => 1
  | register => 2
  | label => 3

/-- The tag with the given code. -/
def Tag.ofCode? (code : UInt8) : Option Tag :=
  [none, literal, register, label].find? fun tag => tag.code = code

/-! ## Errors -/

/-- Why an instruction or a word is refused. -/
inductive Cause where
  /-- The number of the argument does not fit 32 bits. -/
  | valueOutOfRange (value : Int)
  /-- No mnemonic has the opcode. -/
  | invalidOpcode (opcode : UInt8)
  /-- No kind of argument has the tag. -/
  | invalidTag (tag : UInt8)
  /-- The label points outside the image. -/
  | labelOutOfRange (target : Nat)
  /-- The argument does not fit the mnemonic. -/
  | invalidInstruction (error : ArgumentError)
deriving DecidableEq, Repr

/-- The cause in words. -/
def Cause.message : Cause → String
  | valueOutOfRange value => "value " ++ Numeral.integer value ++ " does not fit in 32 bits"
  | invalidOpcode opcode => "invalid opcode " ++ Numeral.byte opcode
  | invalidTag tag => "invalid argument tag " ++ Numeral.decimal tag.toNat
  | labelOutOfRange target =>
    "jump target " ++ Numeral.decimal target ++ " is outside the program"
  | invalidInstruction error => error.message

/-- Why a program has no image, or an image no program, and where. -/
structure Error where
  /-- The position of the instruction or the word. -/
  position : Nat
  /-- Why it is refused. -/
  cause : Cause
deriving DecidableEq, Repr

/-- The error in words. -/
def Error.message (error : Error) : String :=
  "instruction " ++ Numeral.decimal error.position ++ ": " ++ error.cause.message

end Image

end Ram
