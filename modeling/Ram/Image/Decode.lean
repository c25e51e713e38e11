import Ram.Image.Basic
import Ram.Program

/-!
# Decoding

Decoding calls the instruction at position `p` by the name `lp` if some instruction of
the image has a label there, so a decoded program has the jumps of the one that was
encoded.

It first reads the fields of every word, in order, and fails at the first opcode or tag
that means nothing or label that points outside the image.  Only then it makes the
instructions, and fails at the first word whose argument does not fit its mnemonic.  The
reserved bits are not looked at, nor is the value of a word without an argument.
-/

namespace Ram

namespace Image

/-- The name of the label for a position. -/
def labelName (target : Nat) : String := "l" ++ Numeral.decimal target

/-- The argument with the given tag and value, in an image of the given length. -/
def argument (length : Nat) (tag : Tag) (value : UInt32) : Except Cause (Option Argument) :=
  match tag with
  | .none => .ok .none
  | .literal => .ok (some (.literal (Int64.ofNat value.toNat)))
  | .register => .ok (some (.register value.toUInt64))
  | .label =>
    if value.toNat = 0 ∨ length < value.toNat then .error (.labelOutOfRange value.toNat)
    else .ok (some (.label (labelName value.toNat) value.toNat))

/-- A word read field by field. -/
structure Entry where
  /-- What the instruction does. -/
  mnemonic : Mnemonic
  /-- Its argument, if it has one. -/
  argument : Option Argument
deriving DecidableEq, Repr

/-- The position that the argument of an entry points at. -/
def Entry.target? (entry : Entry) : Option Nat := entry.argument.bind Argument.position?

/-- The fields of a word, in an image of the given length. -/
def readWord (length : Nat) (word : Word) : Except Cause Entry :=
  match Mnemonic.ofOpcode? word.opcode with
  | none => .error (.invalidOpcode word.opcode)
  | some mnemonic =>
    match Tag.ofCode? word.tag with
    | none => .error (.invalidTag word.tag)
    | some tag => (argument length tag word.value).map (Entry.mk mnemonic)

/-- The fields of some words, the first of which has the given position. -/
def readFrom (length : Nat) (position : Nat) : List Word → Except Error (List Entry)
  | [] => .ok []
  | word :: rest => do
    let entry ← (readWord length word).mapError (Error.mk position)
    let entries ← readFrom length (position + 1) rest
    return entry :: entries

/-- The labels of a position: its name if one of the entries points at it. -/
def labelsAt (entries : List Entry) (position : Nat) : List String :=
  if entries.any fun entry => entry.target? = some position then [labelName position] else []

/-- The instructions of some entries among all of them, the first of which has the
given position. -/
def instructionsFrom (all : List Entry) (position : Nat) :
    List Entry → Except Error (List Instruction)
  | [] => .ok []
  | entry :: rest => do
    let instruction ←
      (Instruction.make entry.mnemonic (labelsAt all position) entry.argument.toList).mapError
        fun error => Error.mk position (.invalidInstruction error)
    let instructions ← instructionsFrom all (position + 1) rest
    return instruction :: instructions

end Image

/-- The program of an image. -/
def Program.decode (image : List Word) : Except Image.Error Program := do
  let entries ← Image.readFrom image.length 1 image
  let instructions ← Image.instructionsFrom entries 1 entries
  return ⟨instructions⟩

end Ram
