import Ram.Mnemonic

/-!
# Instructions

An instruction has a mnemonic, the labels that point at it, and arguments that fit
the mnemonic.  That they fit is part of the type, so an instruction that lacks an
argument, or has one too many, or has one of the wrong kind, does not exist.

`fill` puts arguments into a list of shapes from the left and gives back the shapes
that are still open.  Arguments *fit* when nothing is left open.  A `Builder` puts an
instruction together one part at a time.  It keeps the shapes that are still open,
refuses an argument that the next of them does not admit, and builds the instruction
once none is left.
-/

namespace Ram

/-! ## Filling shapes -/

/-- The shapes that stay open when the arguments are put into them from the left, if
each argument has the shape of its place. -/
def fill : List Shape → List Argument → Option (List Shape)
  | shapes, [] => some shapes
  | [], _ :: _ => none
  | shape :: shapes, argument :: arguments =>
    if shape.admits argument then fill shapes arguments else none

@[simp] theorem fill_nil (shapes : List Shape) : fill shapes [] = some shapes := by
  cases shapes <;> rfl

/-- One more argument takes the first shape that is open. -/
theorem fill_concat {argument : Argument} :
    ∀ {shapes : List Shape} {arguments : List Argument} {next : Shape} {rest : List Shape},
      fill shapes arguments = some (next :: rest) → next.admits argument = true →
        fill shapes (arguments ++ [argument]) = some rest
  | shapes, [], next, rest, filled, admitted => by
      simp only [fill_nil, Option.some.injEq] at filled
      subst filled
      simp [fill, admitted]
  | [], _ :: _, _, _, filled, _ => by simp [fill] at filled
  | shape :: shapes, first :: arguments, next, rest, filled, admitted => by
      simp only [fill] at filled
      split at filled
      next fits => simp [fill, fits, fill_concat filled admitted]
      next => simp at filled

/-! ## Instructions -/

/-- An instruction. -/
structure Instruction where
  /-- What the instruction does. -/
  mnemonic : Mnemonic
  /-- The labels that point at it, in the order of their declarations. -/
  labels : List String
  /-- Its arguments. -/
  arguments : List Argument
  /-- The arguments fit the mnemonic. -/
  fits : fill mnemonic.shapes arguments = some []
deriving DecidableEq

namespace Instruction

/-- The argument with the given index, counted from 0. -/
def argument? (instruction : Instruction) (index : Nat) : Option Argument :=
  instruction.arguments[index]?

/-- The instruction in assembly. -/
def text (instruction : Instruction) : String :=
  String.join (instruction.labels.map (· ++ ": ")) ++ instruction.mnemonic.name
    ++ String.join (instruction.arguments.map (" " ++ ·.text))

end Instruction

/-! ## Refused arguments -/

/-- Why arguments do not make an instruction. -/
inductive ArgumentError where
  /-- Every place of the instruction is taken. -/
  | tooMany (mnemonic : Mnemonic) (argument : Argument)
  /-- The argument does not have the shape of its place. -/
  | unsupported (mnemonic : Mnemonic) (index : Nat) (shape : Shape) (argument : Argument)
  /-- Some place of the instruction is not taken. -/
  | missing (mnemonic : Mnemonic) (expected provided : Nat)
deriving DecidableEq, Repr

namespace ArgumentError

/-- The place with the given index, counted from 0, in words. -/
def ordinal : Nat → String
  | 0 => "1st"
  | 1 => "2nd"
  | 2 => "3rd"
  | index => Numeral.decimal (index + 1) ++ "th"

/-- The ending of a noun that is counted. -/
def plural (count : Nat) : String := if count = 1 then "" else "s"

/-- The error in words. -/
def message : ArgumentError → String
  | tooMany mnemonic argument =>
    "The " ++ mnemonic.name ++ " instruction takes " ++ Numeral.decimal mnemonic.arity
      ++ " argument" ++ plural mnemonic.arity ++ ", " ++ argument.text ++ " is one too many"
  | unsupported mnemonic index shape argument =>
    "The " ++ ordinal index ++ " argument of the " ++ mnemonic.name ++ " instruction must be "
      ++ shape.text ++ ", got " ++ argument.text
  | missing mnemonic expected provided =>
    "The " ++ mnemonic.name ++ " instruction takes " ++ Numeral.decimal expected ++ " argument"
      ++ plural expected ++ " but " ++ Numeral.decimal provided
      ++ (if provided = 1 then " was" else " were") ++ " given"

end ArgumentError

/-! ## Building -/

/-- An instruction in the making. -/
structure Builder where
  /-- What the instruction does. -/
  mnemonic : Mnemonic
  /-- The labels given so far. -/
  labels : List String
  /-- The arguments accepted so far. -/
  arguments : List Argument
  /-- The shapes that are still open. -/
  remaining : List Shape
  /-- The accepted arguments leave these shapes open. -/
  filled : fill mnemonic.shapes arguments = some remaining
deriving DecidableEq

namespace Builder

/-- A builder with nothing but a mnemonic. -/
def start (mnemonic : Mnemonic) : Builder :=
  { mnemonic, labels := [], arguments := [], remaining := mnemonic.shapes, filled := fill_nil _ }

/-- The builder with one more label. -/
def label (builder : Builder) (name : String) : Builder :=
  { builder with labels := builder.labels ++ [name] }

/-- The builder with one more argument, if the next open shape admits it. -/
def argument (builder : Builder) (argument : Argument) : Except ArgumentError Builder :=
  match builder with
  | ⟨mnemonic, _, _, [], _⟩ => .error (.tooMany mnemonic argument)
  | ⟨mnemonic, labels, arguments, next :: rest, filled⟩ =>
    if admitted : next.admits argument = true then
      .ok ⟨mnemonic, labels, arguments ++ [argument], rest, fill_concat filled admitted⟩
    else
      .error (.unsupported mnemonic arguments.length next argument)

/-- The instruction, if no shape is open any more. -/
def build : Builder → Except ArgumentError Instruction
  | ⟨mnemonic, labels, arguments, [], filled⟩ => .ok ⟨mnemonic, labels, arguments, filled⟩
  | ⟨mnemonic, _, arguments, _ :: _, _⟩ =>
    .error (.missing mnemonic mnemonic.arity arguments.length)

end Builder

/-- The instruction with the given parts, or the first reason why there is none. -/
def Instruction.make (mnemonic : Mnemonic) (labels : List String) (arguments : List Argument) :
    Except ArgumentError Instruction := do
  let labelled := labels.foldl Builder.label (Builder.start mnemonic)
  let complete ← arguments.foldlM Builder.argument labelled
  complete.build

end Ram
