import Ram.Assembly.Token
import Ram.Program

/-!
# The assembler

`assemble` turns a source into a program.  First it collects the labels of the whole
source, then it makes one instruction of every statement, so a label may be used
before its declaration.  An error in a declaration is therefore reported before any
error in a statement, wherever the two stand.

A statement is a mnemonic followed by its arguments, divided by blanks.  Words after
the last argument are ignored.  Labels after the last statement point at a `HALT`
that is added at the end.
-/

namespace Ram.Assembly

/-- The builder after its next arguments, as many as the number says, taken from the
tokens in order. -/
def LabelTable.supply (table : LabelTable) (builder : Builder) :
    Nat → List (List Char) → Except Cause Builder
  | 0, _ => .ok builder
  | _ + 1, [] =>
    .error (.missingArguments builder.mnemonic builder.mnemonic.arity builder.arguments.length)
  | count + 1, token :: tokens => do
    let argument ← table.argument token
    let next ← (builder.argument argument).mapError Cause.unsupportedArgument
    table.supply next count tokens

/-- The mnemonic that a word stands for. -/
def mnemonic (word : List Char) : Except Cause Mnemonic :=
  match Mnemonic.ofName? word with
  | some mnemonic => .ok mnemonic
  | none => .error (.unknownMnemonic (String.ofList word))

/-- The instruction that a statement stands for, at its position. -/
def LabelTable.instruction (table : LabelTable) (position : Nat) (text : List Char) :
    Except Cause Instruction := do
  let kind ← mnemonic ((Text.words text).headD [])
  let labelled := (table.attachedTo position).foldl Builder.label (Builder.start kind)
  let complete ← table.supply labelled kind.arity (Text.words text).tail
  complete.build.mapError Cause.incompleteInstruction

/-- The instructions that some statements stand for, where the first one has the given
position. -/
def LabelTable.instructions (table : LabelTable) (position : Nat) :
    List Statement → Except Error (List Instruction)
  | [] => .ok []
  | statement :: rest => do
    let first ← (table.instruction position statement.text).mapError (Error.mk statement.line)
    let others ← table.instructions (position + 1) rest
    return first :: others

/-- The statements of a source, with the one that is added for labels after the last
of them. -/
def LabelTable.completed (table : LabelTable) (lines : List SourceLine) : List Statement :=
  let written := statements 1 lines
  if table.attachedTo (written.length + 1) = [] then written
  else written ++ [⟨lines.length, Mnemonic.halt.name.toList⟩]

/-- The label table of some lines. -/
def labelTable (lines : List SourceLine) : Except Error LabelTable :=
  LabelTable.ofDeclarations (declarations 1 1 lines)

/-- The program that some lines stand for. -/
def program (lines : List SourceLine) : Except Error Program := do
  let table ← labelTable lines
  let instructions ← table.instructions 1 (table.completed lines)
  return ⟨instructions⟩

end Ram.Assembly

namespace Ram

/-- The program that a source stands for. -/
def assemble (source : String) : Except Assembly.Error Program :=
  Assembly.program (Assembly.sourceLines source.toList)

end Ram
