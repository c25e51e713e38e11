import Ram.Proofs.Assembly.Printable

/-!
# Printing and assembling again

A printable program is the program of its own text (`assemble_text`).  The proof follows the
text through assembly.  A line of the text is a layout of the labels, the name and the
arguments of one instruction, so reading it gives these parts back in lowercase.  Every line
has a body, so line, position and index go together and no `HALT` is added.  The labels are
distinct, so all of them enter the label table, and each word is read as the argument that it
was printed from.

Nearly all of this holds of a *legible* program, whose literals may also be too large.  Assembly
refuses such a literal, and nothing else (`Legible.instruction_readBack_eq_error_iff`).

Together with `printable_of_assemble` this makes the printable programs exactly those that
survive printing, and every program of a source is one of them.
-/

namespace Ram.Assembly

open Text

/-! ## Texts of arguments and mnemonics -/

theorem solid_toDigits (n : Nat) : Solid (Nat.toDigits 10 n) := by
  apply Solid.ofAll Nat.toDigits_ne_nil
  rw [List.all_eq_true]
  intro c member
  exact Numeral.forall_isDigit (fun d => !isBlank d && d != ':' && d != ';')
    (Numeral.isDigit_of_mem_toDigits member) (by decide)

theorem isSmall_of_mem_toDigits {n : Nat} {c : Char} (member : c ∈ Nat.toDigits 10 n) :
    isSmall c = true :=
  Numeral.forall_isDigit isSmall (Numeral.isDigit_of_mem_toDigits member) (by decide)

/-- A register in lowercase is `r` and the digits of its number. -/
theorem lowercase_register (number : RegisterNumber) :
    lowercase (Argument.register number).text.toList = 'r' :: Nat.toDigits 10 number.toNat := by
  have small : ∀ c ∈ Nat.toDigits 10 number.toNat, isSmall c = true := fun c member =>
    isSmall_of_mem_toDigits member
  have text : (Argument.register number).text.toList = ['R'] ++ Nat.toDigits 10 number.toNat := by
    simp [Argument.text]
  rw [text, lowercase_append (by decide) (sigma_not_mem small), lowercase_of_small small]
  rfl

theorem writable_register (number : RegisterNumber) :
    Writable (Argument.register number).text.toList := by
  have solid := solid_toDigits number.toNat
  have text : (Argument.register number).text.toList = 'R' :: Nat.toDigits 10 number.toNat := by
    simp [Argument.text]
  refine ⟨⟨by simp [text], ?_⟩, ⟨by simp [lowercase_register], ?_⟩, ?_⟩
  · rw [text]
    exact List.forall_mem_cons.mpr ⟨by decide, solid.plain⟩
  · rw [lowercase_register]
    exact List.forall_mem_cons.mpr ⟨by decide, solid.plain⟩
  · rw [text, List.mem_cons, not_or]
    exact ⟨by decide, sigma_not_mem fun c member => isSmall_of_mem_toDigits member⟩

theorem text_literal {value : Value} (nonneg : 0 ≤ value.toInt) :
    (Argument.literal value).text.toList = Nat.toDigits 10 value.toInt.toNat :=
  Numeral.toList_integer_of_nonneg nonneg

theorem writable_name (mnemonic : Mnemonic) : Writable mnemonic.name.toList := by
  cases mnemonic <;>
    exact ⟨.ofAll (by decide) (by decide), .ofAll (by decide) (by decide), by decide⟩

/-- A mnemonic is known by its name in lowercase. -/
theorem ofName?_lowercase (mnemonic : Mnemonic) :
    Mnemonic.ofName? (lowercase mnemonic.name.toList) = some mnemonic := by
  cases mnemonic <;> decide

theorem IsLabelText.writable {text : List Char} (label : IsLabelText text) : Writable text :=
  label.solid.writable (lowercase_eq_self_iff.mp label.lowered)

/-! ## Lines of a printed program -/

/-- The text of an instruction is the layout of its labels, its name and its arguments. -/
theorem toList_text (instruction : Instruction) :
    instruction.text.toList =
      layout (instruction.labels.map String.toList) instruction.mnemonic.name.toList
        (instruction.arguments.map fun argument => argument.text.toList) := by
  simp [Instruction.text, layout, bodyText, List.flatMap_map]

/-- The line of an instruction as it is read. -/
def readBack (instruction : Instruction) : SourceLine :=
  { labels := instruction.labels.map String.toList
    body := bodyText (lowercase instruction.mnemonic.name.toList)
      (instruction.arguments.map fun argument => lowercase argument.text.toList) }

theorem body_readBack (instruction : Instruction) : (readBack instruction).body ≠ [] := by
  simp [readBack, bodyText, (writable_name instruction.mnemonic).lowered.nonempty]

theorem body_of_mem_readBack {instructions : List Instruction} :
    ∀ source ∈ instructions.map readBack, source.body ≠ [] := by
  intro source known
  obtain ⟨instruction, _, rfl⟩ := List.mem_map.mp known
  exact body_readBack instruction

/-- The declarations of a printed program as a label table. -/
def readTable (instructions : List Instruction) : LabelTable :=
  ⟨declarations 1 1 (instructions.map readBack)⟩

/-- Whether the lines of a printed program are read as they were printed.  Every argument stands
for itself then, but for a literal that is too large. -/
structure Legible (program : Program) : Prop where
  nonnegative : ∀ instruction ∈ program.instructions, ∀ value,
    Argument.literal value ∈ instruction.arguments → 0 ≤ value.toInt
  names : ∀ instruction ∈ program.instructions, ∀ name ∈ instruction.labels,
    IsLabelText name.toList
  distinct : (program.instructions.flatMap Instruction.labels).Nodup
  targets : ∀ instruction ∈ program.instructions, ∀ name position,
    Argument.label name position ∈ instruction.arguments →
      ∃ target, program.get? position = some target ∧ name ∈ target.labels

/-- Whether the argument is not a literal, or one that fits 31 bits. -/
def InLimits : Argument → Prop
  | .literal value => value.toInt ≤ 0x7FFFFFFF
  | _ => True

instance : ∀ argument, Decidable (InLimits argument)
  | .literal value => inferInstanceAs (Decidable (value.toInt ≤ 0x7FFFFFFF))
  | .register _ => inferInstanceAs (Decidable True)
  | .label _ _ => inferInstanceAs (Decidable True)

/-- A program is printable exactly if it is legible and its arguments are in limits. -/
theorem printable_iff {program : Program} :
    Printable program ↔
      Legible program ∧ ∀ instruction ∈ program.instructions, ∀ argument ∈ instruction.arguments,
        InLimits argument := by
  constructor
  · intro printable
    refine ⟨⟨fun instruction member value given =>
      (printable.literals instruction member value given).1, printable.names, printable.distinct,
      printable.targets⟩, fun instruction member argument given => ?_⟩
    cases argument with
    | literal value => exact (printable.literals instruction member value given).2
    | register number => trivial
    | label name position => trivial
  · rintro ⟨legible, limited⟩
    exact ⟨fun instruction member value given =>
      ⟨legible.nonnegative instruction member value given, limited instruction member _ given⟩,
      legible.names, legible.distinct, legible.targets⟩

namespace Legible

variable {program : Program} {instruction : Instruction} {argument : Argument}

theorem isLabelText_argument (legible : Legible program)
    (member : instruction ∈ program.instructions) {name : String} {position : Nat}
    (given : Argument.label name position ∈ instruction.arguments) : IsLabelText name.toList := by
  obtain ⟨target, found, attached⟩ := legible.targets instruction member name position given
  exact legible.names target (Program.mem_of_get? found) name attached

theorem writable_argument (legible : Legible program)
    (member : instruction ∈ program.instructions) (given : argument ∈ instruction.arguments) :
    Writable argument.text.toList := by
  cases argument with
  | literal value =>
      rw [text_literal (legible.nonnegative instruction member value given)]
      exact (solid_toDigits _).writable fun c inside => isSmall_of_mem_toDigits inside
  | register number => exact writable_register number
  | label name position => exact (legible.isLabelText_argument member given).writable

theorem writable_label (legible : Legible program)
    (member : instruction ∈ program.instructions) :
    ∀ label ∈ instruction.labels.map String.toList, Writable label := by
  intro label known
  obtain ⟨name, attached, rfl⟩ := List.mem_map.mp known
  exact (legible.names instruction member name attached).writable

/-- The text of an instruction is read as its labels, its name and its arguments, in lowercase. -/
theorem read_text (legible : Legible program) (member : instruction ∈ program.instructions) :
    SourceLine.read instruction.text.toList = readBack instruction := by
  have tokens : ∀ token ∈ instruction.arguments.map fun argument => argument.text.toList,
      Writable token := by
    intro token known
    obtain ⟨argument, given, rfl⟩ := List.mem_map.mp known
    exact legible.writable_argument member given
  have labels : (instruction.labels.map String.toList).map lowercase =
      instruction.labels.map String.toList := by
    rw [List.map_map]
    apply List.map_congr_left
    intro name attached
    exact (legible.names instruction member name attached).lowered
  rw [toList_text, read_layout (legible.writable_label member) (writable_name _) tokens, labels,
    List.map_map]
  rfl

theorem newline_not_mem (legible : Legible program)
    (member : instruction ∈ program.instructions) : '\n' ∉ instruction.text.toList := by
  rw [toList_text]
  intro newline
  have parts := mem_layout (fun label known => (legible.writable_label member label known).solid)
    (writable_name _).solid
    (by
      intro token known
      obtain ⟨argument, given, rfl⟩ := List.mem_map.mp known
      exact (legible.writable_argument member given).solid)
    newline
  exact absurd parts (by decide)

/-- The lines of a printed program are those of its instructions. -/
theorem sourceLines_text (legible : Legible program) (nonempty : program.instructions ≠ []) :
    sourceLines program.text.toList = program.instructions.map readBack := by
  have text : program.text.toList =
      ['\n'].intercalate (program.instructions.map fun instruction => instruction.text.toList) := by
    rw [Program.text, String.toList_intercalate, List.map_map]
    rfl
  have split : program.text.toList.splitOn '\n' =
      program.instructions.map fun instruction => instruction.text.toList := by
    rw [text, List.splitOn_intercalate]
    · intro line known
      obtain ⟨instruction, member, rfl⟩ := List.mem_map.mp known
      exact legible.newline_not_mem member
    · simpa using nonempty
  rw [sourceLines, split, List.map_map]
  apply List.map_congr_left
  intro instruction member
  exact legible.read_text member

/-! ## The label table of a printed program -/

theorem ofList_labels_readBack (instruction : Instruction) :
    (readBack instruction).labels.map String.ofList = instruction.labels := by
  simp [readBack]

theorem names_readTable (instructions : List Instruction) :
    (readTable instructions).entries.map Declaration.name =
      instructions.flatMap Instruction.labels := by
  rw [readTable, map_name_declarations, List.flatMap_map]
  congr 1
  funext instruction
  exact ofList_labels_readBack instruction

/-- The first pass over the text of a program finds the labels of its instructions. -/
theorem labelTable_readBack (legible : Legible program) :
    labelTable (program.instructions.map readBack) = .ok (readTable program.instructions) := by
  have names := names_readTable program.instructions
  apply LabelTable.ofDeclarations_of_distinct
  · intro declaration member
    have known : declaration.name ∈ program.instructions.flatMap Instruction.labels := by
      rw [← names]
      exact List.mem_map_of_mem member
    obtain ⟨instruction, inside, attached⟩ := List.mem_flatMap.mp known
    exact (isLabelText_iff.mp (legible.names instruction inside _ attached)).1
  · exact names ▸ legible.distinct

/-- The names that stand for a position are the labels of the instruction there. -/
theorem attachedTo_readTable (instructions : List Instruction) (index : Nat) :
    (readTable instructions).attachedTo (index + 1) =
      (instructions[index]?.map Instruction.labels).getD [] := by
  rw [readTable, Nat.add_comm index 1, attachedTo_declarations _ _ _ body_of_mem_readBack,
    List.getElem?_map]
  cases instructions[index]? with
  | none => rfl
  | some instruction => exact ofList_labels_readBack instruction

/-- Each word of a printed instruction is read as the argument it was printed from. -/
theorem argument_readBack (legible : Legible program)
    (member : instruction ∈ program.instructions) (given : argument ∈ instruction.arguments)
    (limited : InLimits argument) :
    (readTable program.instructions).argument (lowercase argument.text.toList) = .ok argument := by
  cases argument with
  | literal value =>
      have nonneg := legible.nonnegative instruction member value given
      rw [text_literal nonneg, lowercase_of_small fun c inside => isSmall_of_mem_toDigits inside]
      exact LabelTable.argument_literal _ nonneg limited
  | register number =>
      rw [lowercase_register]
      exact LabelTable.argument_register _ number
  | label name position =>
      have label := legible.isLabelText_argument member given
      have wellFormed := LabelTable.wellFormed_of_ofDeclarations legible.labelTable_readBack
      obtain ⟨target, found, attached⟩ := legible.targets instruction member name position given
      have text : (Argument.label name position).text = name := rfl
      rw [text, label.lowered]
      refine LabelTable.argument_label (isLabelText_iff.mp label).1 ?_
      rw [wellFormed.resolve_eq_some_iff]
      cases position with
      | zero => cases found
      | succ index =>
          rw [Program.get?_succ] at found
          rw [attachedTo_readTable, found]
          exact attached

/-- The token of a literal that is out of limits is refused. -/
theorem argument_readBack_of_large (legible : Legible program)
    (member : instruction ∈ program.instructions) (given : argument ∈ instruction.arguments)
    (large : ¬ InLimits argument) :
    (readTable program.instructions).argument (lowercase argument.text.toList) =
      .error (.invalidNumeral argument.text) := by
  cases argument with
  | literal value =>
      have nonneg := legible.nonnegative instruction member value given
      have text := text_literal nonneg
      rw [text, lowercase_of_small fun c inside => isSmall_of_mem_toDigits inside,
        LabelTable.argument_large _ (Int.not_le.mp large), ← text, String.ofList_toList]
  | register number => exact absurd trivial large
  | label name position => exact absurd trivial large

/-- The words of a body are the name and the arguments, in lowercase. -/
theorem words_readBack (legible : Legible program)
    (member : instruction ∈ program.instructions) :
    words (readBack instruction).body =
      lowercase instruction.mnemonic.name.toList ::
        instruction.arguments.map fun argument => lowercase argument.text.toList := by
  apply words_bodyText (writable_name _).lowered
  intro token known
  obtain ⟨argument, given, rfl⟩ := List.mem_map.mp known
  exact (legible.writable_argument member given).lowered

/-- A body is read as the instruction that it is the text of. -/
theorem instruction_readBack (legible : Legible program) {index : Nat}
    (found : program.instructions[index]? = some instruction)
    (limited : ∀ argument ∈ instruction.arguments, InLimits argument) :
    (readTable program.instructions).instruction (index + 1) (readBack instruction).body =
      .ok instruction := by
  have member := List.mem_of_getElem? found
  rw [LabelTable.instruction_eq_ok_iff, legible.words_readBack member]
  refine ⟨ofName?_lowercase instruction.mnemonic, ?_, ?_⟩
  · rw [attachedTo_readTable, found]
    rfl
  · rw [List.tail_cons, ← instruction.length_arguments, List.take_of_length_le (by simp),
      List.forall₂_map_left_iff, List.forall₂_same]
    intro argument given
    exact legible.argument_readBack member given (limited argument given)

/-- A printed instruction is refused exactly for a literal that is too large. -/
theorem instruction_readBack_eq_error_iff (legible : Legible program) {position : Nat}
    (found : program.get? position = some instruction) {cause : Cause} :
    (readTable program.instructions).instruction position (readBack instruction).body =
        .error cause ↔
      ∃ argument ∈ instruction.arguments, ¬ InLimits argument ∧
        cause = .invalidNumeral argument.text := by
  obtain ⟨index, rfl⟩ : ∃ index, position = index + 1 := by
    cases position with
    | zero => cases found
    | succ index => exact ⟨index, rfl⟩
  have member := Program.mem_of_get? found
  by_cases limited : ∀ argument ∈ instruction.arguments, InLimits argument
  · rw [legible.instruction_readBack found limited]
    constructor
    · intro failed
      cases failed
    · rintro ⟨argument, given, large, _⟩
      exact absurd (limited argument given) large
  · -- The instruction has one argument, and it is the literal.
    obtain ⟨argument, given, large⟩ : ∃ argument ∈ instruction.arguments, ¬ InLimits argument := by
      simpa using limited
    have single : instruction.arguments = [argument] := by
      rw [instruction.arguments_eq_toList, Option.mem_toList] at given
      rw [instruction.arguments_eq_toList, given]
      rfl
    have arity : instruction.mnemonic.arity = 1 := by
      rw [← instruction.length_arguments, single]
      rfl
    have words := legible.words_readBack member
    rw [single, List.map_singleton] at words
    rw [LabelTable.instruction_of_argument_error words (ofName?_lowercase instruction.mnemonic)
      arity (legible.argument_readBack_of_large member given large), single]
    simp [large, eq_comm]

/-- A printed program needs no added statement. -/
theorem completed_readTable (instructions : List Instruction) :
    (readTable instructions).completed (instructions.map readBack) =
      statements 1 (instructions.map readBack) := by
  have free : (readTable instructions).attachedTo
      ((statements 1 (instructions.map readBack)).length + 1) = [] := by
    rw [attachedTo_readTable, length_statements 1 body_of_mem_readBack, List.length_map,
      List.getElem?_eq_none (Nat.le_refl _)]
    rfl
  rw [LabelTable.completed, if_pos free]

/-- The second pass reads one instruction after another. -/
theorem instructions_readBack (table : LabelTable) :
    ∀ (instructions : List Instruction) (position : Nat),
      table.instructions position (statements position (instructions.map readBack)) =
        inOrder (fun place instruction =>
          (table.instruction place (readBack instruction).body).mapError (Error.mk place))
          position instructions
  | [], _ => rfl
  | instruction :: rest, position => by
      rw [List.map_cons, statements, if_neg (body_readBack instruction), LabelTable.instructions,
        inOrder, instructions_readBack table rest]

/-- The text of a program is assembled instruction by instruction. -/
theorem assemble_text_eq (legible : Legible program) :
    assemble program.text = do
      let instructions ← inOrder (fun place instruction =>
        ((readTable program.instructions).instruction place
          (readBack instruction).body).mapError (Error.mk place)) 1 program.instructions
      return ⟨instructions⟩ := by
  by_cases empty : program.instructions = []
  · obtain ⟨instructions⟩ := program
    subst empty
    rfl
  · rw [assemble, legible.sourceLines_text empty, Assembly.program, legible.labelTable_readBack,
      ← instructions_readBack, ← completed_readTable]
    rfl

end Legible

/-- A printable program is the program of its text. -/
theorem assemble_text {program : Program} (printable : Printable program) :
    assemble program.text = .ok program := by
  obtain ⟨legible, limited⟩ := printable_iff.mp printable
  rw [legible.assemble_text_eq, bind_eq_ok_iff]
  refine ⟨program.instructions, ?_, rfl⟩
  rw [inOrder_eq_ok_iff]
  intro index
  rw [Nat.add_comm 1 index]
  cases found : program.instructions[index]? with
  | none => rfl
  | some instruction =>
      simp only [Option.map_some, Option.some.injEq, mapError_eq_ok_iff]
      exact legible.instruction_readBack found (limited instruction (List.mem_of_getElem? found))

/-! ## Round trips -/

/-- The program of a source is also the program of its own text. -/
theorem assemble_text_of_assemble {source : String} {program : Program}
    (assembled : assemble source = .ok program) : assemble program.text = .ok program :=
  assemble_text (printable_of_assemble assembled)

/-- Several labels on a line, comments, words that are not read, the largest register and
literal, capitals with and without a final sigma, and labels after the last statement. -/
theorem assemble_text_of_assemble_mixture :
    let source := "\n".intercalate
      ["Top: nΣ: ", " top: LOAD r+18446744073709551615 ; copy", "\tJZERO end extra",
        "add 0x7FFFFFFF", " jump NΣ ", "end: last:"]
    let program : Program :=
      ⟨[⟨.load, ["top", "nς"], [.register 18446744073709551615], rfl⟩,
        ⟨.jzero, [], [.label "end" 5], rfl⟩, ⟨.add, [], [.literal 0x7FFFFFFF], rfl⟩,
        ⟨.jump, [], [.label "nς" 1], rfl⟩, ⟨.halt, ["end", "last"], [], rfl⟩]⟩
    assemble source = .ok program ∧ assemble program.text = .ok program := by
  intro source program
  have assembled : assemble source = .ok program := by decide +kernel
  exact ⟨assembled, assemble_text_of_assemble assembled⟩

/-- A program survives printing exactly when it is printable. -/
theorem assemble_text_eq_ok_iff (program : Program) :
    assemble program.text = .ok program ↔ Printable program := by
  constructor
  · exact printable_of_assemble
  · exact assemble_text

end Ram.Assembly
