import Ram.Proofs.Assembly.SourceLine
import Ram.Proofs.Assembly.Statement

/-!
# Programs that a source can stand for

`Printable` says which programs are programs of some source: the literals are in range, the
labels are texts that can stand before a colon, no label is attached twice, and an argument
that names a label points at the instruction that has it.

Every assembled program is printable (`printable_of_assemble`).  The labels of its instructions
are the names of their positions in the label table, so all four conditions come from the
table.  A label behind the last statement is no exception, because of the `HALT` that is added
for it.
-/

namespace Ram.Assembly

open Text

/-- Whether a text can be a label of a program that is printed and read again. -/
structure IsLabelText (text : List Char) : Prop where
  /-- It starts with a small letter of ASCII. -/
  starts : ∃ c rest, text = c :: rest ∧ 'a' ≤ c ∧ c ≤ 'z'
  /-- It holds no blank, no colon and no semicolon. -/
  plain : ∀ c ∈ text, isBlank c = false ∧ c ≠ ':' ∧ c ≠ ';'
  /-- It is not `r` with a digit or a sign behind it. -/
  noRegister : ¬ ∃ c rest, text = 'r' :: c :: rest ∧ (c.isDigit = true ∨ c = '+' ∨ c = '-')
  /-- It is its own lowercase form. -/
  lowered : lowercase text = text

/-- Whether a program can be printed and read again. -/
structure Printable (program : Program) : Prop where
  /-- The literals fit 31 bits and are not negative. -/
  literals : ∀ instruction ∈ program.instructions, ∀ value,
    Argument.literal value ∈ instruction.arguments → 0 ≤ value.toInt ∧ value.toInt ≤ 0x7FFFFFFF
  /-- The labels can be read. -/
  names : ∀ instruction ∈ program.instructions, ∀ name ∈ instruction.labels,
    IsLabelText name.toList
  /-- No label is attached twice. -/
  distinct : (program.instructions.flatMap Instruction.labels).Nodup
  /-- An argument that is a label points at an instruction with that label. -/
  targets : ∀ instruction ∈ program.instructions, ∀ name position,
    Argument.label name position ∈ instruction.arguments →
      ∃ target, program.get? position = some target ∧ name ∈ target.labels

/-! ## Label texts -/

theorem startsWithLetter_iff {text : List Char} :
    startsWithLetter text = true ↔ ∃ c rest, text = c :: rest ∧ 'a' ≤ c ∧ c ≤ 'z' := by
  cases text with
  | nil => simp [startsWithLetter]
  | cons c rest =>
      have lower : c.isLower = true ↔ 'a' ≤ c ∧ c ≤ 'z' := by
        show (decide ('a' ≤ c) && decide (c ≤ 'z')) = true ↔ 'a' ≤ c ∧ c ≤ 'z'
        rw [Bool.and_eq_true, decide_eq_true_iff, decide_eq_true_iff]
      simp [startsWithLetter, lower]

/-- What looks like a register, character by character. -/
theorem looksLikeRegister_iff {text : List Char} :
    looksLikeRegister text = true ↔
      ∃ c rest, text = 'r' :: c :: rest ∧ (c.isDigit = true ∨ c = '+' ∨ c = '-') := by
  unfold looksLikeRegister
  split
  next c rest =>
    constructor
    · intro looks
      exact ⟨c, rest, rfl, by simpa [or_assoc] using looks⟩
    · rintro ⟨d, others, same, marked⟩
      cases same
      simpa [or_assoc] using marked
  next other =>
    constructor
    · intro looks
      cases looks
    · rintro ⟨c, rest, same, _⟩
      exact absurd same (other c rest)

/-- A label text is a label name of small characters without a semicolon. -/
theorem isLabelText_iff {text : List Char} :
    IsLabelText text ↔
      isLabelName text = true ∧ ';' ∉ text ∧ ∀ c ∈ text, isSmall c = true := by
  rw [isLabelName_iff, startsWithLetter_iff, ← lowercase_eq_self_iff]
  constructor
  · intro label
    refine ⟨⟨label.starts, fun c member => (label.plain c member).1,
      fun member => (label.plain ':' member).2.1 rfl, ?_⟩,
      fun member => (label.plain ';' member).2.2 rfl, label.lowered⟩
    rw [Bool.eq_false_iff, Ne, looksLikeRegister_iff]
    exact label.noRegister
  · rintro ⟨⟨starts, solid, noColon, looks⟩, noComment, lowered⟩
    refine ⟨starts, fun c member => ⟨solid c member, ?_, ?_⟩, ?_, lowered⟩
    · rintro rfl
      exact noColon member
    · rintro rfl
      exact noComment member
    · rw [← looksLikeRegister_iff, looks]
      simp

/-- A label has no blank, colon or semicolon in it. -/
theorem IsLabelText.solid {text : List Char} (label : IsLabelText text) : Solid text := by
  obtain ⟨c, rest, rfl, _⟩ := label.starts
  exact ⟨by simp, label.plain⟩

/-! ## Assembled programs -/

/-- The labels of a program position by position. -/
theorem flatMap_labels {program : Program} {names : Nat → List String}
    (attached : ∀ {index : Nat} {instruction : Instruction},
      program.instructions[index]? = some instruction → instruction.labels = names (index + 1)) :
    program.instructions.flatMap Instruction.labels =
      (List.range' 1 program.instructions.length).flatMap names := by
  rw [List.flatMap_def, List.flatMap_def]
  congr 1
  apply List.ext_getElem
  · simp
  · intro index here there
    have inside : index < program.instructions.length := by simpa using here
    rw [List.getElem_map, List.getElem_map, List.getElem_range',
      attached (List.getElem?_eq_getElem inside)]
    simp [Nat.add_comm 1 index]

/-- The second pass reads one statement after another. -/
theorem instructions_eq_inOrder (table : LabelTable) :
    ∀ (statements : List Statement) (position : Nat),
      table.instructions position statements =
        inOrder (fun place statement =>
          (table.instruction place statement.text).mapError (Error.mk statement.line))
          position statements
  | [], _ => rfl
  | statement :: rest, position => by
      simp only [LabelTable.instructions, inOrder, instructions_eq_inOrder table rest]

/-- What is known of an assembled program and the label table it was made with. -/
structure AssembledWith (table : LabelTable) (lines : List SourceLine)
    (program : Program) : Prop where
  made : labelTable lines = .ok table
  /-- There is an instruction for every statement. -/
  length : program.instructions.length = (table.completed lines).length
  /-- Each of them is what the statement of its position stands for. -/
  stands : ∀ {index : Nat} {instruction : Instruction},
    program.instructions[index]? = some instruction →
      ∃ statement, (table.completed lines)[index]? = some statement ∧
        table.instruction (index + 1) statement.text = .ok instruction

theorem exists_assembledWith {lines : List SourceLine} {result : Program}
    (assembled : program lines = .ok result) : ∃ table, AssembledWith table lines result := by
  unfold program at assembled
  rw [bind_eq_ok_iff] at assembled
  obtain ⟨table, made, assembled⟩ := assembled
  rw [bind_eq_ok_iff] at assembled
  obtain ⟨instructions, walked, same⟩ := assembled
  cases same
  rw [instructions_eq_inOrder] at walked
  refine ⟨table, made, length_of_inOrder walked, fun {index instruction} found => ?_⟩
  obtain ⟨statement, stated, stands⟩ := getElem?_of_inOrder walked found
  rw [mapError_eq_ok_iff, Nat.add_comm 1 index] at stands
  exact ⟨statement, stated, stands⟩

namespace AssembledWith

variable {table : LabelTable} {lines : List SourceLine} {program : Program}

theorem wellFormed (assembled : AssembledWith table lines program) : table.WellFormed :=
  LabelTable.wellFormed_of_ofDeclarations assembled.made

theorem labels_eq (assembled : AssembledWith table lines program) {index : Nat}
    {instruction : Instruction} (found : program.instructions[index]? = some instruction) :
    instruction.labels = table.attachedTo (index + 1) := by
  obtain ⟨_, _, stands⟩ := assembled.stands found
  exact (LabelTable.instruction_eq_ok_iff.mp stands).2.1

theorem argument_read (assembled : AssembledWith table lines program) {instruction : Instruction}
    {argument : Argument} (member : instruction ∈ program.instructions)
    (given : argument ∈ instruction.arguments) : ∃ token, table.argument token = .ok argument := by
  obtain ⟨index, found⟩ := List.mem_iff_getElem?.mp member
  obtain ⟨_, _, stands⟩ := assembled.stands found
  obtain ⟨token, _, read⟩ :=
    LabelTable.exists_token (LabelTable.instruction_eq_ok_iff.mp stands).2.2 given
  exact ⟨token, read⟩

/-- Every label of the table points at an instruction. -/
theorem position_of_mem (assembled : AssembledWith table lines program) {entry : Declaration}
    (member : entry ∈ table.entries) :
    1 ≤ entry.position ∧ entry.position ≤ program.instructions.length := by
  have bounds := position_of_mem_declarations
    (LabelTable.mem_declarations_of_mem assembled.made member)
  rw [assembled.length, LabelTable.completed]
  split
  next free =>
    -- without an added statement no label points past the last one
    have notLast : entry.position ≠ (statements 1 lines).length + 1 := by
      intro last
      have attached : entry.name ∈ table.attachedTo ((statements 1 lines).length + 1) :=
        LabelTable.mem_attachedTo_iff.mpr ⟨entry, member, last, rfl⟩
      rw [free] at attached
      cases attached
    omega
  next => simp only [List.length_append, List.length_singleton]; omega

/-- A name of the table is attached to the instruction that it stands for. -/
theorem exists_target (assembled : AssembledWith table lines program) {name : String}
    {position : Nat} (resolved : table.resolve name = some position) :
    ∃ target, program.get? position = some target ∧ name ∈ target.labels := by
  have attached := assembled.wellFormed.resolve_eq_some_iff.mp resolved
  obtain ⟨entry, member, rfl, _⟩ := LabelTable.mem_attachedTo_iff.mp attached
  obtain ⟨first, last⟩ := assembled.position_of_mem member
  obtain ⟨index, same⟩ : ∃ index, entry.position = index + 1 := ⟨entry.position - 1, by omega⟩
  rw [same] at attached last ⊢
  obtain ⟨target, found⟩ : ∃ target, program.instructions[index]? = some target :=
    ⟨_, List.getElem?_eq_getElem last⟩
  exact ⟨target, found, by rwa [assembled.labels_eq found]⟩

end AssembledWith

theorem isLabelText_of_mem {source : List Char} {table : LabelTable} {entry : Declaration}
    (made : labelTable (sourceLines source) = .ok table) (member : entry ∈ table.entries) :
    IsLabelText entry.name.toList := by
  have named := (LabelTable.wellFormed_of_ofDeclarations made).named entry member
  obtain ⟨line, known, label, read, same⟩ :=
    label_of_mem_declarations (LabelTable.mem_declarations_of_mem made member)
  obtain ⟨raw, _, rfl⟩ := List.mem_map.mp known
  have characters : ∀ c ∈ entry.name.toList, isSmall c = true ∧ c ≠ ';' := by
    rw [same, String.toList_ofList]
    intro c inside
    exact mem_label_of_read read inside
  rw [isLabelText_iff]
  exact ⟨named, fun inside => (characters _ inside).2 rfl, fun c inside => (characters c inside).1⟩

/-- The program of a source is printable. -/
theorem printable_of_assemble {source : String} {program : Program}
    (assembled : assemble source = .ok program) : Printable program := by
  obtain ⟨table, assembled⟩ := exists_assembledWith assembled
  constructor
  · intro instruction member value given
    obtain ⟨token, read⟩ := assembled.argument_read member given
    rcases LabelTable.argument_cases read with ⟨_, _, same⟩ | ⟨_, _, same⟩ | ⟨_, literal, same⟩
    · cases same
    · cases same
    · cases same
      exact literal_range literal
  · intro instruction member name attached
    obtain ⟨index, found⟩ := List.mem_iff_getElem?.mp member
    rw [assembled.labels_eq found] at attached
    obtain ⟨entry, known, _, rfl⟩ := LabelTable.mem_attachedTo_iff.mp attached
    exact isLabelText_of_mem assembled.made known
  · rw [flatMap_labels assembled.labels_eq]
    exact assembled.wellFormed.nodup_attachedTo _ List.nodup_range'
  · intro instruction member name position given
    obtain ⟨token, read⟩ := assembled.argument_read member given
    rcases LabelTable.argument_cases read with ⟨_, _, same⟩ | ⟨_, resolved, same⟩ | ⟨_, _, same⟩
    · cases same
    · cases same
      exact assembled.exists_target resolved
    · cases same

end Ram.Assembly
