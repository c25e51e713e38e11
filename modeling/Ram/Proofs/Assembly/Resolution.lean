import Ram.Proofs.Assembly.Language

/-!
# Where labels point

A program is laid out as its source is.  The lines that have a body give the instructions, in
their order, and a label stands for the position that follows the bodies before its line.
`Resolved` says this about some lines and a program, without a label table: which instruction
comes from which line, which labels it carries, and which position a token for a label stands for.

The assembler makes resolved programs only (`resolved_of_assemble`).  The first pass counts the
bodies while it collects the labels, and the second one numbers the instructions again.  That the
two counts agree is said once for the table (`resolve_of_declaredOn`): every declaration of a label,
the first one and those that repeat it, stands behind as many bodies.  What an instruction carries
is then read off the two views of the table.

* The labels of an instruction are the names of its position, so a declared label is at its own
  position and at no other one (`AssembledWith.pointsTo`).
* The names of a position are in the order of their first declarations.
* A position behind the last body has names exactly when a label is declared there
  (`attachedTo_last_ne_nil_iff`).  This is the case in which a `HALT` is added.
-/

namespace Ram.Assembly

open Text

/-! ## Lines and what they say -/

/-- The lines that have a body. -/
def instructionLines (lines : List SourceLine) : List SourceLine :=
  lines.filter fun source => source.body ≠ []

/-- The labels of some lines, in the order of their declarations. -/
def declaredNames (lines : List SourceLine) : List String :=
  lines.flatMap fun source => source.labels.map String.ofList

/-- Whether a label is declared after the last line that has a body. -/
def TrailingLabel (lines : List SourceLine) : Prop :=
  ∃ index label, DeclaredOn lines index label ∧
    ∀ later source, index ≤ later → lines[later]? = some source → source.body = []

/-- The argument that a token stands for. -/
inductive Denotes (lines : List SourceLine) : List Char → Argument → Prop where
  | register {token : List Char} {n : Nat} : IsRegisterToken token n →
      Denotes lines token (.register (UInt64.ofNat n))
  | literal {token : List Char} {n : Nat} : IsLiteralToken token n →
      Denotes lines token (.literal (Int64.ofNat n))
  /-- A label stands for the position that follows the bodies before its line. -/
  | label {token : List Char} {index : Nat} : DeclaredOn lines index token →
      Denotes lines token (.label (String.ofList token) (1 + statementsBefore lines index))

/-- Whether an instruction is the mnemonic and the arguments of a body. -/
def ComesFrom (lines : List SourceLine) (body : List Char) (instruction : Instruction) : Prop :=
  ∃ tokens, words body = instruction.mnemonic.name.toList.map Char.toLower :: tokens ∧
    List.Forall₂ (Denotes lines) (tokens.take instruction.mnemonic.arity) instruction.arguments

/-- Whether a label stands for one position of a program, wherever the program has the label. -/
structure PointsTo (program : Program) (label : String) (position : Nat) : Prop where
  within : 1 ≤ position ∧ position ≤ program.length
  /-- The instruction there has the label, and has it once. -/
  once : ∃ target, program.get? position = some target ∧ target.labels.count label = 1
  /-- No other instruction has it. -/
  only : ∀ place instruction, program.get? place = some instruction →
    label ∈ instruction.labels → place = position
  /-- Every argument with this name is the position. -/
  arguments : ∀ instruction ∈ program.instructions, ∀ target,
    Argument.label label target ∈ instruction.arguments → target = position

/-- Whether a program is what some lines say. -/
structure Resolved (lines : List SourceLine) (program : Program) : Prop where
  /-- Each line with a body is the instruction at its place among them. -/
  instructions : ∀ index source, (instructionLines lines)[index]? = some source →
    ∃ instruction, program.get? (index + 1) = some instruction ∧
      ComesFrom lines source.body instruction
  /-- These are all instructions if no label is declared behind them. -/
  length : ¬ TrailingLabel lines → program.length = (instructionLines lines).length
  /-- Otherwise a `HALT` follows them. -/
  halts : TrailingLabel lines → program.length = (instructionLines lines).length + 1 ∧
    ∃ last, program.get? program.length = some last ∧ last.mnemonic = .halt
  /-- A label points to what follows its declaration, the first one as well as a repeated one. -/
  labels : ∀ index label, DeclaredOn lines index label →
    PointsTo program (String.ofList label) (1 + statementsBefore lines index)
  /-- No instruction has another label. -/
  declared : ∀ instruction ∈ program.instructions, ∀ label ∈ instruction.labels,
    label ∈ declaredNames lines
  /-- The labels of an instruction are in the order of their first declarations. -/
  ordered : ∀ instruction ∈ program.instructions, instruction.labels.Pairwise fun first second =>
    (declaredNames lines).idxOf first < (declaredNames lines).idxOf second

/-! ## Bodies and statements -/

section

variable {lines : List SourceLine} {table : LabelTable} {program : Program}

theorem map_text_statements_eq (lines : List SourceLine) :
    (statements 1 lines).map Statement.text = (instructionLines lines).map SourceLine.body := by
  rw [map_text_statements, List.filter_map]
  rfl

theorem length_statements_eq (lines : List SourceLine) :
    (statements 1 lines).length = (instructionLines lines).length := by
  simpa using congrArg List.length (map_text_statements_eq lines)

/-- All bodies stand before the end of the lines. -/
theorem statementsBefore_length (lines : List SourceLine) :
    statementsBefore lines lines.length = (statements 1 lines).length := by
  rw [length_statements_eq, statementsBefore, List.take_length, List.countP_eq_length_filter]
  rfl

theorem lt_length_of_declaredOn {index : Nat} {label : List Char}
    (declared : DeclaredOn lines index label) : index < lines.length := by
  obtain ⟨source, found, _⟩ := declared
  exact (List.getElem?_eq_some_iff.mp found).1

/-- The statement of an instruction line stands at the place of the line. -/
theorem getElem?_completed {index : Nat} {source : SourceLine}
    (found : (instructionLines lines)[index]? = some source) :
    ∃ statement, (table.completed lines)[index]? = some statement ∧
      statement.text = source.body := by
  have texts : ((statements 1 lines).map Statement.text)[index]? = some source.body := by
    rw [map_text_statements_eq, List.getElem?_map, found]
    rfl
  rw [List.getElem?_map, Option.map_eq_some_iff] at texts
  obtain ⟨statement, written, same⟩ := texts
  refine ⟨statement, ?_, same⟩
  rw [LabelTable.completed]
  split
  next => exact written
  next => rw [List.getElem?_append_left (List.getElem?_eq_some_iff.mp written).1, written]

/-! ## The positions in the table -/

/-- The table has a label at the position that follows its declarations. -/
theorem resolve_of_declaredOn (made : labelTable lines = .ok table) {index : Nat}
    {label : List Char} (declared : DeclaredOn lines index label) :
    table.resolve (String.ofList label) = some (1 + statementsBefore lines index) :=
  LabelTable.resolve_of_mem_declarations made
    (mem_declarations_iff_declaredOn.mpr ⟨index, label, declared, rfl⟩)

/-- The names of a position are the labels that are declared for it. -/
theorem mem_attachedTo_iff_declaredOn (made : labelTable lines = .ok table) {name : String}
    {position : Nat} :
    name ∈ table.attachedTo position ↔
      ∃ index label, DeclaredOn lines index label ∧ name = String.ofList label ∧
        position = 1 + statementsBefore lines index := by
  rw [← (LabelTable.wellFormed_of_ofDeclarations made).resolve_eq_some_iff]
  constructor
  · intro resolved
    obtain ⟨declaration, member, rfl⟩ := (LabelTable.exists_resolve_iff made).mp ⟨_, resolved⟩
    obtain ⟨index, label, declared, rfl⟩ := mem_declarations_iff_declaredOn.mp member
    rw [resolve_of_declaredOn made declared, Option.some.injEq] at resolved
    exact ⟨index, label, declared, rfl, resolved.symm⟩
  · rintro ⟨index, label, declared, rfl, rfl⟩
    exact resolve_of_declaredOn made declared

/-- A label is declared behind the last body exactly when the table has a name for the position
that no body fills. -/
theorem attachedTo_last_ne_nil_iff (made : labelTable lines = .ok table) :
    table.attachedTo ((statements 1 lines).length + 1) ≠ [] ↔ TrailingLabel lines := by
  have last {index : Nat} {label : List Char} (declared : DeclaredOn lines index label) :
      (statements 1 lines).length + 1 = 1 + statementsBefore lines index ↔
        ∀ later source, index ≤ later → lines[later]? = some source → source.body = [] := by
    rw [← statementsBefore_length, Nat.add_comm, Nat.add_left_cancel_iff, eq_comm,
      statementsBefore_eq_iff (lt_length_of_declaredOn declared).le]
    constructor
    · intro empty later source above found
      exact empty later source above (List.getElem?_eq_some_iff.mp found).1 found
    · intro empty later source above _ found
      exact empty later source above found
  constructor
  · intro some
    obtain ⟨name, attached⟩ := List.exists_mem_of_ne_nil _ some
    obtain ⟨index, label, declared, _, same⟩ := (mem_attachedTo_iff_declaredOn made).mp attached
    exact ⟨index, label, declared, (last declared).mp same⟩
  · rintro ⟨index, label, declared, empty⟩
    exact List.ne_nil_of_mem ((mem_attachedTo_iff_declaredOn made).mpr
      ⟨index, label, declared, rfl, (last declared).mpr empty⟩)

/-- A token that the table reads stands for the argument that it is read as. -/
theorem denotes_of_argument (made : labelTable lines = .ok table) {token : List Char}
    {argument : Argument} (read : table.argument token = .ok argument) :
    Denotes lines token argument := by
  rcases (LabelTable.argument_eq_ok_iff (LabelTable.wellFormed_of_ofDeclarations made)).mp read with
    ⟨n, register, rfl⟩ | ⟨position, resolved, rfl⟩ | ⟨n, literal, rfl⟩
  · exact .register register
  · obtain ⟨index, declared⟩ := (exists_resolve_iff_declaredOn made).mp ⟨position, resolved⟩
    rw [resolve_of_declaredOn made declared, Option.some.injEq] at resolved
    exact resolved ▸ .label declared
  · exact .literal literal

theorem comesFrom_of_instruction (made : labelTable lines = .ok table) {position : Nat}
    {text : List Char} {instruction : Instruction} (small : ∀ c ∈ text, isSmall c = true)
    (stands : table.instruction position text = .ok instruction) :
    ComesFrom lines text instruction := by
  obtain ⟨known, _, read⟩ := LabelTable.instruction_eq_ok_iff.mp stands
  have denotes := read.imp fun token argument => denotes_of_argument made
  cases split : words text with
  | nil =>
      rw [split] at known
      cases known
  | cons word tokens =>
      have smallWord : ∀ c ∈ word, isSmall c = true := fun c inside =>
        small c (mem_of_mem_words (split ▸ .head _) c inside)
      rw [split] at known denotes
      exact ⟨tokens, by rw [split, ← (ofName?_eq_some_iff smallWord).mp known], denotes⟩

/-! ## The assembled program -/

namespace AssembledWith

theorem labels_of_get? (assembled : AssembledWith table lines program) {position : Nat}
    {instruction : Instruction} (found : program.get? position = some instruction) :
    instruction.labels = table.attachedTo position := by
  cases position with
  | zero => cases found
  | succ index => exact assembled.labels_eq found

/-- A declared label is at the position that follows its declaration, and only there. -/
theorem pointsTo (assembled : AssembledWith table lines program) {index : Nat} {label : List Char}
    (declared : DeclaredOn lines index label) :
    PointsTo program (String.ofList label) (1 + statementsBefore lines index) := by
  have resolved := resolve_of_declaredOn assembled.made declared
  obtain ⟨target, found, carried⟩ := assembled.exists_target resolved
  refine ⟨Program.isSome_get?_iff.mp (by simp [found]), ⟨target, found, ?_⟩, ?_, ?_⟩
  · have distinct := assembled.wellFormed.nodup_attachedTo [1 + statementsBefore lines index]
      (List.nodup_singleton _)
    rw [List.flatMap_singleton, ← assembled.labels_of_get? found] at distinct
    exact List.count_eq_one_of_mem distinct carried
  · intro place instruction there also
    rw [assembled.labels_of_get? there, ← assembled.wellFormed.resolve_eq_some_iff, resolved,
      Option.some.injEq] at also
    exact also.symm
  · intro instruction member position given
    obtain ⟨token, read⟩ := assembled.argument_read member given
    rcases LabelTable.argument_cases read with ⟨_, _, same⟩ | ⟨place, known, same⟩ | ⟨_, _, same⟩
    · cases same
    · obtain ⟨sameName, rfl⟩ := Argument.label.inj same
      rw [← sameName, resolved, Option.some.injEq] at known
      exact known.symm
    · cases same

/-- The instruction of a line with a body says what the body says. -/
theorem comesFrom (assembled : AssembledWith table lines program)
    (small : ∀ source ∈ lines, ∀ c ∈ source.body, isSmall c = true) {index : Nat}
    {source : SourceLine} (found : (instructionLines lines)[index]? = some source) :
    ∃ instruction, program.get? (index + 1) = some instruction ∧
      ComesFrom lines source.body instruction := by
  obtain ⟨statement, stated, same⟩ := getElem?_completed found
  have inside : index < program.instructions.length := by
    rw [assembled.length]
    exact (List.getElem?_eq_some_iff.mp stated).1
  obtain ⟨instruction, there⟩ : ∃ instruction, program.instructions[index]? = some instruction :=
    ⟨_, List.getElem?_eq_getElem inside⟩
  obtain ⟨other, alsoStated, stands⟩ := assembled.stands there
  rw [stated, Option.some.injEq] at alsoStated
  rw [← alsoStated, same] at stands
  have member : source ∈ lines := List.mem_of_mem_filter (List.mem_of_getElem? found)
  exact ⟨instruction, there, comesFrom_of_instruction assembled.made (small source member) stands⟩

theorem length_of_not_trailing (assembled : AssembledWith table lines program)
    (free : ¬ TrailingLabel lines) : program.length = (instructionLines lines).length := by
  rw [← attachedTo_last_ne_nil_iff assembled.made, not_not] at free
  rw [Program.length, assembled.length, LabelTable.completed, if_pos free, length_statements_eq]

/-- The statement that is added for labels behind the last body is a `HALT`. -/
theorem halts_of_trailing (assembled : AssembledWith table lines program)
    (trailing : TrailingLabel lines) :
    program.length = (instructionLines lines).length + 1 ∧
      ∃ last, program.get? program.length = some last ∧ last.mnemonic = .halt := by
  have attached := (attachedTo_last_ne_nil_iff assembled.made).mpr trailing
  have completed : table.completed lines =
      statements 1 lines ++ [⟨lines.length, Mnemonic.halt.name.toList⟩] := by
    rw [LabelTable.completed, if_neg attached]
  have length : program.length = (instructionLines lines).length + 1 := by
    rw [Program.length, assembled.length, completed, List.length_append, length_statements_eq]
    rfl
  refine ⟨length, ?_⟩
  obtain ⟨last, found⟩ :
      ∃ last, program.instructions[(statements 1 lines).length]? = some last := by
    rw [Program.length, ← length_statements_eq] at length
    exact ⟨_, List.getElem?_eq_getElem (by omega)⟩
  obtain ⟨statement, stated, stands⟩ := assembled.stands found
  rw [completed, List.getElem?_append_right (Nat.le_refl _), Nat.sub_self] at stated
  cases stated
  have known := (LabelTable.instruction_eq_ok_iff.mp stands).1
  have halt : Mnemonic.ofName? ((words Mnemonic.halt.name.toList).headD []) = some .halt := by
    decide
  rw [halt, Option.some.injEq] at known
  exact ⟨last, by rw [length, ← length_statements_eq]; exact found, known.symm⟩

end AssembledWith

end

/-- Labels resolve to the instructions that follow them: the program of a source has the
instructions of the lines with a body in their order and, behind them, a `HALT` exactly when a
label is declared there.  Every declared label is at the position that follows its declaration,
once and nowhere else, and every argument with its name is that position. -/
theorem resolved_of_assemble {source : String} {program : Program}
    (assembled : assemble source = .ok program) :
    Resolved (sourceLines source.toList) program := by
  obtain ⟨table, made⟩ := exists_assembledWith assembled
  have small : ∀ line ∈ sourceLines source.toList, ∀ c ∈ line.body, isSmall c = true := by
    intro line member c inside
    obtain ⟨raw, _, rfl⟩ := List.mem_map.mp member
    exact mem_body_of_read inside
  refine ⟨fun index line found => made.comesFrom small found, made.length_of_not_trailing,
    made.halts_of_trailing, fun index label declared => made.pointsTo declared, ?_, ?_⟩
  · intro instruction member label carried
    obtain ⟨index, found⟩ := List.mem_iff_getElem?.mp member
    rw [made.labels_eq found, LabelTable.mem_attachedTo_iff] at carried
    obtain ⟨entry, known, _, rfl⟩ := carried
    rw [declaredNames, ← map_name_declarations _ 1 1]
    exact List.mem_map_of_mem (LabelTable.mem_declarations_of_mem made.made known)
  · intro instruction member
    obtain ⟨index, found⟩ := List.mem_iff_getElem?.mp member
    rw [made.labels_eq found, declaredNames, ← map_name_declarations _ 1 1]
    exact LabelTable.pairwise_attachedTo made.made (index + 1)

/-- Labels on lines of their own, one of them twice, a use before and one after the declaration,
and two labels behind the last body. -/
theorem resolved_of_assemble_countdown :
    let source := "\n".intercalate
      ["start: again: ; two labels", "", "Again:", "loop: jzero done", "sub 1 ignored",
        "jump loop ; back", "done: end:", ""]
    let program : Program :=
      ⟨[⟨.jzero, ["start", "again", "loop"], [.label "done" 4], rfl⟩,
        ⟨.sub, [], [.literal 1], rfl⟩, ⟨.jump, [], [.label "loop" 1], rfl⟩,
        ⟨.halt, ["done", "end"], [], rfl⟩]⟩
    assemble source = .ok program ∧ Resolved (sourceLines source.toList) program := by
  intro source program
  have assembled : assemble source = .ok program := by decide +kernel
  exact ⟨assembled, resolved_of_assemble assembled⟩

end Ram.Assembly
