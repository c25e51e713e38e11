import Ram.Proofs.Assembly.Token

/-!
# The language of the assembler

`InLanguage` says which sources are assembly, line by line and without a label table: the labels
are names, two lines that declare one label have no statement between them, and every body that
is not empty is a statement.  A *statement* is the name of a mnemonic with a token behind it for
the argument that the mnemonic takes.  What follows is ignored.

The assembler accepts exactly this language (`exists_assemble_iff`).  Its two passes are taken one
by one.

* The label table is made exactly when the labels are names and no label is declared for two
  positions.  The position of a declaration counts the statements before its line, so equal
  positions are lines without a statement between them (`exists_labelTable_iff`).
* The instructions are made exactly when every body is a statement.  A token for a label has to be
  in the table, which holds the labels of the whole source (`exists_instructions_iff`).
-/

namespace Ram.Assembly

open Text

/-! ## The language -/

/-- Whether a text is a name for a label. -/
structure IsName (text : List Char) : Prop where
  /-- It starts with a small letter of ASCII. -/
  starts : ∃ c rest, text = c :: rest ∧ 'a' ≤ c ∧ c ≤ 'z'
  /-- It holds no blank. -/
  solid : ∀ c ∈ text, isBlank c = false
  /-- It is not `r` with a digit or a sign behind it. -/
  noRegister : ¬ ∃ c rest, text = 'r' :: c :: rest ∧ (c.isDigit = true ∨ c = '+' ∨ c = '-')

/-- Whether the line with the given index declares a label. -/
def DeclaredOn (lines : List SourceLine) (index : Nat) (label : List Char) : Prop :=
  ∃ source, lines[index]? = some source ∧ label ∈ source.labels

/-- Whether the words after a mnemonic start with the argument that it takes. -/
def Supplied (lines : List SourceLine) (mnemonic : Mnemonic) (tokens : List (List Char)) : Prop :=
  match mnemonic with
  | .nop | .half | .halt => True
  | .load | .store => ∃ token ∈ tokens.head?, ∃ n, IsRegisterToken token n
  | .add | .sub | .read | .write =>
    ∃ token ∈ tokens.head?, (∃ n, IsRegisterToken token n) ∨ ∃ n, IsLiteralToken token n
  | .jzero | .jpos | .jump => ∃ token ∈ tokens.head?, ∃ index, DeclaredOn lines index token

/-- Whether a text is the name of a mnemonic and the argument that it takes. -/
def IsStatement (lines : List SourceLine) (text : List Char) : Prop :=
  ∃ mnemonic tokens, words text = mnemonic.name.toList.map Char.toLower :: tokens ∧
    Supplied lines mnemonic tokens

/-- Whether some lines are a source of the language. -/
structure InLanguage (lines : List SourceLine) : Prop where
  /-- Every label is a name. -/
  names : ∀ index label, DeclaredOn lines index label → IsName label
  /-- No line has a body from a declaration of a label up to another one. -/
  targets : ∀ label first second, DeclaredOn lines first label → DeclaredOn lines second label →
    ∀ index source, first ≤ index → index < second → lines[index]? = some source →
      source.body = []
  /-- Every body is a statement. -/
  statements : ∀ source ∈ lines, source.body ≠ [] → IsStatement lines source.body

/-! ## Labels -/

theorem isLabelName_iff_isName {text : List Char} (noColon : ':' ∉ text) :
    isLabelName text = true ↔ IsName text := by
  rw [isLabelName_iff, startsWithLetter_iff, Bool.eq_false_iff, Ne, looksLikeRegister_iff]
  constructor
  · rintro ⟨starts, solid, _, noRegister⟩
    exact ⟨starts, solid, noRegister⟩
  · intro name
    exact ⟨name.starts, name.solid, noColon, name.noRegister⟩

theorem colon_not_mem_of_declaredOn {source : List Char} {index : Nat} {label : List Char}
    (declared : DeclaredOn (sourceLines source) index label) : ':' ∉ label := by
  obtain ⟨line, found, read⟩ := declared
  obtain ⟨raw, _, rfl⟩ := List.mem_map.mp (List.mem_of_getElem? found)
  intro inside
  exact (mem_segment_of_read (mem_segments_of_mem_labels read) inside).2.2 rfl

/-- The declarations in terms of the lines that they stand on. -/
theorem mem_declarations_iff_declaredOn {lines : List SourceLine} {declaration : Declaration} :
    declaration ∈ declarations 1 1 lines ↔
      ∃ index label, DeclaredOn lines index label ∧
        declaration = ⟨String.ofList label, 1 + statementsBefore lines index, 1 + index⟩ := by
  rw [mem_declarations_iff]
  constructor
  · rintro ⟨index, source, found, label, read, same⟩
    exact ⟨index, label, ⟨source, found, read⟩, same⟩
  · rintro ⟨index, label, ⟨source, found, read⟩, same⟩
    exact ⟨index, source, found, label, read, same⟩

/-- No label is declared for two positions exactly when no statement stands between two of its
declarations. -/
theorem consistent_declarations_iff {lines : List SourceLine} :
    LabelTable.Consistent (declarations 1 1 lines) ↔
      ∀ label first second, DeclaredOn lines first label → DeclaredOn lines second label →
        ∀ index source, first ≤ index → index < second → lines[index]? = some source →
          source.body = [] := by
  constructor
  · intro consistent label first second firstOn secondOn index source above below
    have same := consistent _ (mem_declarations_iff_declaredOn.mpr ⟨first, label, firstOn, rfl⟩) _
      (mem_declarations_iff_declaredOn.mpr ⟨second, label, secondOn, rfl⟩) rfl
    have none := (statementsBefore_eq_iff (by omega)).mp (Nat.add_left_cancel same)
    exact none index source above below
  · intro targets first firstIn second secondIn sameName
    obtain ⟨i, label, firstOn, rfl⟩ := mem_declarations_iff_declaredOn.mp firstIn
    obtain ⟨j, other, secondOn, rfl⟩ := mem_declarations_iff_declaredOn.mp secondIn
    obtain rfl : label = other := String.ofList_injective sameName
    show 1 + statementsBefore lines i = 1 + statementsBefore lines j
    rcases Nat.le_total i j with ordered | ordered
    · rw [(statementsBefore_eq_iff ordered).mpr (targets label i j firstOn secondOn)]
    · rw [(statementsBefore_eq_iff ordered).mpr (targets label j i secondOn firstOn)]

/-- The first pass succeeds exactly on lines whose labels are names, each for one position. -/
theorem exists_labelTable_iff {lines : List SourceLine}
    (noColon : ∀ index label, DeclaredOn lines index label → ':' ∉ label) :
    (∃ table, labelTable lines = .ok table) ↔
      (∀ index label, DeclaredOn lines index label → IsName label) ∧
        LabelTable.Consistent (declarations 1 1 lines) := by
  unfold labelTable
  rw [LabelTable.exists_ofDeclarations_iff]
  apply and_congr_left'
  constructor
  · intro named index label declared
    have := named _ (mem_declarations_iff_declaredOn.mpr ⟨index, label, declared, rfl⟩)
    rwa [String.toList_ofList, isLabelName_iff_isName (noColon index label declared)] at this
  · intro names declaration member
    obtain ⟨index, label, declared, rfl⟩ := mem_declarations_iff_declaredOn.mp member
    rw [String.toList_ofList, isLabelName_iff_isName (noColon index label declared)]
    exact names index label declared

/-- A label stands for a position exactly if it is declared on some line. -/
theorem exists_resolve_iff_declaredOn {lines : List SourceLine} {table : LabelTable}
    (made : labelTable lines = .ok table) {label : List Char} :
    (∃ position, table.resolve (String.ofList label) = some position) ↔
      ∃ index, DeclaredOn lines index label := by
  rw [LabelTable.exists_resolve_iff made]
  constructor
  · rintro ⟨declaration, member, same⟩
    obtain ⟨index, other, declared, rfl⟩ := mem_declarations_iff_declaredOn.mp member
    obtain rfl : other = label := String.ofList_injective same
    exact ⟨index, declared⟩
  · rintro ⟨index, declared⟩
    exact ⟨_, mem_declarations_iff_declaredOn.mpr ⟨index, label, declared, rfl⟩, rfl⟩

/-! ## Statements -/

theorem toLower_toUpper_of_small {c : Char} (small : isSmall c = true) : c.toUpper.toLower = c := by
  have back := Numeral.forall_char (fun d => isSmall d = true → d.toUpper.toLower = d)
    (by decide +kernel) (fun d large => by simp [Numeral.case_of_not_ascii large]) c
  exact of_decide_eq_true back small

/-- A word in lowercase names a mnemonic exactly if it is its name in lowercase. -/
theorem ofName?_eq_some_iff {word : List Char} (small : ∀ c ∈ word, isSmall c = true)
    {mnemonic : Mnemonic} :
    Mnemonic.ofName? word = some mnemonic ↔ word = mnemonic.name.toList.map Char.toLower := by
  constructor
  · intro found
    have named : mnemonic.name.toList = word.map Char.toUpper := by
      simpa using List.find?_some found
    rw [named, List.map_map]
    exact (List.map_congr_left fun c inside => toLower_toUpper_of_small (small c inside)).trans
      (List.map_id word) |>.symm
  · rintro rfl
    cases mnemonic <;> decide

namespace LabelTable

variable {table : LabelTable}

/-- Whether a token is read as an argument of a shape. -/
def Admits (table : LabelTable) (shape : Shape) (token : List Char) : Prop :=
  ∃ argument, table.argument token = .ok argument ∧ shape.admits argument = true

/-- Tokens are read as arguments that fit some shapes exactly when each is admitted at its place. -/
theorem exists_fill_iff :
    ∀ {shapes : List Shape} {tokens : List (List Char)},
      (∃ arguments, List.Forall₂ (fun token argument => table.argument token = .ok argument) tokens
        arguments ∧ fill shapes arguments = some []) ↔
      List.Forall₂ table.Admits shapes tokens
  | shapes, [] => by
      constructor
      · rintro ⟨arguments, read, fits⟩
        cases read
        rw [fill_nil, Option.some.injEq] at fits
        exact fits ▸ .nil
      · intro admitted
        cases admitted
        exact ⟨[], .nil, rfl⟩
  | [], token :: tokens => by
      constructor
      · rintro ⟨arguments, read, fits⟩
        cases read
        cases fits
      · intro admitted
        cases admitted
  | shape :: shapes, token :: tokens => by
      rw [List.forall₂_cons, ← exists_fill_iff]
      constructor
      · rintro ⟨arguments, read, fits⟩
        cases read with
        | cons first others =>
            rw [fill] at fits
            split at fits
            next admitted => exact ⟨⟨_, first, admitted⟩, _, others, fits⟩
            next => cases fits
      · rintro ⟨⟨argument, read, admitted⟩, arguments, others, fits⟩
        exact ⟨argument :: arguments, .cons read others, by rw [fill, if_pos admitted, fits]⟩

/-- A statement stands for an instruction, at any position, exactly when its first word is a
mnemonic and the words after it are admitted at the places of its arguments. -/
theorem exists_instruction_iff {position : Nat} {text : List Char} :
    (∃ instruction, table.instruction position text = .ok instruction) ↔
      ∃ mnemonic, Mnemonic.ofName? ((words text).headD []) = some mnemonic ∧
        List.Forall₂ table.Admits mnemonic.shapes ((words text).tail.take mnemonic.arity) := by
  simp only [instruction_eq_ok_iff]
  constructor
  · rintro ⟨instruction, known, _, read⟩
    exact ⟨instruction.mnemonic, known, exists_fill_iff.mp ⟨_, read, instruction.fits⟩⟩
  · rintro ⟨mnemonic, known, admitted⟩
    obtain ⟨arguments, read, fits⟩ := exists_fill_iff.mpr admitted
    exact ⟨⟨mnemonic, table.attachedTo position, arguments, fits⟩, known, rfl, read⟩

/-- The `HALT` that is added can be read. -/
theorem exists_instruction_halt (position : Nat) :
    ∃ instruction, table.instruction position Mnemonic.halt.name.toList = .ok instruction := by
  rw [exists_instruction_iff]
  exact ⟨.halt, by decide, .nil⟩

end LabelTable

/-! ## The second pass -/

section

variable {lines : List SourceLine} {table : LabelTable}

/-- The tokens that are read as an argument of a shape. -/
theorem admits_iff (made : labelTable lines = .ok table) {shape : Shape} {token : List Char} :
    table.Admits shape token ↔
      match shape with
      | .register => ∃ n, IsRegisterToken token n
      | .literalOrRegister => (∃ n, IsRegisterToken token n) ∨ ∃ n, IsLiteralToken token n
      | .label => ∃ index, DeclaredOn lines index token := by
  have wellFormed := LabelTable.wellFormed_of_ofDeclarations made
  simp only [LabelTable.Admits, LabelTable.argument_eq_ok_iff wellFormed, or_and_right, exists_or,
    ← exists_resolve_iff_declaredOn made]
  cases shape <;>
    simp [Shape.admits, Argument.isRegister, Argument.isLiteral, Argument.isLabel]

theorem forall₂_singleton_take_iff {α β : Type} {holds : α → β → Prop} {first : α} {list : List β} :
    List.Forall₂ holds [first] (list.take 1) ↔ ∃ element ∈ list.head?, holds first element := by
  cases list with
  | nil => simp
  | cons element rest => simp

/-- The tokens behind a mnemonic are read exactly if they supply its argument. -/
theorem forall₂_admits_iff (made : labelTable lines = .ok table) {mnemonic : Mnemonic}
    {tokens : List (List Char)} :
    List.Forall₂ table.Admits mnemonic.shapes (tokens.take mnemonic.arity) ↔
      Supplied lines mnemonic tokens := by
  cases mnemonic <;>
    simp [Mnemonic.arity, Mnemonic.shapes, Supplied, forall₂_singleton_take_iff, admits_iff made]

/-- At every position the statements are the texts that stand for an instruction. -/
theorem exists_instruction_iff_isStatement (made : labelTable lines = .ok table) {text : List Char}
    (small : ∀ c ∈ text, isSmall c = true) {position : Nat} :
    (∃ instruction, table.instruction position text = .ok instruction) ↔
      IsStatement lines text := by
  rw [LabelTable.exists_instruction_iff, IsStatement]
  cases split : words text with
  | nil =>
      -- no mnemonic has an empty name
      have nameless : Mnemonic.ofName? [] = none := by decide
      simp [nameless]
  | cons word tokens =>
      have smallWord : ∀ c ∈ word, isSmall c = true := fun c inside =>
        small c (mem_of_mem_words (split ▸ .head _) c inside)
      simp [ofName?_eq_some_iff smallWord, forall₂_admits_iff made, and_assoc]

theorem mem_texts_statements_iff {text : List Char} :
    text ∈ (statements 1 lines).map Statement.text ↔
      text ≠ [] ∧ ∃ source ∈ lines, source.body = text := by
  simp [map_text_statements, and_comm]

/-- What the second pass goes through: the statements, and a `HALT` for labels behind the last. -/
theorem mem_completed_iff {statement : Statement} :
    statement ∈ table.completed lines ↔
      statement ∈ statements 1 lines ∨
        (table.attachedTo ((statements 1 lines).length + 1) ≠ [] ∧
          statement = ⟨lines.length, Mnemonic.halt.name.toList⟩) := by
  simp only [LabelTable.completed]
  split
  next free => simp [free]
  next attached => simp [attached]

/-- The second pass succeeds exactly when every body is a statement.  The `HALT` that is added for
labels after the last body is one too. -/
theorem exists_instructions_iff (made : labelTable lines = .ok table)
    (small : ∀ source ∈ lines, ∀ c ∈ source.body, isSmall c = true) :
    (∃ instructions, table.instructions 1 (table.completed lines) = .ok instructions) ↔
      ∀ source ∈ lines, source.body ≠ [] → IsStatement lines source.body := by
  rw [instructions_eq_inOrder, exists_inOrder_iff]
  simp only [mapError_eq_ok_iff]
  constructor
  · intro every source member nonempty
    obtain ⟨statement, written, same⟩ :=
      List.mem_map.mp (mem_texts_statements_iff.mpr ⟨nonempty, source, member, rfl⟩)
    have kept : statement ∈ table.completed lines := mem_completed_iff.mpr (.inl written)
    obtain ⟨index, found⟩ := List.mem_iff_getElem?.mp kept
    have stands := every index statement found
    rwa [same, exists_instruction_iff_isStatement made (small source member)] at stands
  · intro bodies index statement found
    rcases mem_completed_iff.mp (List.mem_of_getElem? found) with written | ⟨_, rfl⟩
    · obtain ⟨nonempty, source, member, same⟩ :=
        mem_texts_statements_iff.mp (List.mem_map_of_mem written)
      rw [← same] at nonempty ⊢
      exact (exists_instruction_iff_isStatement made (small source member)).mpr
        (bodies source member nonempty)
    · exact LabelTable.exists_instruction_halt _

theorem exists_program_iff :
    (∃ made, program lines = .ok made) ↔
      ∃ table, labelTable lines = .ok table ∧
        ∃ instructions, table.instructions 1 (table.completed lines) = .ok instructions := by
  simp only [program, bind_eq_ok_iff]
  constructor
  · rintro ⟨_, table, made, instructions, stand, _⟩
    exact ⟨table, made, instructions, stand⟩
  · rintro ⟨table, made, instructions, stand⟩
    exact ⟨⟨instructions⟩, table, made, instructions, stand, rfl⟩

end

/-- The assembler accepts exactly its language: it makes a program of every source in the language
and of no other text. -/
theorem exists_assemble_iff (source : String) :
    (∃ program, assemble source = .ok program) ↔ InLanguage (sourceLines source.toList) := by
  have noColon : ∀ index label, DeclaredOn (sourceLines source.toList) index label →
      ':' ∉ label := by
    rintro index label ⟨line, found, read⟩ inside
    obtain ⟨raw, _, rfl⟩ := List.mem_map.mp (List.mem_of_getElem? found)
    exact (mem_segment_of_read (mem_segments_of_mem_labels read) inside).2.2 rfl
  have small : ∀ line ∈ sourceLines source.toList, ∀ c ∈ line.body, isSmall c = true := by
    intro line member c inside
    obtain ⟨raw, _, rfl⟩ := List.mem_map.mp member
    exact mem_body_of_read inside
  rw [assemble, exists_program_iff]
  constructor
  · rintro ⟨table, made, instructions⟩
    obtain ⟨names, consistent⟩ := (exists_labelTable_iff noColon).mp ⟨table, made⟩
    exact ⟨names, consistent_declarations_iff.mp consistent,
      (exists_instructions_iff made small).mp instructions⟩
  · rintro ⟨names, targets, statements⟩
    obtain ⟨table, made⟩ :=
      (exists_labelTable_iff noColon).mpr ⟨names, consistent_declarations_iff.mpr targets⟩
    exact ⟨table, made, (exists_instructions_iff made small).mpr statements⟩

-- Case and blanks do not matter, a comment is no part of a line, and a line may hold nothing else.
example :
    sourceLines " Loop : Again: SUB\t1 ; counts: down\nJZero LOOP\n;".toList =
        [⟨["loop".toList, "again".toList], "sub\t1".toList⟩, ⟨[], "jzero loop".toList⟩, ⟨[], []⟩] ∧
      assemble " Loop : Again: SUB\t1 ; counts: down\nJZero LOOP\n;" =
        .ok ⟨[⟨.sub, ["loop", "again"], [.literal 1], rfl⟩,
          ⟨.jzero, [], [.label "loop" 1], rfl⟩]⟩ := by
  decide +kernel

-- There is a body between the two declarations.
example :
    sourceLines "x: nop\nx:".toList = [⟨["x".toList], "nop".toList⟩, ⟨["x".toList], []⟩] ∧
      assemble "x: nop\nx:" = .error ⟨2, .duplicateLabel "x" 1⟩ := by
  decide +kernel

end Ram.Assembly
