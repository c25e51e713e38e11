import Ram.Proofs.Assembly.Passes

/-!
# Which error is reported

Each pass stops at its first failure, and the second one starts only when the first one has seen
the whole source.  So there are two kinds of errors.

* An error in a declaration is settled by the lines up to the one that it names.  What follows
  does not matter, and neither does what the statements before it say, since the first pass only
  asks whether a line has a body (`labelTable_eq_error_iff`, `declarations_of_sameHead`).
* An error in a statement says that no declaration of the source is at fault.  It names the first
  line whose body does not stand for an instruction when all labels are known
  (`firstRefused_of_instructions_error`).

The kind of an error is seen on its cause: the first pass gives the causes that lie in a
declaration, and the second one gives all others.
-/

namespace Ram.Assembly

open Text

/-! ## Errors of the first pass -/

namespace LabelTable

variable {table : LabelTable} {error : Error}

/-- A declaration is refused on its own line, for a cause that lies in a declaration. -/
theorem declare_eq_error {declaration : Declaration}
    (failed : table.declare declaration = .error error) :
    error.line = declaration.line ∧ error.cause.isDeclaration = true := by
  rcases declare_eq_error_iff.mp failed with ⟨_, rfl⟩ | ⟨_, first, _, _, rfl⟩
  · exact ⟨rfl, rfl⟩
  · exact ⟨rfl, rfl⟩

/-- The first pass fails on the line of a declaration, and because of it. -/
theorem declareAll_eq_error {declarations : List Declaration}
    (failed : declarations.foldlM LabelTable.declare table = .error error) :
    (∃ declaration ∈ declarations, error.line = declaration.line) ∧
      error.cause.isDeclaration = true := by
  obtain ⟨before, declaration, after, _, rfl, _, refused⟩ := foldlM_eq_error_iff.mp failed
  obtain ⟨line, kind⟩ := declare_eq_error refused
  exact ⟨⟨declaration, List.mem_append_right before (.head after), line⟩, kind⟩

end LabelTable

/-- The first pass fails exactly as it does on the lines up to the one that it refuses. -/
theorem labelTable_eq_error_iff {lines : List SourceLine} {error : Error} :
    labelTable lines = .error error ↔ labelTable (lines.take error.line) = .error error := by
  have parts : labelTable lines = labelTable (lines.take error.line) >>= fun table =>
      (declarations (1 + (lines.take error.line).length)
        (1 + (instructionLines (lines.take error.line)).length)
        (lines.drop error.line)).foldlM LabelTable.declare table := by
    conv_lhs => rw [← List.take_append_drop error.line lines]
    rw [labelTable, LabelTable.ofDeclarations, declarations_append, List.foldlM_append]
    rfl
  rw [parts, bind_eq_error_iff]
  constructor
  · rintro (early | ⟨table, _, late⟩)
    · exact early
    · -- the later lines have larger numbers
      obtain ⟨⟨declaration, member, line⟩, _⟩ := LabelTable.declareAll_eq_error late
      obtain ⟨index, source, found, label, _, rfl⟩ := mem_declarations_iff.mp member
      have inside := (List.getElem?_eq_some_iff.mp found).1
      simp only [List.length_take, List.length_drop] at line inside
      omega
  · exact .inl

/-! ## Lines with the same labels -/

/-- Whether two lines have the same labels, and both have a body or both have none. -/
structure SameHead (raw other : List Char) : Prop where
  labels : (SourceLine.read other).labels = (SourceLine.read raw).labels
  body : (SourceLine.read other).body = [] ↔ (SourceLine.read raw).body = []

instance : DecidableRel SameHead := fun raw other =>
  decidable_of_iff ((SourceLine.read other).labels = (SourceLine.read raw).labels ∧
      ((SourceLine.read other).body = [] ↔ (SourceLine.read raw).body = []))
    ⟨fun parts => ⟨parts.1, parts.2⟩, fun same => ⟨same.labels, same.body⟩⟩

/-- Whether two sources agree on their first lines, but for what the statements there say. -/
def AgreeUpTo (count : Nat) (source other : String) : Prop :=
  List.Forall₂ SameHead ((source.toList.splitOn '\n').take count)
    ((other.toList.splitOn '\n').take count)

instance (count : Nat) (source other : String) : Decidable (AgreeUpTo count source other) :=
  inferInstanceAs (Decidable (List.Forall₂ _ _ _))

/-- Lines with the same labels have the same declarations. -/
theorem declarations_of_sameHead {raws others : List (List Char)}
    (same : List.Forall₂ SameHead raws others) (line position : Nat) :
    declarations line position (others.map SourceLine.read) =
      declarations line position (raws.map SourceLine.read) := by
  induction same generalizing line position with
  | nil => rfl
  | cons head _ induction =>
      simp only [List.map_cons, declarations, head.labels, head.body, induction]

/-- Sources that agree on some lines have the same table of these lines. -/
theorem labelTable_take_of_agree {count : Nat} {source other : String}
    (agree : AgreeUpTo count source other) :
    labelTable ((sourceLines other.toList).take count) =
      labelTable ((sourceLines source.toList).take count) := by
  rw [labelTable, labelTable, sourceLines, sourceLines, ← List.map_take, ← List.map_take,
    declarations_of_sameHead agree]

/-! ## Errors of the second pass -/

theorem literal_eq_error {token : List Char} {cause : Cause}
    (failed : literal token = .error cause) : cause.isDeclaration = false := by
  unfold literal at failed
  split at failed
  next =>
    cases failed
    rfl
  next =>
    split at failed
    next =>
      cases failed
      rfl
    next =>
      split at failed
      next =>
        cases failed
        rfl
      next =>
        split at failed
        next =>
          cases failed
          rfl
        next => cases failed

namespace LabelTable

variable {table : LabelTable} {cause : Cause}

theorem argument_eq_error {token : List Char} (failed : table.argument token = .error cause) :
    cause.isDeclaration = false := by
  unfold LabelTable.argument at failed
  split at failed
  next =>
    split at failed
    next => cases failed
    next =>
      cases failed
      rfl
  next =>
    split at failed
    next =>
      split at failed
      next => cases failed
      next =>
        cases failed
        rfl
    next =>
      cases read : literal token with
      | ok value =>
          rw [read] at failed
          cases failed
      | error inner =>
          rw [read] at failed
          cases failed
          exact literal_eq_error read

theorem supply_eq_error :
    ∀ {count : Nat} {tokens : List (List Char)} {builder : Builder},
      table.supply builder count tokens = .error cause → cause.isDeclaration = false
  | 0, _, _, failed => by cases failed
  | _ + 1, [], _, failed => by
      cases failed
      rfl
  | count + 1, token :: tokens, builder, failed => by
      rw [supply, bind_eq_error_iff] at failed
      rcases failed with unread | ⟨argument, _, failed⟩
      · exact argument_eq_error unread
      · rcases bind_eq_error_iff.mp failed with refused | ⟨next, _, later⟩
        · obtain ⟨_, _, rfl⟩ := mapError_eq_error_iff.mp refused
          rfl
        · exact supply_eq_error later

/-- A statement is never refused for a cause that lies in a declaration. -/
theorem instruction_eq_error {position : Nat} {text : List Char}
    (failed : table.instruction position text = .error cause) : cause.isDeclaration = false := by
  rw [LabelTable.instruction, bind_eq_error_iff] at failed
  rcases failed with unknown | ⟨kind, _, failed⟩
  · obtain ⟨_, rfl⟩ := mnemonic_eq_error_iff.mp unknown
    rfl
  · rcases bind_eq_error_iff.mp failed with unsupplied | ⟨builder, _, incomplete⟩
    · exact supply_eq_error unsupplied
    · obtain ⟨_, _, rfl⟩ := mapError_eq_error_iff.mp incomplete
      rfl

end LabelTable

/-! ## The lines of statements -/

theorem exists_getElem?_cons_iff {α : Type} {holds : Nat → α → Prop} {first : α} {rest : List α} :
    (∃ index element, (first :: rest)[index]? = some element ∧ holds index element) ↔
      holds 0 first ∨ ∃ index element, rest[index]? = some element ∧ holds (index + 1) element := by
  constructor
  · rintro ⟨index, element, found, holds⟩
    cases index with
    | zero =>
        cases found
        exact .inl holds
    | succ index => exact .inr ⟨index, element, by simpa using found, holds⟩
  · rintro (holds | ⟨index, element, found, holds⟩)
    · exact ⟨0, first, rfl, holds⟩
    · exact ⟨index + 1, element, by simpa using found, holds⟩

/-- The statement at a place is the body of the line that has as many bodies before it. -/
theorem getElem?_statements_iff {statement : Statement} :
    ∀ {lines : List SourceLine} {line place : Nat},
      (statements line lines)[place]? = some statement ↔
        ∃ index source, lines[index]? = some source ∧ source.body ≠ [] ∧
          statementsBefore lines index = place ∧ statement = ⟨line + index, source.body⟩
  | [], line, place => by simp
  | first :: rest, line, place => by
      have start : statementsBefore (first :: rest) 0 = 0 := rfl
      rw [exists_getElem?_cons_iff, statements, start]
      simp only [statementsBefore_succ, ← Nat.add_assoc, Nat.add_right_comm line _ 1]
      by_cases empty : first.body = []
      · simp [empty, getElem?_statements_iff]
      · cases place with
        | zero => simp [empty, eq_comm]
        | succ place => simp [empty, getElem?_statements_iff]

theorem statementsBefore_lt {lines : List SourceLine} {earlier index : Nat} {source : SourceLine}
    (less : earlier < index) (found : lines[earlier]? = some source) (nonempty : source.body ≠ []) :
    statementsBefore lines earlier < statementsBefore lines index := by
  have among : lines.take earlier <+: lines.take index := List.take_prefix_take_left less.le
  refine Nat.lt_of_le_of_ne among.sublist.countP_le fun same => nonempty ?_
  exact (statementsBefore_eq_iff less.le).mp same earlier source (Nat.le_refl _) less found

/-- Whether the line with the given index is the first one whose body does not stand for an
instruction, and why it does not. -/
structure FirstRefused (table : LabelTable) (lines : List SourceLine) (index : Nat)
    (cause : Cause) : Prop where
  refused : ∃ source, lines[index]? = some source ∧ source.body ≠ [] ∧
    table.instruction (1 + statementsBefore lines index) source.body = .error cause
  before : ∀ earlier < index, ∀ source, lines[earlier]? = some source → source.body ≠ [] →
    ∃ instruction,
      table.instruction (1 + statementsBefore lines earlier) source.body = .ok instruction

/-- The second pass never refuses the `HALT` that is added. -/
theorem getElem?_statements_of_refused {table : LabelTable} {lines : List SourceLine} {place : Nat}
    {statement : Statement} {position : Nat} {cause : Cause}
    (found : (table.completed lines)[place]? = some statement)
    (refused : table.instruction position statement.text = .error cause) :
    (statements 1 lines)[place]? = some statement := by
  simp only [LabelTable.completed] at found
  split at found
  next => exact found
  next =>
    by_cases inside : place < (statements 1 lines).length
    · rwa [List.getElem?_append_left inside] at found
    · rw [List.getElem?_append_right (by omega)] at found
      obtain rfl := List.mem_singleton.mp (List.mem_of_getElem? found)
      obtain ⟨halt, stands⟩ := @LabelTable.exists_instruction_halt table position
      rw [stands] at refused
      cases refused

/-- The second pass fails on the first line whose body does not stand for an instruction. -/
theorem firstRefused_of_instructions_error {table : LabelTable} {lines : List SourceLine}
    {error : Error} (failed : table.instructions 1 (table.completed lines) = .error error) :
    ∃ index, error.line = index + 1 ∧ FirstRefused table lines index error.cause := by
  rw [instructions_eq_inOrder, inOrder_eq_error_iff] at failed
  obtain ⟨place, statement, found, failed, before⟩ := failed
  obtain ⟨cause, refused, rfl⟩ := mapError_eq_error_iff.mp failed
  have written := getElem?_statements_of_refused found refused
  obtain ⟨index, source, there, nonempty, rfl, rfl⟩ := getElem?_statements_iff.mp written
  refine ⟨index, Nat.add_comm 1 index, ⟨source, there, nonempty, refused⟩, ?_⟩
  intro earlier less other otherThere otherNonempty
  have place := statementsBefore_lt less otherThere otherNonempty
  have stated : (table.completed lines)[statementsBefore lines earlier]? =
      some ⟨1 + earlier, other.body⟩ := by
    have written : (statements 1 lines)[statementsBefore lines earlier]? =
        some ⟨1 + earlier, other.body⟩ :=
      getElem?_statements_iff.mpr ⟨earlier, other, otherThere, otherNonempty, rfl, rfl⟩
    simp only [LabelTable.completed]
    split
    next => exact written
    next => rw [List.getElem?_append_left (List.getElem?_eq_some_iff.mp written).1, written]
  simpa using before _ place _ stated

/-! ## The reported error -/

/-- Whether the labels of some lines are names and none is declared on both sides of a body. -/
structure SoundLabels (lines : List SourceLine) : Prop where
  names : ∀ index label, DeclaredOn lines index label → IsName label
  targets : ∀ label first second, DeclaredOn lines first label → DeclaredOn lines second label →
    ∀ index source, first ≤ index → index < second → lines[index]? = some source →
      source.body = []

theorem soundLabels_of_labelTable {source : List Char} {table : LabelTable}
    (made : labelTable (sourceLines source) = .ok table) : SoundLabels (sourceLines source) := by
  obtain ⟨names, consistent⟩ :=
    (exists_labelTable_iff fun _ _ => colon_not_mem_of_declaredOn).mp ⟨table, made⟩
  exact ⟨names, consistent_declarations_iff.mp consistent⟩

/-- Assembling fails in the first pass or else in the second. -/
theorem program_eq_error_iff {lines : List SourceLine} {error : Error} :
    program lines = .error error ↔
      labelTable lines = .error error ∨
        ∃ table, labelTable lines = .ok table ∧
          table.instructions 1 (table.completed lines) = .error error := by
  simp only [program, bind_eq_error_iff]
  apply or_congr_right
  constructor
  · rintro ⟨table, made, failed | ⟨_, _, impossible⟩⟩
    · exact ⟨table, made, failed⟩
    · cases impossible
  · rintro ⟨table, made, failed⟩
    exact ⟨table, made, .inl failed⟩

/-- Which error is reported.  An error in a declaration is the error of every source that agrees
up to its line, whatever the statements there say and whatever follows.  With any other error all
labels of the source are sound, and its line is the first one that the second pass refuses. -/
theorem assemble_eq_error {source : String} {line : Nat} {cause : Cause}
    (failed : assemble source = .error ⟨line, cause⟩) :
    (cause.isDeclaration = true → ∀ other, AgreeUpTo line source other →
      assemble other = .error ⟨line, cause⟩) ∧
    (cause.isDeclaration = false →
      SoundLabels (sourceLines source.toList) ∧
        ∃ table index, labelTable (sourceLines source.toList) = .ok table ∧ line = index + 1 ∧
          FirstRefused table (sourceLines source.toList) index cause) := by
  rcases program_eq_error_iff.mp failed with early | ⟨table, made, late⟩
  · -- the first pass fails
    obtain ⟨_, kind⟩ := LabelTable.declareAll_eq_error early
    refine ⟨fun _ other agree => program_eq_error_iff.mpr (.inl ?_), fun otherwise => ?_⟩
    · rw [labelTable_eq_error_iff] at early ⊢
      rw [labelTable_take_of_agree agree, early]
    · simp [kind] at otherwise
  · -- the second pass fails
    obtain ⟨index, lineIs, first⟩ := firstRefused_of_instructions_error late
    obtain ⟨_, _, _, refused⟩ := first.refused
    have kind := LabelTable.instruction_eq_error refused
    refine ⟨fun otherwise => ?_, fun _ => ⟨soundLabels_of_labelTable made, ?_⟩⟩
    · rw [kind] at otherwise
      cases otherwise
    · exact ⟨table, index, made, lineIs, first⟩

/-- A label that is no name hides two statements that are none, and a source with other statements
in their place has the same error.  Without it the first of two bad statements is reported. -/
theorem assemble_eq_error_masked :
    let source := "frob\nadd\nend: 1a: halt\nhalt"
    let other := "nop\nzap 1\nEND: 1A:zap ; again\n2b:"
    let late := "jump end\nadd r1 more\nfrob 1\nend: frob"
    (assemble source = .error ⟨3, .invalidLabel "1a"⟩ ∧ AgreeUpTo 3 source other ∧
      assemble other = .error ⟨3, .invalidLabel "1a"⟩) ∧
    (assemble late = .error ⟨3, .unknownMnemonic "frob"⟩ ∧ SoundLabels (sourceLines late.toList) ∧
      ∃ table, labelTable (sourceLines late.toList) = .ok table ∧
        FirstRefused table (sourceLines late.toList) 2 (.unknownMnemonic "frob")) := by
  intro source other late
  have masked : assemble source = .error ⟨3, .invalidLabel "1a"⟩ := by decide +kernel
  have agree : AgreeUpTo 3 source other := by decide +kernel
  have refused : assemble late = .error ⟨3, .unknownMnemonic "frob"⟩ := by decide +kernel
  obtain ⟨sound, table, index, made, line, first⟩ := (assemble_eq_error refused).2 rfl
  obtain rfl : index = 2 := by omega
  exact ⟨⟨masked, agree, (assemble_eq_error masked).1 rfl other agree⟩, refused, sound, table, made,
    first⟩

end Ram.Assembly
