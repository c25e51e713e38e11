import Ram.Proofs.Assembly.Passes

/-!
# Sources one after the other

A source that follows another one is assembled as it is alone, only further down: its
instructions are the same and every label in them points further by the length of what comes
before (`Instruction.relocate`).  The two sources must not share a label, and the first one must
end with an instruction.  Otherwise a label behind it would lose its `HALT` and name the first
instruction of the second.

The label table is shared by both sources, so the proof says what a table knows of labels that
were *moved*.  Declarations that are moved by a number of positions make a table that is moved as
well, behind entries of other names (`LabelTable.Follows.declareAll`).  Such a table reads every
token as before, but for the position of a label, and gives every text the instruction that it
stood for, relocated (`LabelTable.instruction_relocate`).
-/

namespace Ram

/-! ## Relocation -/

/-- The argument in a program that starts further down. -/
def Argument.relocate (offset : Nat) : Argument → Argument
  | .label name position => .label name (position + offset)
  | argument => argument

/-- Relocation does not change the kind of an argument. -/
theorem Shape.admits_relocate (offset : Nat) (shape : Shape) (argument : Argument) :
    shape.admits (argument.relocate offset) = shape.admits argument := by
  cases argument <;> cases shape <;> rfl

/-- The instruction in a program that starts further down. -/
def Instruction.relocate (offset : Nat) (instruction : Instruction) : Instruction :=
  { instruction with
    arguments := instruction.arguments.map (Argument.relocate offset)
    fits := by rw [fill_map (Shape.admits_relocate offset)]; exact instruction.fits }

/-- A program followed by another one. -/
def Program.followedBy (first second : Program) : Program :=
  ⟨first.instructions ++ second.instructions.map (Instruction.relocate first.length)⟩

theorem Argument.relocate_zero (argument : Argument) : argument.relocate 0 = argument := by
  cases argument <;> rfl

theorem Instruction.relocate_zero : Instruction.relocate 0 = id := by
  have same : Argument.relocate 0 = id := funext Argument.relocate_zero
  funext instruction
  simp [relocate, same]

end Ram

namespace Ram.Assembly

open Text

/-! ## Moved declarations -/

/-- Whether a declaration is another one, moved by some positions. -/
structure Moved (offset : Nat) (declaration moved : Declaration) : Prop where
  name : moved.name = declaration.name
  position : moved.position = declaration.position + offset

/-- A line has the same labels wherever it stands. -/
theorem moved_declarations {offset : Nat} :
    ∀ (lines : List SourceLine) (line position other : Nat),
      List.Forall₂ (Moved offset) (declarations line position lines)
        (declarations other (position + offset) lines)
  | [], _, _, _ => .nil
  | first :: rest, line, position, other => by
      have later := @moved_declarations offset rest (line + 1)
        (if first.body = [] then position else position + 1) (other + 1)
      have start : (if first.body = [] then position else position + 1) + offset =
          if first.body = [] then position + offset else position + offset + 1 := by
        split <;> omega
      rw [start] at later
      refine List.rel_append ?_ later
      rw [List.forall₂_map_left_iff, List.forall₂_map_right_iff, List.forall₂_same]
      intro label _
      exact ⟨rfl, rfl⟩

namespace LabelTable

variable {offset : Nat} {base : List Declaration} {table other next : LabelTable} {name : String}

/-! ## Moved tables -/

/-- Whether a table has the entries of another one, moved, behind some others. -/
def Follows (offset : Nat) (base : List Declaration) (table other : LabelTable) : Prop :=
  ∃ moved, List.Forall₂ (Moved offset) table.entries moved ∧ other = ⟨base ++ moved⟩

/-- A name is found in a table that was moved exactly if it is found in the table. -/
theorem find?_of_forall₂ {entries moved : List Declaration}
    (shifted : List.Forall₂ (Moved offset) entries moved) :
    Option.Rel (Moved offset) (find? ⟨entries⟩ name) (find? ⟨moved⟩ name) := by
  induction shifted with
  | nil => exact .none
  | cons first _ induction =>
      simp only [find?, List.find?_cons, first.name]
      split
      next => exact .some first
      next => exact induction

theorem offset_lt_of_mem {entries moved : List Declaration}
    (shifted : List.Forall₂ (Moved offset) entries moved)
    (positive : ∀ entry ∈ entries, 1 ≤ entry.position) :
    ∀ entry ∈ moved, offset < entry.position := by
  induction shifted with
  | nil => simp
  | cons first _ induction =>
      obtain ⟨firstPositive, restPositive⟩ := List.forall_mem_cons.mp positive
      refine List.forall_mem_cons.mpr ⟨?_, induction restPositive⟩
      rw [first.position]
      omega

namespace Follows

/-- What is found under a name that is not in front is what was found before, moved. -/
theorem find? (follows : Follows offset base table other)
    (absent : name ∉ base.map Declaration.name) :
    Option.Rel (Moved offset) (table.find? name) (other.find? name) := by
  obtain ⟨moved, shifted, rfl⟩ := follows
  have front : base.find? (fun entry => entry.name = name) = none := find?_eq_none_iff.mpr absent
  have behind : LabelTable.find? ⟨base ++ moved⟩ name = LabelTable.find? ⟨moved⟩ name := by
    rw [LabelTable.find?, List.find?_append, front, Option.none_or]
    rfl
  rw [behind]
  exact find?_of_forall₂ shifted

theorem find?_eq_none (follows : Follows offset base table other)
    (absent : name ∉ base.map Declaration.name) (new : table.find? name = none) :
    other.find? name = none := by
  have related := follows.find? absent
  cases found : other.find? name with
  | none => rfl
  | some moved =>
      rw [new, found] at related
      cases related

/-- A name of the second table is found in the joined one, for a position that was moved. -/
theorem find?_eq_some (follows : Follows offset base table other)
    (absent : name ∉ base.map Declaration.name) {entry : Declaration}
    (found : table.find? name = some entry) :
    ∃ moved, other.find? name = some moved ∧ Moved offset entry moved := by
  have related := follows.find? absent
  cases alsoFound : other.find? name with
  | none =>
      rw [found, alsoFound] at related
      cases related
  | some moved =>
      rw [found, alsoFound] at related
      cases related with
      | some same => exact ⟨moved, rfl, same⟩

/-- A name of the second table stands for its position behind the first program. -/
theorem resolve (follows : Follows offset base table other)
    (absent : name ∉ base.map Declaration.name) {position : Nat}
    (resolved : table.resolve name = some position) :
    other.resolve name = some (position + offset) := by
  obtain ⟨entry, found, rfl⟩ := Option.map_eq_some_iff.mp resolved
  obtain ⟨moved, alsoFound, same⟩ := follows.find?_eq_some absent found
  rw [LabelTable.resolve, alsoFound, Option.map_some, same.position]

/-- Behind the first program, the names for a position are those of the second table. -/
theorem attachedTo (follows : Follows offset base table other) {position : Nat}
    (free : ∀ entry ∈ base, entry.position ≠ position + offset) :
    other.attachedTo (position + offset) = table.attachedTo position := by
  obtain ⟨moved, shifted, rfl⟩ := follows
  have none : base.filter (fun entry => entry.position = position + offset) = [] := by
    simpa [List.filter_eq_nil_iff] using free
  rw [LabelTable.attachedTo, List.filter_append, none, List.nil_append, LabelTable.attachedTo]
  generalize table.entries = entries at shifted
  induction shifted with
  | nil => rfl
  | cons first _ induction =>
      simp only [List.filter_cons, first.position, Nat.add_right_cancel_iff]
      split
      next => rw [List.map_cons, List.map_cons, first.name, induction]
      next => exact induction

/-- The entries in front keep their names. -/
theorem resolve_front (follows : Follows offset base table other) {position : Nat}
    (resolved : LabelTable.resolve ⟨base⟩ name = some position) :
    other.resolve name = some position := by
  obtain ⟨moved, _, rfl⟩ := follows
  obtain ⟨entry, found, rfl⟩ := Option.map_eq_some_iff.mp resolved
  rw [LabelTable.resolve, LabelTable.find?, List.find?_append]
  rw [LabelTable.find?] at found
  rw [found]
  rfl

theorem attachedTo_front (follows : Follows offset base table other) {position : Nat}
    (positive : ∀ entry ∈ table.entries, 1 ≤ entry.position) (within : position ≤ offset) :
    other.attachedTo position = LabelTable.attachedTo ⟨base⟩ position := by
  obtain ⟨moved, shifted, rfl⟩ := follows
  have none : moved.filter (fun entry => entry.position = position) = [] := by
    rw [List.filter_eq_nil_iff]
    intro entry member
    have beyond := offset_lt_of_mem shifted positive entry member
    simp only [decide_eq_true_eq]
    omega
  rw [LabelTable.attachedTo, List.filter_append, none, List.append_nil, LabelTable.attachedTo]

/-- One more declaration, moved, is accepted where it was accepted before. -/
theorem declare {declaration moved : Declaration} (follows : Follows offset base table other)
    (same : Moved offset declaration moved)
    (absent : declaration.name ∉ base.map Declaration.name)
    (declared : table.declare declaration = .ok next) :
    ∃ otherNext, other.declare moved = .ok otherNext ∧ Follows offset base next otherNext := by
  obtain ⟨named, ⟨new, rfl⟩ | ⟨⟨first, old, position⟩, rfl⟩⟩ := declare_eq_ok_iff.mp declared
  · have alsoNew := follows.find?_eq_none absent new
    obtain ⟨entries, shifted, rfl⟩ := follows
    refine ⟨⟨base ++ (entries ++ [moved])⟩, ?_, _, List.rel_append shifted (.cons same .nil), rfl⟩
    rw [declare_eq_ok_iff, same.name]
    exact ⟨named, .inl ⟨alsoNew, by rw [List.append_assoc]⟩⟩
  · obtain ⟨twin, alsoOld, twinMoved⟩ := follows.find?_eq_some absent old
    refine ⟨other, ?_, follows⟩
    rw [declare_eq_ok_iff, same.name]
    refine ⟨named, .inr ⟨⟨twin, alsoOld, ?_⟩, rfl⟩⟩
    rw [twinMoved.position, same.position, position]

/-- Declarations that are moved make a table that is moved. -/
theorem declareAll {declarations moved : List Declaration}
    (same : List.Forall₂ (Moved offset) declarations moved) :
    ∀ {table other result : LabelTable}, Follows offset base table other →
      (∀ declaration ∈ declarations, declaration.name ∉ base.map Declaration.name) →
        declarations.foldlM LabelTable.declare table = .ok result →
          ∃ otherResult, moved.foldlM LabelTable.declare other = .ok otherResult ∧
            Follows offset base result otherResult := by
  induction same with
  | nil =>
      intro table other result follows _ success
      cases success
      exact ⟨other, rfl, follows⟩
  | cons first _ induction =>
      intro table other result follows absent success
      rw [List.foldlM_cons, bind_eq_ok_iff] at success
      obtain ⟨next, declared, success⟩ := success
      obtain ⟨absentFirst, absentRest⟩ := List.forall_mem_cons.mp absent
      obtain ⟨otherNext, alsoDeclared, alsoFollows⟩ := follows.declare first absentFirst declared
      obtain ⟨otherResult, alsoSuccess, last⟩ := induction alsoFollows absentRest success
      exact ⟨otherResult, by rw [List.foldlM_cons, alsoDeclared]; exact alsoSuccess, last⟩

end Follows

/-! ## Reading with a moved table -/

/-- A token is read as before, but for the position of a label. -/
theorem argument_relocate {token : List Char} {argument : Argument}
    (resolves : ∀ name position, table.resolve name = some position →
      other.resolve name = some (position + offset))
    (read : table.argument token = .ok argument) :
    other.argument token = .ok (argument.relocate offset) := by
  unfold LabelTable.argument at read ⊢
  split at read
  next register =>
    rw [if_pos register]
    split at read
    next => cases read; rfl
    next => cases read
  next notRegister =>
    rw [if_neg notRegister]
    split at read
    next letter =>
      rw [if_pos letter]
      split at read
      next position resolved =>
        cases read
        rw [resolves _ _ resolved]
        rfl
      next => cases read
    next notLetter =>
      rw [if_neg notLetter]
      cases value : literal token with
      | error cause =>
          rw [value] at read
          cases read
      | ok number =>
          rw [value] at read
          cases read
          rfl

/-- A text stands for the instruction that it stood for, relocated, at a position with the same
labels. -/
theorem instruction_relocate {place otherPlace : Nat} {text : List Char}
    {instruction : Instruction}
    (resolves : ∀ name position, table.resolve name = some position →
      other.resolve name = some (position + offset))
    (attached : other.attachedTo otherPlace = table.attachedTo place)
    (stands : table.instruction place text = .ok instruction) :
    other.instruction otherPlace text = .ok (instruction.relocate offset) := by
  rw [instruction_eq_ok_iff] at stands ⊢
  obtain ⟨known, labels, read⟩ := stands
  refine ⟨known, labels.trans attached.symm, ?_⟩
  show List.Forall₂ _ _ (instruction.arguments.map (Argument.relocate offset))
  rw [List.forall₂_map_right_iff]
  exact read.imp fun token argument => argument_relocate resolves

end LabelTable

/-! ## Two sources -/

/-- The lines of two texts with a newline between them are those of the two. -/
theorem sourceLines_append (first second : List Char) :
    sourceLines (first ++ '\n' :: second) = sourceLines first ++ sourceLines second := by
  rw [sourceLines, List.splitOn_append_cons_self, List.map_append]
  rfl

theorem mem_declaredNames_of_mem {lines : List SourceLine} {table : LabelTable} {name : String}
    (made : labelTable lines = .ok table) (known : name ∈ table.entries.map Declaration.name) :
    name ∈ declaredNames lines := by
  obtain ⟨entry, member, rfl⟩ := List.mem_map.mp known
  rw [declaredNames, ← map_name_declarations lines 1 1]
  exact List.mem_map_of_mem (LabelTable.mem_declarations_of_mem made member)

/-- The table of two sources without a common label is that of the first one, with that of the
second one behind it. -/
theorem labelTable_append {first second : List SourceLine} {table other : LabelTable}
    (made : labelTable first = .ok table) (otherMade : labelTable second = .ok other)
    (apart : (declaredNames first).Disjoint (declaredNames second)) :
    ∃ joined, labelTable (first ++ second) = .ok joined ∧
      LabelTable.Follows (instructionLines first).length table.entries other joined := by
  have absent : ∀ declaration ∈ declarations 1 1 second,
      declaration.name ∉ table.entries.map Declaration.name := by
    intro declaration member known
    refine apart (mem_declaredNames_of_mem made known) ?_
    rw [declaredNames, ← map_name_declarations second 1 1]
    exact List.mem_map_of_mem member
  have start : LabelTable.Follows (instructionLines first).length table.entries {} table :=
    ⟨[], .nil, by rw [List.append_nil]⟩
  obtain ⟨joined, success, follows⟩ := start.declareAll
    (moved_declarations second 1 1 (1 + first.length)) absent otherMade
  refine ⟨joined, ?_, follows⟩
  rw [labelTable, LabelTable.ofDeclarations, declarations_append, List.foldlM_append,
    bind_eq_ok_iff]
  exact ⟨table, made, success⟩

/-- If no label is behind the last instruction, no name stands for the position there. -/
theorem attachedTo_last_of_closed {lines : List SourceLine} {table : LabelTable}
    (made : labelTable lines = .ok table) (closed : ¬ TrailingLabel lines) :
    table.attachedTo ((instructionLines lines).length + 1) = [] := by
  rwa [← attachedTo_last_ne_nil_iff made, not_not, length_statements_eq] at closed

/-- Without a label behind the last instruction every label of the table points at one. -/
theorem position_le_of_closed {lines : List SourceLine} {table : LabelTable} {entry : Declaration}
    (made : labelTable lines = .ok table) (closed : ¬ TrailingLabel lines)
    (member : entry ∈ table.entries) : entry.position ≤ (instructionLines lines).length := by
  have bounds := position_of_mem_declarations (LabelTable.mem_declarations_of_mem made member)
  have notLast : entry.position ≠ (instructionLines lines).length + 1 := by
    intro last
    have attached := LabelTable.mem_attachedTo_iff.mpr ⟨entry, member, last, rfl⟩
    rw [attachedTo_last_of_closed made closed] at attached
    cases attached
  rw [length_statements_eq] at bounds
  omega

/-- A source that ends with an instruction is given no other. -/
theorem texts_of_closed {lines : List SourceLine} {table : LabelTable}
    (made : labelTable lines = .ok table) (closed : ¬ TrailingLabel lines) :
    table.texts lines = (instructionLines lines).map SourceLine.body := by
  rw [LabelTable.texts_eq, if_pos (attachedTo_last_of_closed made closed), List.append_nil]

section Joined

variable {first second : List SourceLine} {table other joined : LabelTable}

theorem not_mem_of_resolve {name : String} {position : Nat}
    (made : labelTable first = .ok table) (otherMade : labelTable second = .ok other)
    (apart : (declaredNames first).Disjoint (declaredNames second))
    (resolved : other.resolve name = some position) :
    name ∉ table.entries.map Declaration.name := by
  obtain ⟨entry, found, _⟩ := Option.map_eq_some_iff.mp resolved
  obtain ⟨member, rfl⟩ := LabelTable.mem_of_find? found
  intro known
  exact apart (mem_declaredNames_of_mem made known)
    (mem_declaredNames_of_mem otherMade (List.mem_map_of_mem member))

/-- The labels of the first source stay within it, so the second one keeps its own. -/
theorem attachedTo_behind {position : Nat} (made : labelTable first = .ok table)
    (closed : ¬ TrailingLabel first)
    (follows : LabelTable.Follows (instructionLines first).length table.entries other joined)
    (start : 1 ≤ position) :
    joined.attachedTo (position + (instructionLines first).length) = other.attachedTo position := by
  apply follows.attachedTo
  intro entry member same
  have within := position_le_of_closed made closed member
  omega

theorem texts_append (made : labelTable first = .ok table) (closed : ¬ TrailingLabel first)
    (follows : LabelTable.Follows (instructionLines first).length table.entries other joined) :
    joined.texts (first ++ second) = table.texts first ++ other.texts second := by
  have last : joined.attachedTo ((instructionLines (first ++ second)).length + 1) =
      other.attachedTo ((instructionLines second).length + 1) := by
    rw [← attachedTo_behind made closed follows (Nat.le_add_left 1 _), instructionLines_append,
      List.length_append]
    congr 1
    omega
  rw [texts_of_closed made closed, LabelTable.texts_eq, LabelTable.texts_eq, last,
    instructionLines_append, List.map_append, List.append_assoc]

end Joined

/-- The program of two parts is that of the first one, followed by that of the second one. -/
theorem program_append {first second : List SourceLine} {result other : Program}
    (assembled : program first = .ok result) (otherAssembled : program second = .ok other)
    (apart : (declaredNames first).Disjoint (declaredNames second))
    (closed : ¬ TrailingLabel first) :
    program (first ++ second) = .ok (result.followedBy other) := by
  obtain ⟨table, made, walked⟩ := program_eq_ok_iff.mp assembled
  obtain ⟨otherTable, otherMade, otherWalked⟩ := program_eq_ok_iff.mp otherAssembled
  obtain ⟨joined, joinedMade, follows⟩ := labelTable_append made otherMade apart
  have positive : ∀ entry ∈ otherTable.entries, 1 ≤ entry.position := fun entry member =>
    (position_of_mem_declarations (LabelTable.mem_declarations_of_mem otherMade member)).1
  have texts : joined.texts (first ++ second) = table.texts first ++ otherTable.texts second :=
    texts_append made closed follows
  have count : (table.texts first).length = (instructionLines first).length := by
    rw [texts_of_closed made closed, List.length_map]
  have length : result.length = (instructionLines first).length := by
    rw [Program.length, length_of_inOrder walked, count]
  refine program_eq_ok_iff.mpr ⟨joined, joinedMade, ?_⟩
  rw [texts, inOrder_append_eq_ok_iff]
  refine ⟨result.instructions, other.instructions.map (Instruction.relocate result.length),
    ?_, ?_, rfl⟩
  · rw [← List.map_id result.instructions, ← Instruction.relocate_zero]
    refine inOrder_map_results walked fun index text instruction found stands => ?_
    have inside := (List.getElem?_eq_some_iff.mp found).1
    rw [count] at inside
    refine LabelTable.instruction_relocate (fun name position => follows.resolve_front) ?_ stands
    exact follows.attachedTo_front positive (by omega)
  · rw [count, length]
    refine inOrder_map_results otherWalked fun index text instruction found stands => ?_
    refine LabelTable.instruction_relocate (fun name position resolved => ?_) ?_ stands
    · exact follows.resolve (not_mem_of_resolve made otherMade apart resolved) resolved
    · rw [Nat.add_right_comm]
      exact attachedTo_behind made closed follows (Nat.le_add_right 1 index)

/-- Two sources one after the other are assembled to their programs one after the other, if they
declare no label in common and the first one declares none behind its last instruction. -/
theorem assemble_append {first second : String} {program other : Program}
    (assembled : assemble first = .ok program) (otherAssembled : assemble second = .ok other)
    (apart : (declaredNames (sourceLines first.toList)).Disjoint
      (declaredNames (sourceLines second.toList)))
    (closed : ¬ TrailingLabel (sourceLines first.toList)) :
    assemble (first ++ "\n" ++ second) = .ok (program.followedBy other) := by
  have lines : sourceLines (first ++ "\n" ++ second).toList =
      sourceLines first.toList ++ sourceLines second.toList := by
    rw [← sourceLines_append]
    simp
  rw [assemble, lines]
  exact program_append assembled otherAssembled apart closed

/-- Jumps in both directions in both sources, a label that is repeated, and one behind the last
instruction of the second source. -/
theorem assemble_append_loops :
    let first := "loop: jzero out\nLoop2: LOOP2: sub 1\njump loop\nout: halt ; done"
    let second := "top: jpos top\njump end\nend:"
    ∃ program other, assemble first = .ok program ∧ assemble second = .ok other ∧
      other.instructions.map Instruction.text = ["top: JPOS top", "JUMP end", "end: HALT"] ∧
      assemble (first ++ "\n" ++ second) = .ok (program.followedBy other) := by
  intro first second
  have lines : sourceLines first.toList =
      [⟨["loop".toList], "jzero out".toList⟩, ⟨["loop2".toList, "loop2".toList], "sub 1".toList⟩,
        ⟨[], "jump loop".toList⟩, ⟨["out".toList], "halt".toList⟩] := by
    decide +kernel
  have closed : ¬ TrailingLabel (sourceLines first.toList) := by
    rintro ⟨index, label, declared, empty⟩
    have inside := lt_length_of_declaredOn declared
    rw [lines] at inside empty
    exact absurd (empty 3 _ (by simp at inside; omega) rfl) (by decide)
  have apart : ∀ name ∈ declaredNames (sourceLines first.toList),
      name ∉ declaredNames (sourceLines second.toList) := by
    decide +kernel
  have assembled : assemble first = .ok
      ⟨[⟨.jzero, ["loop"], [.label "out" 4], rfl⟩, ⟨.sub, ["loop2"], [.literal 1], rfl⟩,
        ⟨.jump, [], [.label "loop" 1], rfl⟩, ⟨.halt, ["out"], [], rfl⟩]⟩ := by
    decide +kernel
  have otherAssembled : assemble second = .ok
      ⟨[⟨.jpos, ["top"], [.label "top" 1], rfl⟩, ⟨.jump, [], [.label "end" 3], rfl⟩,
        ⟨.halt, ["end"], [], rfl⟩]⟩ := by
    decide +kernel
  exact ⟨_, _, assembled, otherAssembled, by decide +kernel,
    assemble_append assembled otherAssembled (List.disjoint_left.mpr apart) closed⟩

end Ram.Assembly
