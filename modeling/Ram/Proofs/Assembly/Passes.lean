import Ram.Proofs.Assembly.Resolution

/-!
# The two passes over parts of a source

Both passes go through the lines in order, so what they do with two parts of a source that follow
each other is put together from what they do with each part.  The first pass gives a line of the
second part a number and a position that count on from the first part (`declarations_append`).
The second pass walks over the *texts* of a source, which are its bodies and the `HALT` that is
added for labels behind them, and sees nothing of their lines (`program_eq_ok_iff`).
-/

namespace Ram.Assembly

open Text

/-! ## The first pass -/

@[simp] theorem instructionLines_append (first second : List SourceLine) :
    instructionLines (first ++ second) = instructionLines first ++ instructionLines second :=
  List.filter_append first second

/-- The declarations of two parts: those of the second one count on from the first. -/
theorem declarations_append :
    ∀ (first second : List SourceLine) (line position : Nat),
      declarations line position (first ++ second) =
        declarations line position first ++
          declarations (line + first.length) (position + (instructionLines first).length) second
  | [], second, line, position => rfl
  | source :: first, second, line, position => by
      rw [List.cons_append, declarations, declarations, declarations_append first second,
        List.append_assoc, List.length_cons, Nat.add_assoc line, Nat.add_comm 1]
      by_cases empty : source.body = []
      · simp [instructionLines, empty]
      · simp [instructionLines, empty, Nat.add_assoc, Nat.add_comm 1]

theorem statements_append :
    ∀ (first second : List SourceLine) (line : Nat),
      statements line (first ++ second) =
        statements line first ++ statements (line + first.length) second
  | [], second, line => rfl
  | source :: first, second, line => by
      rw [List.cons_append, statements, statements, statements_append first second,
        List.length_cons, Nat.add_assoc line, Nat.add_comm 1]
      split <;> rfl

/-! ## The second pass -/

/-- The texts that the second pass makes instructions of. -/
def LabelTable.texts (table : LabelTable) (lines : List SourceLine) : List (List Char) :=
  (table.completed lines).map Statement.text

theorem LabelTable.texts_eq (table : LabelTable) (lines : List SourceLine) :
    table.texts lines = (instructionLines lines).map SourceLine.body ++
      if table.attachedTo ((instructionLines lines).length + 1) = [] then []
      else [Mnemonic.halt.name.toList] := by
  rw [texts, completed, length_statements_eq]
  split
  next => rw [map_text_statements_eq, List.append_nil]
  next => rw [List.map_append, map_text_statements_eq]; rfl

theorem instructions_eq_ok_iff {table : LabelTable} {statements : List Statement}
    {position : Nat} {instructions : List Instruction} :
    table.instructions position statements = .ok instructions ↔
      inOrder table.instruction position (statements.map Statement.text) = .ok instructions := by
  rw [instructions_eq_inOrder, inOrder_map, inOrder_eq_ok_iff, inOrder_eq_ok_iff]
  apply forall_congr'
  intro index
  cases statements[index]? with
  | none => simp
  | some statement => cases instructions[index]? <;> simp

/-- Lines are assembled exactly when the table of all their labels is made and the second pass
succeeds with it on every text. -/
theorem program_eq_ok_iff {lines : List SourceLine} {result : Program} :
    program lines = .ok result ↔
      ∃ table, labelTable lines = .ok table ∧
        inOrder table.instruction 1 (table.texts lines) = .ok result.instructions := by
  simp only [program, bind_eq_ok_iff, instructions_eq_ok_iff, LabelTable.texts]
  constructor
  · rintro ⟨table, made, instructions, walked, same⟩
    cases same
    exact ⟨table, made, walked⟩
  · rintro ⟨table, made, walked⟩
    exact ⟨table, made, result.instructions, walked, rfl⟩

end Ram.Assembly
