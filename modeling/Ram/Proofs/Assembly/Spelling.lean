import Ram.Proofs.Assembly.Items
import Ram.Proofs.Assembly.FirstError
import Ram.Proofs.Text.Sigma

/-!
# Labels as they are written

A label is declared by the text before a colon and used by a word of a statement, and both are read
in lowercase.  A use that is written as the declaration is resolves to it, whatever the case of the
letters, with one exception (`assemble_jump`).

A line is lowercased as a whole, before it is taken apart.  A capital sigma at the end of a label is
then not at the end of a word if a letter stands right behind the colon, since the colon is
case-ignorable: `aΣ:halt` declares `aσ`.  In `jump aΣ` the same sigma ends a word and becomes `ς`.
So the use names another label, and it is refused where that one is not declared.
-/

namespace Ram.Assembly

open Text

/-! ## A label in a line -/

/-- A label that is written in a line: the parts of the code around its name. -/
structure Spelling (raw name : List Char) where
  /-- The labels before it on the line, with their colons. -/
  head : List Char
  /-- The gap before the name. -/
  gap : List Char
  /-- The gap before the colon. -/
  pause : List Char
  /-- The code behind the colon. -/
  rest : List Char
  parts : code raw = head ++ (gap ++ name ++ pause) ++ ':' :: rest
  start : head = [] ∨ head.getLast? = some ':'
  gapBlank : IsGap gap
  pauseBlank : IsGap pause
  undivided : ':' ∉ name
  trimmed : trim name = name
  nonempty : name ≠ []

/-- The segments of a line are those of its code, in lowercase. -/
theorem segments_eq (raw : List Char) :
    SourceLine.segments raw = ((lowercase (code raw)).splitOn ':').map trim := by
  rw [SourceLine.segments, significant_eq, map_trim_splitOn_trim (by decide)]

namespace Spelling

variable {raw name : List Char}

/-- The text of the line behind the name. -/
def behind (spelling : Spelling raw name) : List Char := spelling.pause ++ ':' :: spelling.rest

/-- The text of the line before the name, read backwards. -/
def before (spelling : Spelling raw name) : List Char :=
  spelling.gap.reverse ++ spelling.head.reverse

/-- The name as it is read on the line. -/
def label (spelling : Spelling raw name) : List Char :=
  lowerWithin spelling.before name spelling.behind

theorem semicolon_not_mem (spelling : Spelling raw name) : ';' ∉ name := by
  intro member
  apply semicolon_not_mem_code raw
  rw [spelling.parts]
  simp [member]

theorem mem_raw (spelling : Spelling raw name) {c : Char} (member : c ∈ name) : c ∈ raw := by
  apply mem_of_mem_code
  rw [spelling.parts]
  simp [member]

theorem isMark_eq (spelling : Spelling raw name) {c : Char} (member : c ∈ name) :
    isMark c = isBlank c := by
  have notColon := beq_false_of_ne (ne_of_mem_of_not_mem member spelling.undivided)
  have notComment := beq_false_of_ne (ne_of_mem_of_not_mem member spelling.semicolon_not_mem)
  rw [isMark, notColon, notComment, Bool.or_false, Bool.or_false]

/-- The name has no blanks at its ends in lowercase either. -/
theorem trim_label (spelling : Spelling raw name) : trim spelling.label = spelling.label := by
  have visible {d : Char} (unmarked : isMark d = false) : isBlank d = false := by
    rw [Bool.eq_false_iff] at unmarked ⊢
    exact fun blank => unmarked (isMark_of_isBlank blank)
  apply trim_eq_self
  · intro d first
    obtain ⟨c, front, lowered⟩ := head?_lowerWithin first
    apply visible
    rw [isMark_of_mem_lowerBetween (List.mem_of_head? lowered),
      spelling.isMark_eq (List.mem_of_head? front)]
    rw [← spelling.trimmed] at front
    exact head?_trim front
  · intro d last
    obtain ⟨c, back, same⟩ := getLast?_lowerWithin last
    apply visible
    rw [same, spelling.isMark_eq (List.mem_of_getLast? back)]
    rw [← spelling.trimmed] at back
    exact getLast?_trim back

/-- The line in lowercase has the name between the same parts. -/
theorem lowercase_code (spelling : Spelling raw name) :
    ∃ front back, (front = [] ∨ front.getLast? = some ':') ∧
      lowercase (code raw) =
        front ++ (spelling.gap ++ spelling.label ++ spelling.pause) ++ ':' :: back := by
  obtain ⟨head, gap, pause, rest, parts, start, gapBlank, pauseBlank, _, _, _⟩ := spelling
  have colon : isMark ':' = true := by decide
  refine ⟨lowerWithin [] head (gap ++ name ++ pause ++ ':' :: rest),
    lowerAfter (':' :: ((gap ++ name ++ pause).reverse ++ head.reverse)) rest, ?_, ?_⟩
  · refine start.imp (fun empty => by rw [empty]; rfl) fun ends => ?_
    obtain ⟨init, rfl⟩ := List.getLast?_eq_some_iff.mp ends
    rw [lowerWithin_append, lowerWithin_cons, lowerBetween_of_isMark colon]
    exact List.getLast?_concat
  · rw [parts, lowercase, List.append_assoc, lowerAfter_append, lowerAfter_append, lowerAfter_cons,
      lowerBetween_of_isMark colon, lowerWithin_append, lowerWithin_append,
      lowerWithin_gap gapBlank, lowerWithin_gap pauseBlank, label, before, behind]
    simp [List.append_assoc]

/-- The name is a label of the line as it is read. -/
theorem mem_labels (spelling : Spelling raw name) :
    spelling.label ∈ (SourceLine.read raw).labels := by
  obtain ⟨front, back, start, lowered⟩ := spelling.lowercase_code
  have undivided : ':' ∉ spelling.gap ++ spelling.label ++ spelling.pause := by
    have colon (gap : List Char) (blank : IsGap gap) : ':' ∉ gap := fun member =>
      ne_colon_of_isBlank (blank _ member) rfl
    have inside : ':' ∉ spelling.label := fun member =>
      spelling.undivided (mem_of_mem_lowerWithin (by decide) member)
    simp [colon _ spelling.gapBlank, colon _ spelling.pauseBlank, inside]
  have piece := List.mem_map_of_mem (f := trim) (mem_dropLast_splitOn start undivided back)
  rw [trim_gaps spelling.gapBlank spelling.pauseBlank, spelling.trim_label, ← lowered,
    List.map_dropLast, ← segments_eq] at piece
  apply List.mem_filter.mpr
  have nonempty := lowerWithin_ne_nil spelling.nonempty spelling.before spelling.behind
  exact ⟨piece, by simpa [label] using nonempty⟩

end Spelling

/-! ## Declarations and uses -/

theorem startsWithLetter_eq (text : List Char) :
    startsWithLetter text = text.head?.any Char.isLower := by
  cases text <;> rfl

theorem looksLikeRegister_eq (text : List Char) :
    looksLikeRegister text = (text.head?.any (· == 'r') &&
      text.tail.head?.any fun c => c.isDigit || c == '+' || c == '-') := by
  match text with
  | [] => rfl
  | [c] => simp [looksLikeRegister]
  | c :: d :: rest =>
      by_cases register : c = 'r'
      · subst register
        rfl
      · simp [looksLikeRegister, register]

/-- Merging sigmas makes no name and spoils none. -/
theorem isLabelName_map_mergeSigma (text : List Char) :
    isLabelName (text.map mergeSigma) = isLabelName text := by
  have letter := apply_mergeSigma Char.isLower (by decide)
  have blank := apply_mergeSigma isBlank (by decide)
  have colon := apply_mergeSigma (':' == ·) (by decide)
  have register := apply_mergeSigma (· == 'r') (by decide)
  have digit := apply_mergeSigma (fun c => c.isDigit || c == '+' || c == '-') (by decide)
  simp only [isLabelName, startsWithLetter_eq, looksLikeRegister_eq, List.contains_eq_any_beq,
    List.head?_map, ← List.map_tail, Option.any_map, List.any_map, Function.comp_def, letter, blank,
    colon, register, digit]

namespace Spelling

variable {raw name : List Char}

/-- Where the line is accepted, what stands before the name does not matter. -/
theorem label_eq (spelling : Spelling raw name) (named : isLabelName spelling.label = true) :
    spelling.label = lowerWithin [] name spelling.behind := by
  obtain ⟨letter, _⟩ := isLabelName_iff.mp named
  rw [startsWithLetter_eq, Option.any_eq_true] at letter
  obtain ⟨d, first, small⟩ := letter
  exact lowerWithin_of_letter first small

/-- The name is read alike in a use, so it is a name there too. -/
theorem isLabelName_lowercase (spelling : Spelling raw name)
    (named : isLabelName spelling.label = true) : isLabelName (lowercase name) = true := by
  rw [← isLabelName_map_mergeSigma] at named ⊢
  rwa [lowercase, ← lowerWithin_end,
    map_mergeSigma_lowerWithin name [] [] spelling.before spelling.behind]

/-- A use is read as the declaration is, but for a sigma at the end. -/
theorem label_eq_lowercase (spelling : Spelling raw name)
    (named : isLabelName spelling.label = true)
    (plain : ¬ (EndsInSigma [] name ∧ meetsCased spelling.behind = true)) :
    spelling.label = lowercase name := by
  rw [spelling.label_eq named, lowerWithin_eq_lowerAfter plain, lowercase]

end Spelling

/-! ## A jump behind a source -/

/-- A line that jumps to a name is read as a statement of two words. -/
theorem read_jump {name : List Char} (undivided : ':' ∉ name) (uncommented : ';' ∉ name)
    (named : isLabelName (lowercase name) = true) :
    (SourceLine.read ("jump ".toList ++ name)).labels = [] ∧
      words (SourceLine.read ("jump ".toList ++ name)).body = ["jump".toList, lowercase name] := by
  have text : "jump ".toList ++ name = "jump".toList ++ ' ' :: name := by simp
  have coded : code ("jump ".toList ++ name) = "jump ".toList ++ name := by
    apply code_of_not_mem
    simp [uncommented]
  have lowered : lowercase (code ("jump ".toList ++ name)) =
      "jump".toList ++ ' ' :: lowercase name := by
    rw [coded, text, lowercase_append_mark (by decide) (by decide)]
    congr 1
  have undividedLine : ':' ∉ "jump".toList ++ ' ' :: lowercase name := by
    simp [mt (mem_of_mem_lowercase (by decide)) undivided]
  have segments : SourceLine.segments ("jump ".toList ++ name) =
      [trim ("jump".toList ++ ' ' :: lowercase name)] := by
    rw [segments_eq, lowered, List.splitOn_eq_singleton undividedLine, List.map_singleton]
  rw [SourceLine.read, segments]
  refine ⟨rfl, ?_⟩
  show words (trim _) = _
  rw [words_trim, words_append_blank (by decide), words_of_isLabelName named]
  rfl

namespace LabelTable

variable {table : LabelTable} {place : Nat} {body token : List Char}

/-- A jump to a label that is declared is read. -/
theorem instruction_jump {position : Nat} (split : words body = ["jump".toList, token])
    (named : isLabelName token = true)
    (resolved : table.resolve (String.ofList token) = some position) :
    table.instruction place body = .ok ⟨.jump, table.attachedTo place,
      [.label (String.ofList token) position], rfl⟩ := by
  have read := argument_label (by rwa [String.toList_ofList]) resolved
  rw [String.toList_ofList] at read
  have known : Mnemonic.ofName? "jump".toList = some .jump := by decide
  rw [instruction_eq_ok_iff, split]
  exact ⟨known, rfl, .cons read .nil⟩

/-- A jump to a label that is not declared is refused. -/
theorem instruction_jump_undefined (split : words body = ["jump".toList, token])
    (named : isLabelName token = true) (undefined : table.resolve (String.ofList token) = none) :
    table.instruction place body = .error (.undefinedLabel (String.ofList token)) := by
  obtain ⟨letter, _, _, register⟩ := isLabelName_iff.mp named
  have known : Mnemonic.ofName? "jump".toList = some .jump := by decide
  refine instruction_of_argument_error split known rfl ?_
  simp [LabelTable.argument, letter, register, undefined]

end LabelTable

/-- One more statement, without a label, is the last instruction. -/
theorem program_concat {lines : List SourceLine} {table : LabelTable} {result : Program}
    {line : SourceLine} (made : labelTable lines = .ok table)
    (assembled : program lines = .ok result) (unlabelled : line.labels = [])
    (nonempty : line.body ≠ []) :
    ∃ before, program (lines ++ [line]) =
      ((table.instruction (1 + (statements 1 lines).length) line.body).mapError
        (Error.mk (lines.length + 1))).map fun last => ⟨before ++ [last]⟩ := by
  obtain ⟨other, otherMade, walked⟩ := program_eq_ok_iff.mp assembled
  cases made.symm.trans otherMade
  rw [LabelTable.texts_eq, inOrder_append_eq_ok_iff, ← map_text_statements_eq] at walked
  obtain ⟨before, _, statementsWalked, _, _⟩ := walked
  rw [← instructions_eq_ok_iff, instructions_eq_inOrder] at statementsWalked
  have sameTable : labelTable (lines ++ [line]) = .ok table := by
    have none (number position : Nat) : declarations number position [line] = [] := by
      simp [declarations, unlabelled]
    rw [labelTable, declarations_append, none, List.append_nil]
    exact made
  have written : statements 1 (lines ++ [line]) =
      statements 1 lines ++ [⟨lines.length + 1, line.body⟩] := by
    rw [statements_append, Nat.add_comm 1]
    simp [statements, nonempty]
  have free : table.attachedTo ((statements 1 (lines ++ [line])).length + 1) = [] := by
    rw [List.eq_nil_iff_forall_not_mem]
    intro name attached
    obtain ⟨entry, member, position, _⟩ := LabelTable.mem_attachedTo_iff.mp attached
    have bounds := position_of_mem_declarations (LabelTable.mem_declarations_of_mem made member)
    rw [written, List.length_append, List.length_singleton] at position
    omega
  refine ⟨before, ?_⟩
  rw [program, sameTable]
  show (table.instructions 1 (table.completed (lines ++ [line])) >>= fun instructions => _) = _
  rw [LabelTable.completed, if_pos free, written, instructions_eq_inOrder,
    inOrder_concat _ statementsWalked]
  cases table.instruction (1 + (statements 1 lines).length) line.body <;> rfl

theorem sourceLines_jump (source : String) {name : List Char} (undivided : '\n' ∉ name) :
    sourceLines (source ++ "\njump " ++ String.ofList name).toList =
      sourceLines source.toList ++ [SourceLine.read ("jump ".toList ++ name)] := by
  have text : (source ++ "\njump " ++ String.ofList name).toList =
      source.toList ++ '\n' :: ("jump ".toList ++ name) := by
    simp
  have single : '\n' ∉ "jump ".toList ++ name := by simp [undivided]
  rw [text, sourceLines_append]
  congr 1
  rw [sourceLines, List.splitOn_eq_singleton single, List.map_singleton]

theorem isLabelName_of_declaredOn {lines : List SourceLine} {table : LabelTable} {index : Nat}
    {label : List Char} (made : labelTable lines = .ok table)
    (declared : DeclaredOn lines index label) : isLabelName label = true := by
  have named := (LabelTable.exists_ofDeclarations_iff.mp ⟨table, made⟩).1 _
    (mem_declarations_iff_declaredOn.mpr ⟨index, label, declared, rfl⟩)
  rwa [String.toList_ofList] at named

/-- A jump to a label, written as the label is where it is declared, goes to the instruction that
the declaration is attached to.  The exception is a name that ends in a sigma and is declared right
before a letter: there the jump reads another name, and it is refused if that one is not declared. -/
theorem assemble_jump {source : String} {program : Program} {index : Nat} {raw name : List Char}
    (assembled : assemble source = .ok program)
    (found : (source.toList.splitOn '\n')[index]? = some raw) (spelling : Spelling raw name) :
    (¬ (EndsInSigma [] name ∧ meetsCased spelling.behind = true) →
      ∃ longer jump, assemble (source ++ "\njump " ++ String.ofList name) = .ok longer ∧
        longer.instructions.getLast? = some jump ∧ jump.mnemonic = .jump ∧
        jump.arguments = [.label (String.ofList (lowercase name))
          (1 + statementsBefore (sourceLines source.toList) index)] ∧
        PointsTo program (String.ofList (lowercase name))
          (1 + statementsBefore (sourceLines source.toList) index)) ∧
    ((∀ line, ¬ DeclaredOn (sourceLines source.toList) line (lowercase name)) →
      (EndsInSigma [] name ∧ meetsCased spelling.behind = true) ∧
        assemble (source ++ "\njump " ++ String.ofList name) =
          .error ⟨(sourceLines source.toList).length + 1,
            .undefinedLabel (String.ofList (lowercase name))⟩) := by
  obtain ⟨table, made⟩ := exists_assembledWith assembled
  have declared : DeclaredOn (sourceLines source.toList) index spelling.label := by
    refine ⟨SourceLine.read raw, ?_, spelling.mem_labels⟩
    rw [sourceLines, List.getElem?_map, found, Option.map_some]
  have named := isLabelName_of_declaredOn made.made declared
  have alsoNamed := spelling.isLabelName_lowercase named
  have oneLine : '\n' ∉ name := by
    intro member
    exact (mem_of_mem_splitOn (List.mem_of_getElem? found) _ (spelling.mem_raw member)).2 rfl
  obtain ⟨unlabelled, split⟩ := read_jump spelling.undivided spelling.semicolon_not_mem alsoNamed
  have nonempty : (SourceLine.read ("jump ".toList ++ name)).body ≠ [] := by
    intro empty
    rw [empty, words_nil] at split
    cases split
  obtain ⟨before, longer⟩ := program_concat made.made assembled unlabelled nonempty
  rw [assemble, sourceLines_jump source oneLine, longer]
  constructor
  · intro plain
    rw [← spelling.label_eq_lowercase named plain] at split ⊢
    rw [LabelTable.instruction_jump split named (resolve_of_declaredOn made.made declared)]
    exact ⟨_, _, rfl, List.getLast?_concat, rfl, rfl, made.pointsTo declared⟩
  · intro undeclared
    have ends : EndsInSigma [] name ∧ meetsCased spelling.behind = true := by
      by_contra plain
      rw [spelling.label_eq_lowercase named plain] at declared
      exact undeclared index declared
    have undefined : table.resolve (String.ofList (lowercase name)) = none := by
      rw [Option.eq_none_iff_forall_not_mem]
      intro position resolved
      obtain ⟨line, known⟩ := (exists_resolve_iff_declaredOn made.made).mp ⟨position, resolved⟩
      exact undeclared line known
    rw [LabelTable.instruction_jump_undefined split alsoNamed undefined]
    exact ⟨ends, rfl⟩

/-- Two labels with a sigma at the end: behind the first one comes a blank, and behind the other one
a letter. -/
theorem assemble_jump_sigma :
    let apart := "aΣ: halt"
    let close := "aΣ:halt"
    let name := "aΣ".toList
    (∃ program longer jump, assemble apart = .ok program ∧
      assemble (apart ++ "\njump " ++ String.ofList name) = .ok longer ∧
      longer.instructions.getLast? = some jump ∧ jump.arguments = [.label "aς" 1] ∧
      PointsTo program "aς" 1) ∧
    assemble (close ++ "\njump " ++ String.ofList name) = .error ⟨2, .undefinedLabel "aς"⟩ := by
  intro apart close name
  have lowered : String.ofList (lowercase name) = "aς" := by decide +kernel
  let apartSpelling : Spelling apart.toList name :=
    ⟨[], [], [], " halt".toList, by decide, .inl rfl, by decide, by decide, by decide, by decide,
      by decide⟩
  let closeSpelling : Spelling close.toList name :=
    ⟨[], [], [], "halt".toList, by decide, .inl rfl, by decide, by decide, by decide, by decide,
      by decide⟩
  have apartAssembled : assemble apart = .ok ⟨[⟨.halt, ["aς"], [], rfl⟩]⟩ := by decide +kernel
  have closeAssembled : assemble close = .ok ⟨[⟨.halt, ["aσ"], [], rfl⟩]⟩ := by decide +kernel
  have uncased : meetsCased apartSpelling.behind = false := by decide +kernel
  have apartFound : (apart.toList.splitOn '\n')[0]? = some apart.toList := by decide
  have closeFound : (close.toList.splitOn '\n')[0]? = some close.toList := by decide
  have apartLines : statementsBefore (sourceLines apart.toList) 0 = 0 := rfl
  have closeLines : sourceLines close.toList = [⟨["aσ".toList], "halt".toList⟩] := by decide +kernel
  have undeclared : ∀ line, ¬ DeclaredOn (sourceLines close.toList) line (lowercase name) := by
    rintro line ⟨source, found, member⟩
    rw [closeLines] at found
    cases line with
    | zero =>
        cases found
        exact absurd member (by decide +kernel)
    | succ later => simp at found
  constructor
  · obtain ⟨longer, jump, accepted, last, _, arguments, points⟩ :=
      (assemble_jump apartAssembled apartFound apartSpelling).1 fun ends => by simp [uncased] at ends
    rw [lowered, apartLines] at arguments points
    exact ⟨_, longer, jump, apartAssembled, accepted, last, arguments, points⟩
  · obtain ⟨_, refused⟩ := (assemble_jump closeAssembled closeFound closeSpelling).2 undeclared
    rwa [lowered, closeLines] at refused

/-- Not every label can be used as it is written where it is declared. -/
theorem not_forall_assemble_jump :
    ¬ ∀ (source : String) (program : Program) (index : Nat) (raw name : List Char),
      assemble source = .ok program → (source.toList.splitOn '\n')[index]? = some raw →
        Nonempty (Spelling raw name) →
          ∃ longer, assemble (source ++ "\njump " ++ String.ofList name) = .ok longer := by
  intro every
  have assembled : assemble "aΣ:halt" = .ok ⟨[⟨.halt, ["aσ"], [], rfl⟩]⟩ := by decide +kernel
  have refused : assemble ("aΣ:halt" ++ "\njump " ++ String.ofList "aΣ".toList) =
      .error ⟨2, .undefinedLabel "aς"⟩ := by decide +kernel
  obtain ⟨longer, accepted⟩ := every "aΣ:halt" _ 0 "aΣ:halt".toList "aΣ".toList assembled
    (by decide) ⟨[], [], [], "halt".toList, by decide, .inl rfl, by decide, by decide, by decide,
      by decide, by decide⟩
  rw [refused] at accepted
  cases accepted

end Ram.Assembly
