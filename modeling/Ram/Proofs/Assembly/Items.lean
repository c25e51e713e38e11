import Ram.Proofs.Assembly.Relocation

/-!
# What assembly depends on

A source is assembled from its *items*, which are its labels and its statements in order, whatever
lines they stand on (`program_of_items`).  Of a label only the words count, since a label of more
than one word is refused anyway.  Of a statement the *gist* counts: the mnemonic and as many words
as it has arguments (`LabelTable.instruction_congr`).
-/

namespace Ram.Assembly

open Text

/-! ## The gist of a statement -/

/-- The words of a statement that are read: the first one, and its arguments if it is a mnemonic. -/
def gist (words : List (List Char)) : List (List Char) :=
  words.take (1 + ((Mnemonic.ofName? (words.headD [])).map Mnemonic.arity).getD 0)

theorem headD_gist (words : List (List Char)) : (gist words).headD [] = words.headD [] := by
  rw [gist, Nat.add_comm]
  cases words with
  | nil => rfl
  | cons word rest => rfl

theorem tail_gist {words : List (List Char)} {kind : Mnemonic}
    (known : Mnemonic.ofName? (words.headD []) = some kind) :
    (gist words).tail = words.tail.take kind.arity := by
  rw [gist, known, Nat.add_comm]
  cases words with
  | nil => simp
  | cons word rest => rfl

/-- Words behind the last argument are no part of the gist. -/
theorem gist_append {words : List (List Char)} {kind : Mnemonic}
    (known : Mnemonic.ofName? (words.headD []) = some kind) (complete : kind.arity < words.length)
    (more : List (List Char)) : gist (words ++ more) = gist words := by
  have head : (words ++ more).headD [] = words.headD [] := by
    cases words with
    | nil => simp at complete
    | cons word rest => rfl
  rw [gist, gist, head, known, Option.map_some, Option.getD_some,
    List.take_append_of_le_length (by omega)]

namespace LabelTable

variable {table : LabelTable}

/-- Tokens behind those that are taken do not matter. -/
theorem supply_take :
    ∀ (count : Nat) (builder : Builder) (tokens : List (List Char)),
      table.supply builder count (tokens.take count) = table.supply builder count tokens
  | 0, _, _ => by rw [supply, supply]
  | count + 1, builder, [] => rfl
  | count + 1, builder, token :: tokens => by
      rw [List.take_succ_cons, supply, supply]
      simp only [supply_take count]

/-- A statement is read from its gist. -/
theorem instruction_congr {text other : List Char} (same : gist (words text) = gist (words other))
    (position : Nat) : table.instruction position text = table.instruction position other := by
  have head : (words text).headD [] = (words other).headD [] := by
    rw [← headD_gist, same, headD_gist]
  rw [instruction, instruction, head]
  cases found : mnemonic ((words other).headD []) with
  | error cause => rfl
  | ok kind =>
      have known := mnemonic_eq_ok_iff.mp found
      have tail : (words text).tail.take kind.arity = (words other).tail.take kind.arity := by
        rw [← tail_gist (head ▸ known), same, tail_gist known]
      show ((table.supply _ kind.arity (words text).tail) >>= _) =
        (table.supply _ kind.arity (words other).tail) >>= _
      rw [← supply_take, tail, supply_take]

end LabelTable

/-! ## Items -/

/-- A label or a statement of a source, by its words. -/
inductive Item where
  /-- The words of a label. -/
  | label (words : List (List Char))
  /-- The gist of a statement. -/
  | statement (words : List (List Char))

/-- The items of a line. -/
def SourceLine.items (line : SourceLine) : List Item :=
  line.labels.map (fun label => .label (words label))
    ++ if line.body = [] then [] else [.statement (gist (words line.body))]

namespace Item

/-- The labels of some items, each with its position, where the next statement has the given one. -/
def labels (position : Nat) : List Item → List (List (List Char) × Nat)
  | [] => []
  | label words :: rest => (words, position) :: labels position rest
  | statement _ :: rest => labels (position + 1) rest

/-- The gists of the statements among some items. -/
def statements : List Item → List (List (List Char))
  | [] => []
  | label _ :: rest => statements rest
  | statement words :: rest => words :: statements rest

theorem labels_append_labels (position : Nat) (texts : List (List Char)) (rest : List Item) :
    labels position (texts.map (fun text => label (words text)) ++ rest) =
      texts.map (fun text => (words text, position)) ++ labels position rest := by
  induction texts with
  | nil => rfl
  | cons text texts induction => exact congrArg (_ :: ·) induction

theorem statements_append_labels (texts : List (List Char)) (rest : List Item) :
    statements (texts.map (fun text => label (words text)) ++ rest) = statements rest := by
  induction texts with
  | nil => rfl
  | cons text texts induction => exact induction

end Item

/-- The labels among the items are the declarations, without their lines. -/
theorem labels_items :
    ∀ (lines : List SourceLine) (line position : Nat),
      (declarations line position lines).map
          (fun declaration => (words declaration.name.toList, declaration.position)) =
        Item.labels position (lines.flatMap SourceLine.items)
  | [], _, _ => rfl
  | first :: rest, line, position => by
      rw [declarations, List.map_append, labels_items rest, List.flatMap_cons, SourceLine.items,
        List.append_assoc, Item.labels_append_labels, List.map_map]
      congr 1
      · simp
      · split <;> rfl

/-- The statements among the items are the gists of the bodies. -/
theorem statements_items :
    ∀ lines : List SourceLine,
      (instructionLines lines).map (fun source => gist (words source.body)) =
        Item.statements (lines.flatMap SourceLine.items)
  | [] => rfl
  | first :: rest => by
      have later := statements_items rest
      rw [instructionLines] at later
      rw [List.flatMap_cons, SourceLine.items, List.append_assoc, Item.statements_append_labels,
        instructionLines, List.filter_cons]
      by_cases empty : first.body = []
      · simpa [empty] using later
      · simpa [empty, Item.statements] using later

/-! ## Assembly -/

/-- The name of a label is one word. -/
theorem words_of_isLabelName {name : List Char} (named : isLabelName name = true) :
    words name = [name] := by
  obtain ⟨letter, solid, _⟩ := isLabelName_iff.mp named
  apply words_of_no_blank ?_ solid
  rintro rfl
  cases letter

/-- Where the labels of the one source are names and those of the other are trimmed, they are the
same if their words are. -/
theorem moved_of_items {lines others : List SourceLine}
    (same : lines.flatMap SourceLine.items = others.flatMap SourceLine.items)
    (named : ∀ declaration ∈ declarations 1 1 lines, isLabelName declaration.name.toList = true)
    (trimmed : ∀ source ∈ others, ∀ label ∈ source.labels, trim label = label) :
    List.Forall₂ (Moved 0) (declarations 1 1 lines) (declarations 1 1 others) := by
  have views := (labels_items lines 1 1).trans (same ▸ (labels_items others 1 1).symm)
  rw [← List.forall₂_eq_eq_eq, List.forall₂_map_left_iff, List.forall₂_map_right_iff] at views
  rw [List.forall₂_iff_get] at views ⊢
  refine ⟨views.1, fun index inside otherInside => ?_⟩
  have view := views.2 index inside otherInside
  have known := named _ (List.get_mem _ ⟨index, inside⟩)
  obtain ⟨source, member, label, declared, name⟩ :=
    label_of_mem_declarations (List.get_mem _ ⟨index, otherInside⟩)
  obtain ⟨sameWords, samePosition⟩ := Prod.mk.inj view
  rw [words_of_isLabelName known] at sameWords
  have sameName := trim_eq_of_words sameWords.symm
  rw [name, String.toList_ofList, trimmed source member label declared] at sameName
  refine ⟨?_, samePosition.symm⟩
  rw [name, sameName, String.ofList_toList]

/-- A source that is assembled gives the same program in every other arrangement of its items. -/
theorem program_of_items {lines others : List SourceLine} {result : Program}
    (same : lines.flatMap SourceLine.items = others.flatMap SourceLine.items)
    (trimmed : ∀ source ∈ others, ∀ label ∈ source.labels, trim label = label)
    (assembled : program lines = .ok result) : program others = .ok result := by
  obtain ⟨table, made, walked⟩ := program_eq_ok_iff.mp assembled
  have named := (LabelTable.exists_ofDeclarations_iff.mp ⟨table, made⟩).1
  have start : LabelTable.Follows 0 [] {} {} := ⟨[], .nil, rfl⟩
  obtain ⟨other, otherMade, follows⟩ :=
    start.declareAll (moved_of_items same named trimmed) (by simp) made
  have attached (position : Nat) : other.attachedTo position = table.attachedTo position :=
    follows.attachedTo (by simp)
  have gists := (statements_items lines).trans (same ▸ (statements_items others).symm)
  have length : (instructionLines others).length = (instructionLines lines).length := by
    simpa using (congrArg List.length gists).symm
  have texts : (table.texts lines).map (fun text => gist (words text)) =
      (other.texts others).map fun text => gist (words text) := by
    rw [LabelTable.texts_eq, LabelTable.texts_eq, attached, length, List.map_append,
      List.map_append, List.map_map, List.map_map]
    exact congrArg (· ++ _) gists
  refine program_eq_ok_iff.mpr ⟨other, otherMade, ?_⟩
  rw [← inOrder_congr (fun place _ _ agree => LabelTable.instruction_congr agree place) texts,
    ← List.map_id result.instructions, ← Instruction.relocate_zero]
  refine inOrder_map_results walked fun index text instruction found stands => ?_
  exact LabelTable.instruction_relocate
    (fun name position => follows.resolve (by simp)) (attached _) stands

end Ram.Assembly
