import Ram.Assembly.LabelTable
import Ram.Proofs.Text.Context

/-!
# Lines taken apart and put together

Two directions of reading a line.

*Apart.*  A line is read from its *code*, which is what comes before the comment
(`significant_eq`).  The labels and the body that are read from a line hold only small characters,
and the labels no colon and no semicolon.  A label is declared for the position after the statements
before its line (`mem_declarations_iff`), so two lines declare for one position exactly when no line
between them has a body (`statementsBefore_eq_iff`).

*Together.*  `layout` puts labels, a first word and more words into one line, and reading that
line gives the parts back in lowercase (`read_layout`).  The parts have to be *solid*: not
empty, and without a blank, a colon or a semicolon.
-/

namespace Ram.Assembly

open Text

/-! ## The code of a line -/

/-- The part of a line before its comment. -/
def code (raw : List Char) : List Char := raw.takeWhile (· ≠ ';')

theorem code_of_not_mem {raw : List Char} (absent : ';' ∉ raw) : code raw = raw :=
  takeWhile_eq_of_not_mem absent

theorem code_append_of_not_mem {first : List Char} (absent : ';' ∉ first) (second : List Char) :
    code (first ++ second) = first ++ code second :=
  List.takeWhile_append_of_pos fun c member => by simpa using ne_of_mem_of_not_mem member absent

theorem code_append_of_mem {first : List Char} (member : ';' ∈ first) (second : List Char) :
    code (first ++ second) = code first := by
  obtain ⟨before, after, rfl, absent⟩ := List.eq_append_cons_of_mem member
  rw [List.append_assoc, List.cons_append, code, code, takeWhile_append_semicolon absent,
    takeWhile_append_semicolon absent]

/-- A comment behind a line, or behind its comment, changes nothing. -/
theorem code_append_comment (raw comment : List Char) :
    code (raw ++ ';' :: comment) = code raw := by
  by_cases member : ';' ∈ raw
  · exact code_append_of_mem member _
  · rw [code_append_of_not_mem member, code_of_not_mem member]
    exact List.append_nil raw

theorem semicolon_not_mem_code (raw : List Char) : ';' ∉ code raw := by
  intro member
  simpa using List.mem_takeWhile_imp member

theorem mem_of_mem_code {raw : List Char} {c : Char} (member : c ∈ code raw) : c ∈ raw :=
  (List.takeWhile_sublist _).subset member

theorem semicolon_not_mem_of_isGap {gap : List Char} (blank : IsGap gap) : ';' ∉ gap := by
  intro member
  exact absurd (blank _ member) (by decide)

/-- Blanks around a line are blanks around its code, or stand in its comment. -/
theorem exists_gaps_code {front back : List Char} (frontBlank : IsGap front)
    (backBlank : IsGap back) (text : List Char) :
    ∃ rest, IsGap rest ∧ code (front ++ text ++ back) = front ++ code text ++ rest := by
  rw [List.append_assoc, code_append_of_not_mem (semicolon_not_mem_of_isGap frontBlank)]
  by_cases member : ';' ∈ text
  · exact ⟨[], by simp [IsGap], by rw [code_append_of_mem member, List.append_nil]⟩
  · refine ⟨back, backBlank, ?_⟩
    rw [code_append_of_not_mem member, code_of_not_mem member,
      code_of_not_mem (semicolon_not_mem_of_isGap backBlank), List.append_assoc]

/-- A line is read from its code alone. -/
theorem significant_eq (raw : List Char) :
    SourceLine.significant raw = trim (lowercase (code raw)) := by
  obtain ⟨front, back, frontBlank, backBlank, same⟩ := exists_gaps raw
  obtain ⟨rest, restBlank, coded⟩ := exists_gaps_code frontBlank backBlank (trim raw)
  rw [← same] at coded
  rw [coded, lowercase_append_gap restBlank, lowercase_gap_append frontBlank,
    trim_gaps frontBlank restBlank, SourceLine.significant, takeWhile_lowercase]
  rfl

/-! ## Parts that are read -/

/-- A piece between the colons of a line holds small characters, no colon and no semicolon. -/
theorem mem_segment_of_read {raw segment : List Char} {c : Char}
    (read : segment ∈ SourceLine.segments raw) (member : c ∈ segment) :
    isSmall c = true ∧ c ≠ ';' ∧ c ≠ ':' := by
  obtain ⟨piece, split, rfl⟩ := List.mem_map.mp read
  obtain ⟨significant, notColon⟩ := mem_of_mem_splitOn split c (mem_of_mem_trim member)
  have uncommented := mem_of_mem_trim significant
  refine ⟨?_, ?_, notColon⟩
  · exact isSmall_of_mem_lowercase ((List.takeWhile_sublist _).subset uncommented)
  · simpa using List.mem_takeWhile_imp uncommented

theorem trim_of_mem_segments {raw segment : List Char}
    (member : segment ∈ SourceLine.segments raw) : trim segment = segment := by
  obtain ⟨piece, _, rfl⟩ := List.mem_map.mp member
  exact trim_trim piece

/-- A label is one of the pieces between the colons. -/
theorem mem_segments_of_mem_labels {raw label : List Char}
    (read : label ∈ (SourceLine.read raw).labels) : label ∈ SourceLine.segments raw :=
  List.dropLast_subset _ (List.mem_of_mem_filter read)

/-- A label that is read from a line holds small characters and no semicolon. -/
theorem mem_label_of_read {raw label : List Char} {c : Char}
    (read : label ∈ (SourceLine.read raw).labels) (member : c ∈ label) :
    isSmall c = true ∧ c ≠ ';' := by
  obtain ⟨small, notComment, _⟩ := mem_segment_of_read (mem_segments_of_mem_labels read) member
  exact ⟨small, notComment⟩

/-- A body that is read from a line holds small characters. -/
theorem mem_body_of_read {raw : List Char} {c : Char} (member : c ∈ (SourceLine.read raw).body) :
    isSmall c = true := by
  have last : (SourceLine.read raw).body ∈ [] :: SourceLine.segments raw := List.getLastD_mem_cons
  rcases List.mem_cons.mp last with empty | segment
  · simp [empty] at member
  · exact (mem_segment_of_read segment member).1

/-- A body that is not empty has a word. -/
theorem body_eq_nil_iff {raw : List Char} :
    (SourceLine.read raw).body = [] ↔ words (SourceLine.read raw).body = [] := by
  have last : (SourceLine.read raw).body ∈ [] :: SourceLine.segments raw := List.getLastD_mem_cons
  rcases List.mem_cons.mp last with empty | segment
  · simp [empty]
  · rw [← trim_eq_nil_iff, trim_of_mem_segments segment]

/-! ## Declarations and statements -/

/-- What is declared is a label on one of the lines. -/
theorem label_of_mem_declarations {declaration : Declaration} :
    ∀ {lines : List SourceLine} {line position : Nat},
      declaration ∈ declarations line position lines →
        ∃ source ∈ lines, ∃ label ∈ source.labels, declaration.name = String.ofList label
  | [], _, _, member => by simp at member
  | first :: rest, line, position, member => by
      rw [declarations, List.mem_append] at member
      rcases member with here | later
      · obtain ⟨label, read, rfl⟩ := List.mem_map.mp here
        exact ⟨first, .head _, label, read, rfl⟩
      · obtain ⟨source, known, label, read, named⟩ := label_of_mem_declarations later
        exact ⟨source, .tail first known, label, read, named⟩

/-- A declaration points at most one past the last statement. -/
theorem position_of_mem_declarations {declaration : Declaration} :
    ∀ {lines : List SourceLine} {line position : Nat},
      declaration ∈ declarations line position lines →
        position ≤ declaration.position ∧
          declaration.position ≤ position + (statements line lines).length
  | [], _, _, member => by simp at member
  | first :: rest, line, position, member => by
      rw [declarations, List.mem_append] at member
      rcases member with here | later
      · obtain ⟨label, _, rfl⟩ := List.mem_map.mp here
        simp
      · have bounds := position_of_mem_declarations later
        by_cases empty : first.body = []
        · simpa [statements, empty] using bounds
        · simp only [empty, if_false] at bounds
          simp only [statements, empty, if_false, List.length_cons]
          omega

/-- The number of statements before a line, which is given by its index. -/
def statementsBefore (lines : List SourceLine) (index : Nat) : Nat :=
  (lines.take index).countP fun source => source.body ≠ []

theorem statementsBefore_succ (first : SourceLine) (rest : List SourceLine) (index : Nat) :
    statementsBefore (first :: rest) (index + 1) =
      statementsBefore rest index + if first.body = [] then 0 else 1 := by
  simp only [statementsBefore, List.take_succ_cons, List.countP_cons]
  by_cases empty : first.body = [] <;> simp [empty]

/-- A label is declared for the position that follows the statements before its line. -/
theorem mem_declarations_iff {declaration : Declaration} :
    ∀ {lines : List SourceLine} {line position : Nat},
      declaration ∈ declarations line position lines ↔
        ∃ index source, lines[index]? = some source ∧ ∃ label ∈ source.labels,
          declaration = ⟨String.ofList label, position + statementsBefore lines index, line + index⟩
  | [], line, position => by simp
  | first :: rest, line, position => by
      rw [declarations, List.mem_append, List.mem_map, mem_declarations_iff]
      constructor
      · rintro (⟨label, read, rfl⟩ | ⟨index, source, found, label, read, rfl⟩)
        · exact ⟨0, first, rfl, label, read, rfl⟩
        · refine ⟨index + 1, source, by simpa using found, label, read, ?_⟩
          rw [statementsBefore_succ]
          split <;> simp <;> omega
      · rintro ⟨index, source, found, label, read, rfl⟩
        cases index with
        | zero =>
            cases found
            exact .inl ⟨label, read, rfl⟩
        | succ index =>
            refine .inr ⟨index, source, by simpa using found, label, read, ?_⟩
            rw [statementsBefore_succ]
            split <;> simp <;> omega

/-- Two lines have as many statements before them exactly when no line between them has one. -/
theorem statementsBefore_eq_iff {lines : List SourceLine} {first second : Nat}
    (ordered : first ≤ second) :
    statementsBefore lines first = statementsBefore lines second ↔
      ∀ index source, first ≤ index → index < second → lines[index]? = some source →
        source.body = [] := by
  obtain ⟨count, rfl⟩ := Nat.exists_eq_add_of_le ordered
  have split : statementsBefore lines (first + count) =
      statementsBefore lines first + statementsBefore (lines.drop first) count := by
    rw [statementsBefore, List.take_add, List.countP_append]
    rfl
  have none : statementsBefore (lines.drop first) count = 0 ↔
      ∀ source ∈ (lines.drop first).take count, source.body = [] := by
    simp [statementsBefore, List.countP_eq_zero]
  rw [split, Nat.left_eq_add, none]
  constructor
  · intro empty index source above below found
    apply empty source
    rw [List.mem_iff_getElem?]
    refine ⟨index - first, ?_⟩
    rw [List.getElem?_take_of_lt (by omega), List.getElem?_drop, Nat.add_sub_cancel' above, found]
  · intro empty source member
    obtain ⟨offset, found⟩ := List.mem_iff_getElem?.mp member
    rw [List.getElem?_take, List.getElem?_drop] at found
    split at found
    next below => exact empty (first + offset) source (by omega) (by omega) found
    next => cases found

/-- The labels are declared line by line, each once for every time that it is written. -/
theorem map_name_declarations :
    ∀ (lines : List SourceLine) (line position : Nat),
      (declarations line position lines).map Declaration.name =
        lines.flatMap fun source => source.labels.map String.ofList
  | [], _, _ => rfl
  | first :: rest, line, position => by
      rw [declarations, List.map_append, map_name_declarations rest, List.flatMap_cons, List.map_map]
      rfl

/-- The statements are the bodies that are not empty. -/
theorem map_text_statements :
    ∀ (lines : List SourceLine) (line : Nat),
      (statements line lines).map Statement.text =
        (lines.map SourceLine.body).filter fun body => body ≠ []
  | [], _ => rfl
  | first :: rest, line => by
      rw [statements]
      split
      next empty => simpa [empty] using map_text_statements rest (line + 1)
      next nonempty => simpa [nonempty] using map_text_statements rest (line + 1)

/-- If every line has a body, there are as many statements as lines. -/
theorem length_statements :
    ∀ {lines : List SourceLine} (line : Nat), (∀ source ∈ lines, source.body ≠ []) →
      (statements line lines).length = lines.length
  | [], _, _ => rfl
  | first :: rest, line, bodies => by
      rw [statements, if_neg (bodies first (.head _)), List.length_cons, List.length_cons,
        length_statements (line + 1) fun source member => bodies source (.tail first member)]

/-- Where every line has a body, the labels of a line are declared for its own position. -/
theorem attachedTo_declarations :
    ∀ (lines : List SourceLine) (line position : Nat), (∀ source ∈ lines, source.body ≠ []) →
      ∀ index, LabelTable.attachedTo ⟨declarations line position lines⟩ (position + index) =
        (lines[index]?.map fun source => source.labels.map String.ofList).getD []
  | [], _, _, _, index => rfl
  | first :: rest, line, position, bodies, index => by
      have restBodies : ∀ source ∈ rest, source.body ≠ [] := fun source member =>
        bodies source (.tail first member)
      simp only [LabelTable.attachedTo, declarations, if_neg (bodies first (.head _)),
        List.filter_append, List.map_append]
      cases index with
      | zero =>
          -- the later lines declare for later positions
          have later : (declarations (line + 1) (position + 1) rest).filter
              (fun entry => entry.position = position + 0) = [] := by
            rw [List.filter_eq_nil_iff]
            intro entry member
            have := (position_of_mem_declarations member).1
            simp only [decide_eq_true_eq]
            omega
          rw [later]
          simp [List.filter_map, Function.comp_def]
      | succ index =>
          have here : (first.labels.map fun label =>
              (⟨String.ofList label, position, line⟩ : Declaration)).filter
              (fun entry => entry.position = position + (index + 1)) = [] := by
            rw [List.filter_eq_nil_iff]
            intro entry member
            obtain ⟨label, _, rfl⟩ := List.mem_map.mp member
            simp
          have later := attachedTo_declarations rest (line + 1) (position + 1) restBodies index
          rw [here]
          simpa [LabelTable.attachedTo, Nat.add_assoc, Nat.add_comm 1 index] using later

/-! ## Laying out a line -/

/-- Whether a text can stand between the marks of a line: it is not empty and holds neither a
blank nor a colon nor a semicolon. -/
structure Solid (text : List Char) : Prop where
  nonempty : text ≠ []
  plain : ∀ c ∈ text, isBlank c = false ∧ c ≠ ':' ∧ c ≠ ';'

theorem Solid.ofAll {text : List Char} (nonempty : text ≠ [])
    (plain : text.all (fun c => !isBlank c && c != ':' && c != ';') = true) : Solid text := by
  refine ⟨nonempty, fun c member => ?_⟩
  simpa [and_assoc] using List.all_eq_true.mp plain c member

/-- A first word with more words behind it, divided by spaces. -/
def bodyText (word : List Char) (tokens : List (List Char)) : List Char :=
  word ++ tokens.flatMap (' ' :: ·)

theorem bodyText_nil (word : List Char) : bodyText word [] = word := by
  simp [bodyText]

theorem bodyText_cons (word token : List Char) (tokens : List (List Char)) :
    bodyText word (token :: tokens) = word ++ ' ' :: bodyText token tokens := by
  simp [bodyText]

/-- A line with labels, each with a colon and a space behind it, and a body. -/
def layout (labels : List (List Char)) (word : List Char) (tokens : List (List Char)) :
    List Char :=
  labels.flatMap (· ++ [':', ' ']) ++ bodyText word tokens

@[simp] theorem layout_nil (word : List Char) (tokens : List (List Char)) :
    layout [] word tokens = bodyText word tokens := rfl

@[simp] theorem layout_cons (label : List Char) (labels : List (List Char)) (word : List Char)
    (tokens : List (List Char)) :
    layout (label :: labels) word tokens = label ++ ':' :: ' ' :: layout labels word tokens := by
  simp [layout]

section

variable {labels tokens : List (List Char)} {word : List Char}

theorem blank_space : isBlank ' ' = true := by decide

/-- The words of a body are those that it was put together from. -/
theorem words_bodyText (solidWord : Solid word) (solidTokens : ∀ token ∈ tokens, Solid token) :
    words (bodyText word tokens) = word :: tokens := by
  induction tokens generalizing word with
  | nil =>
      rw [bodyText_nil]
      exact words_of_no_blank solidWord.nonempty fun c member => (solidWord.plain c member).1
  | cons token tokens induction =>
      have later : words (bodyText token tokens) = token :: tokens :=
        induction (solidTokens token (.head _)) fun other member =>
          solidTokens other (.tail token member)
      rw [bodyText_cons, words_append_blank blank_space, later,
        words_of_no_blank solidWord.nonempty fun c member => (solidWord.plain c member).1]
      rfl

theorem mem_bodyText (solidWord : Solid word) (solidTokens : ∀ token ∈ tokens, Solid token)
    {c : Char} (member : c ∈ bodyText word tokens) :
    c = ' ' ∨ (isBlank c = false ∧ c ≠ ':' ∧ c ≠ ';') := by
  rcases List.mem_append.mp member with inWord | inTokens
  · exact .inr (solidWord.plain c inWord)
  · obtain ⟨token, known, inside⟩ := List.mem_flatMap.mp inTokens
    rcases List.mem_cons.mp inside with space | inToken
    · exact .inl space
    · exact .inr ((solidTokens token known).plain c inToken)

/-- A line holds solid words, spaces and colons. -/
theorem mem_layout (solidLabels : ∀ label ∈ labels, Solid label) (solidWord : Solid word)
    (solidTokens : ∀ token ∈ tokens, Solid token) {c : Char}
    (member : c ∈ layout labels word tokens) :
    c = ' ' ∨ c = ':' ∨ (isBlank c = false ∧ c ≠ ';') := by
  rcases List.mem_append.mp member with inLabels | inBody
  · obtain ⟨label, known, inside⟩ := List.mem_flatMap.mp inLabels
    rcases List.mem_append.mp inside with inLabel | mark
    · obtain ⟨solid, _, notComment⟩ := (solidLabels label known).plain c inLabel
      exact .inr (.inr ⟨solid, notComment⟩)
    · simp only [List.mem_cons, List.not_mem_nil, or_false] at mark
      rcases mark with colon | space
      · exact .inr (.inl colon)
      · exact .inl space
  · rcases mem_bodyText solidWord solidTokens inBody with space | ⟨solid, _, notComment⟩
    · exact .inl space
    · exact .inr (.inr ⟨solid, notComment⟩)

/-! ### Trimming -/

theorem getLast?_bodyText (solidWord : Solid word) (solidTokens : ∀ token ∈ tokens, Solid token)
    {c : Char} (last : c ∈ (bodyText word tokens).getLast?) : isBlank c = false := by
  induction tokens generalizing word with
  | nil =>
      rw [bodyText_nil] at last
      exact (solidWord.plain c (List.mem_of_getLast? last)).1
  | cons token tokens induction =>
      have nonempty : bodyText token tokens ≠ [] := by
        simp [bodyText, (solidTokens token (.head _)).nonempty]
      obtain ⟨first, others, same⟩ := List.exists_cons_of_ne_nil nonempty
      rw [bodyText_cons, same, List.getLast?_append_cons, List.getLast?_cons_cons, ← same] at last
      exact induction (solidTokens token (.head _))
        (fun other member => solidTokens other (.tail token member)) last

theorem head?_layout (solidLabels : ∀ label ∈ labels, Solid label) (solidWord : Solid word)
    {c : Char} (head : c ∈ (layout labels word tokens).head?) : isBlank c = false := by
  cases labels with
  | nil =>
      obtain ⟨first, rest, same⟩ := List.exists_cons_of_ne_nil solidWord.nonempty
      rw [layout_nil, bodyText, same, List.cons_append, List.head?_cons, Option.mem_some_iff] at head
      exact (solidWord.plain c (by simp [same, head])).1
  | cons label labels =>
      have solid := solidLabels label (.head _)
      obtain ⟨first, rest, same⟩ := List.exists_cons_of_ne_nil solid.nonempty
      rw [layout_cons, same, List.cons_append, List.head?_cons, Option.mem_some_iff] at head
      exact (solid.plain c (by simp [same, head])).1

/-- A line has no blanks at its ends. -/
theorem trim_layout (solidLabels : ∀ label ∈ labels, Solid label) (solidWord : Solid word)
    (solidTokens : ∀ token ∈ tokens, Solid token) :
    trim (layout labels word tokens) = layout labels word tokens := by
  apply trim_eq_self
  · intro c head
    exact head?_layout solidLabels solidWord head
  · intro c last
    have nonempty : bodyText word tokens ≠ [] := by simp [bodyText, solidWord.nonempty]
    rw [layout, List.getLast?_append_of_ne_nil _ nonempty] at last
    exact getLast?_bodyText solidWord solidTokens last

/-! ### Reading -/

/-- Between its colons a line holds the labels and the body. -/
theorem map_trim_splitOn_layout (solidLabels : ∀ label ∈ labels, Solid label)
    (solidWord : Solid word) (solidTokens : ∀ token ∈ tokens, Solid token) :
    ((layout labels word tokens).splitOn ':').map trim = labels ++ [bodyText word tokens] := by
  induction labels with
  | nil =>
      have noColon : ':' ∉ bodyText word tokens := by
        intro member
        rcases mem_bodyText solidWord solidTokens member with space | ⟨_, notColon, _⟩
        · exact absurd space (by decide)
        · exact notColon rfl
      rw [layout_nil, List.splitOn_eq_singleton noColon, List.map_singleton, ← layout_nil,
        trim_layout solidLabels solidWord solidTokens]
      rfl
  | cons label labels induction =>
      have solid := solidLabels label (.head _)
      have noColon : ':' ∉ label := fun member => (solid.plain ':' member).2.1 rfl
      rw [layout_cons, List.splitOn_append_cons_self_of_not_mem noColon, List.map_cons,
        trim_of_no_blank fun c member => (solid.plain c member).1,
        map_trim_splitOn_cons blank_space (by decide),
        induction fun other member => solidLabels other (.tail label member)]
      rfl

/-- Whether a text is solid before and after lowercasing, and no capital sigma makes its
lowercase form depend on what stands around it. -/
structure Writable (text : List Char) : Prop where
  solid : Solid text
  lowered : Solid (lowercase text)
  sigma : 'Σ' ∉ text

/-- A solid text of small characters is its own lowercase form, so it is writable. -/
theorem Solid.writable {text : List Char} (solid : Solid text)
    (small : ∀ c ∈ text, isSmall c = true) : Writable text :=
  ⟨solid, by rwa [lowercase_of_small small], sigma_not_mem small⟩

/-- A body of writable words is lowercased word by word. -/
theorem lowercase_bodyText (writableWord : Writable word)
    (writableTokens : ∀ token ∈ tokens, Writable token) :
    lowercase (bodyText word tokens) = bodyText (lowercase word) (tokens.map lowercase) ∧
      'Σ' ∉ bodyText word tokens := by
  induction tokens generalizing word with
  | nil => simpa [bodyText_nil] using writableWord.sigma
  | cons token tokens induction =>
      obtain ⟨lowered, sigma⟩ := induction (writableTokens token (.head _))
        fun other member => writableTokens other (.tail token member)
      have sigmaSpace : 'Σ' ∉ ' ' :: bodyText token tokens := by simpa using sigma
      rw [bodyText_cons, List.map_cons, bodyText_cons, ← lowered,
        lowercase_append writableWord.sigma sigmaSpace,
        lowercase_cons (by decide) sigma]
      refine ⟨rfl, ?_⟩
      rw [List.mem_append, not_or]
      exact ⟨writableWord.sigma, sigmaSpace⟩

/-- A line of writable parts is lowercased part by part. -/
theorem lowercase_layout (writableLabels : ∀ label ∈ labels, Writable label)
    (writableWord : Writable word) (writableTokens : ∀ token ∈ tokens, Writable token) :
    lowercase (layout labels word tokens) =
        layout (labels.map lowercase) (lowercase word) (tokens.map lowercase) ∧
      'Σ' ∉ layout labels word tokens := by
  induction labels with
  | nil => exact lowercase_bodyText writableWord writableTokens
  | cons label labels induction =>
      obtain ⟨lowered, sigma⟩ := induction fun other member =>
        writableLabels other (.tail label member)
      have labelSigma := (writableLabels label (.head _)).sigma
      have marksSigma : 'Σ' ∉ ':' :: ' ' :: layout labels word tokens := by simpa using sigma
      rw [layout_cons, List.map_cons, layout_cons, ← lowered, lowercase_append labelSigma marksSigma,
        lowercase_cons (by decide) (by simpa using sigma), lowercase_cons (by decide) sigma]
      refine ⟨rfl, ?_⟩
      rw [List.mem_append, not_or]
      exact ⟨labelSigma, marksSigma⟩

/-- Reading a line gives back the parts that it was laid out from, in lowercase. -/
theorem read_layout (writableLabels : ∀ label ∈ labels, Writable label)
    (writableWord : Writable word) (writableTokens : ∀ token ∈ tokens, Writable token) :
    SourceLine.read (layout labels word tokens) =
      ⟨labels.map lowercase, bodyText (lowercase word) (tokens.map lowercase)⟩ := by
  have solidLabels : ∀ label ∈ labels.map lowercase, Solid label := by
    intro lowered member
    obtain ⟨label, known, rfl⟩ := List.mem_map.mp member
    exact (writableLabels label known).lowered
  have solidTokens : ∀ token ∈ tokens.map lowercase, Solid token := by
    intro lowered member
    obtain ⟨token, known, rfl⟩ := List.mem_map.mp member
    exact (writableTokens token known).lowered
  have uncommented : (layout (labels.map lowercase) (lowercase word) (tokens.map lowercase)).takeWhile
      (· ≠ ';') = layout (labels.map lowercase) (lowercase word) (tokens.map lowercase) := by
    rw [List.takeWhile_eq_self_iff]
    intro c member
    rcases mem_layout solidLabels writableWord.lowered solidTokens member with
      rfl | rfl | ⟨_, notComment⟩
    · decide
    · decide
    · simpa using notComment
  have segments : SourceLine.segments (layout labels word tokens) =
      labels.map lowercase ++ [bodyText (lowercase word) (tokens.map lowercase)] := by
    rw [SourceLine.segments, SourceLine.significant,
      trim_layout (fun label known => (writableLabels label known).solid) writableWord.solid
        (fun token known => (writableTokens token known).solid),
      (lowercase_layout writableLabels writableWord writableTokens).1, uncommented,
      trim_layout solidLabels writableWord.lowered solidTokens,
      map_trim_splitOn_layout solidLabels writableWord.lowered solidTokens]
  have kept : (labels.map lowercase).filter (fun label => !label.isEmpty) = labels.map lowercase := by
    rw [List.filter_eq_self]
    intro label known
    simpa using (solidLabels label known).nonempty
  rw [SourceLine.read, segments, List.dropLast_concat, kept]
  simp

end

end Ram.Assembly
