import Ram.Proofs.Assembly.Items
import Mathlib.Logic.Relation

/-!
# Layout, case and comments

A source may be laid out in many ways without a change to its program.  An `Edit` of its lines
changes the case of letters, adds a comment, widens a gap, adds words behind the last argument of an
instruction, inserts a line without code or breaks a line behind a colon.

An edit keeps the items of the source (`Edit.items`), which are all that its program depends on.
The items of a line come from its `outline`, the words between its colons in lowercase.  The source
must not hold a capital sigma outside its comments: its small letter depends on what follows, also
behind a colon, and a gap there would change a label.
-/

namespace Ram.Assembly

open Text

/-! ## Words between colons -/

/-- The words of a text between its colons. -/
def pieces (text : List Char) : List (List (List Char)) := (text.splitOn ':').map words

/-- Two lists of pieces in a row, where the last piece of the one and the first piece of the other
are one piece. -/
def glue (first second : List (List (List Char))) : List (List (List Char)) :=
  first.dropLast ++ (first.getLastD [] ++ second.headD []) :: second.tail

theorem pieces_ne_nil (text : List Char) : pieces text ≠ [] := by
  simp [pieces, List.splitOn_ne_nil]

theorem glue_nil_right {first : List (List (List Char))} (nonempty : first ≠ []) :
    glue first [[]] = first := by
  rw [glue, List.headD_cons, List.append_nil, List.tail_cons, List.getLastD_eq_getLast?,
    List.getLast?_eq_some_getLast nonempty, Option.getD_some, List.dropLast_concat_getLast]

theorem glue_nil_left {second : List (List (List Char))} (nonempty : second ≠ []) :
    glue [[]] second = second := by
  obtain ⟨head, rest, rfl⟩ := List.exists_cons_of_ne_nil nonempty
  rfl

theorem getLastD_pieces (text : List Char) :
    (pieces text).getLastD [] = words ((text.splitOn ':').getLastD []) :=
  List.getLastD_map (f := words) (a := [])

theorem headD_pieces (text : List Char) :
    (pieces text).headD [] = words ((text.splitOn ':').headD []) := by
  obtain ⟨head, rest, split⟩ := List.exists_cons_of_ne_nil (List.splitOn_ne_nil ':' text)
  rw [pieces, split]
  rfl

/-- Where two texts meet at a mark, the pieces that are joined there meet at a blank. -/
theorem meetAt_pieces {first second : List Char} (meet : MeetAt isMark first second)
    (absent : ';' ∉ first) (alsoAbsent : ';' ∉ second) :
    MeetAt isBlank ((first.splitOn ':').getLastD []) ((second.splitOn ':').headD []) := by
  have blank {c : Char} {text piece : List Char} (known : piece ∈ [] :: text.splitOn ':')
      (member : c ∈ piece) (plain : ';' ∉ text) (mark : isMark c = true) : isBlank c = true := by
    rcases List.mem_cons.mp known with rfl | known
    · cases member
    · obtain ⟨inside, notColon⟩ := mem_of_mem_splitOn known c member
      simpa [isMark, notColon, ne_of_mem_of_not_mem inside plain] using mark
  have headMember : (second.splitOn ':').headD [] ∈ [] :: second.splitOn ':' := by
    cases second.splitOn ':' <;> simp
  intro c last d front
  rcases meet c (getLast?_of_lastPiece last) d (head?_of_firstPiece front) with mark | mark
  · exact .inl (blank List.getLastD_mem_cons (List.mem_of_getLast? last) absent mark)
  · exact .inr (blank headMember (List.mem_of_head? front) alsoAbsent mark)

/-- The pieces of two texts that meet at a mark. -/
theorem pieces_append {first second : List Char} (meet : MeetAt isMark first second)
    (absent : ';' ∉ first) (alsoAbsent : ';' ∉ second) :
    pieces (first ++ second) = glue (pieces first) (pieces second) := by
  rw [pieces, splitOn_append, List.map_append, List.map_cons,
    words_append (meetAt_pieces meet absent alsoAbsent), glue, getLastD_pieces, headD_pieces,
    pieces, pieces, List.map_dropLast, List.map_tail]

/-- Blanks make one piece without words. -/
theorem pieces_gap {gap : List Char} (blank : IsGap gap) : pieces gap = [[]] := by
  have absent : ':' ∉ gap := fun member => ne_colon_of_isBlank (blank _ member) rfl
  rw [pieces, List.splitOn_eq_singleton absent, List.map_singleton, blank.words]

theorem pieces_append_gap {gap text : List Char} (blank : IsGap gap) (absent : ';' ∉ text) :
    pieces (text ++ gap) = pieces text := by
  have meet : MeetAt isMark text gap := fun _ _ d first =>
    .inr (isMark_of_isBlank (blank d (List.mem_of_head? first)))
  rw [pieces_append meet absent (semicolon_not_mem_of_isGap blank), pieces_gap blank,
    glue_nil_right (pieces_ne_nil text)]

theorem pieces_gap_append {gap text : List Char} (blank : IsGap gap) (absent : ';' ∉ text) :
    pieces (gap ++ text) = pieces text := by
  have meet : MeetAt isMark gap text := fun c last _ _ =>
    .inl (isMark_of_isBlank (blank c (List.mem_of_getLast? last)))
  rw [pieces_append meet (semicolon_not_mem_of_isGap blank) absent, pieces_gap blank,
    glue_nil_left (pieces_ne_nil text)]

/-- A gap between two texts that meet at a mark changes nothing. -/
theorem pieces_insert_gap {before gap after : List Char} (blank : IsGap gap)
    (meet : MeetAt isMark before after) (absent : ';' ∉ before) (alsoAbsent : ';' ∉ after) :
    pieces (before ++ gap ++ after) = pieces (before ++ after) := by
  have nowhere : ';' ∉ gap ++ after := by
    rw [List.mem_append, not_or]
    exact ⟨semicolon_not_mem_of_isGap blank, alsoAbsent⟩
  have behind : MeetAt isMark before (gap ++ after) := by
    cases gap with
    | nil => exact meet
    | cons b rest =>
        rintro c last d front
        cases front
        exact .inr (isMark_of_isBlank (blank b (.head _)))
  rw [List.append_assoc, pieces_append behind absent nowhere, pieces_gap_append blank alsoAbsent,
    pieces_append meet absent alsoAbsent]

/-- The pieces of a text do not depend on the blanks at its ends. -/
theorem pieces_trim {text : List Char} (absent : ';' ∉ text) :
    pieces (trim text) = pieces text := by
  obtain ⟨front, back, frontBlank, backBlank, same⟩ := exists_gaps text
  have inside : ';' ∉ trim text := fun member => absent (mem_of_mem_trim member)
  have before : ';' ∉ front ++ trim text := by
    rw [List.mem_append, not_or]
    exact ⟨semicolon_not_mem_of_isGap frontBlank, inside⟩
  conv_rhs => rw [same, pieces_append_gap backBlank before, pieces_gap_append frontBlank inside]

/-- A colon divides two pieces. -/
theorem pieces_append_colon (first second : List Char) :
    pieces (first ++ ':' :: second) = pieces first ++ pieces second := by
  rw [pieces, List.splitOn_append_cons_self, List.map_append]
  rfl

/-- Without a sigma, a text is lowercased character by character, and so are its pieces. -/
theorem pieces_lowercase {text : List Char} (plain : 'Σ' ∉ text) :
    pieces (lowercase text) = (pieces text).map (List.map (List.flatMap lowerChar)) := by
  rw [lowercase_eq_flatMap plain, pieces, pieces, List.splitOn_eq_splitOnP,
    splitOnP_flatMap_lowerChar (by simp [isMark]), List.map_map, List.map_map,
    List.splitOn_eq_splitOnP]
  apply List.map_congr_left
  intro piece _
  exact words_flatMap_lowerChar piece

/-! ## The items of a line -/

/-- The words between the colons of a line, in lowercase. -/
def outline (raw : List Char) : List (List (List Char)) := pieces (lowercase (code raw))

/-- The items of a line with the given pieces. -/
def itemsOf (pieces : List (List (List Char))) : List Item :=
  (pieces.dropLast.filter (· ≠ [])).map Item.label
    ++ if pieces.getLastD [] = [] then [] else [.statement (gist (pieces.getLastD []))]

/-- The words of the segments of a line are its outline. -/
theorem map_words_segments (raw : List Char) :
    (SourceLine.segments raw).map words = outline raw := by
  rw [SourceLine.segments, significant_eq, List.map_map, outline,
    ← pieces_trim (mt (mem_of_mem_lowercase (by decide)) (semicolon_not_mem_code raw)), pieces]
  apply List.map_congr_left
  intro piece _
  exact words_trim piece

/-- What is read from a line depends on its outline. -/
theorem items_read (raw : List Char) : (SourceLine.read raw).items = itemsOf (outline raw) := by
  have labels : (SourceLine.segments raw).dropLast.filter (fun label => !label.isEmpty) =
      (SourceLine.segments raw).dropLast.filter fun label => words label ≠ [] := by
    apply List.filter_congr
    intro segment member
    have same : segment = [] ↔ words segment = [] := by
      rw [← trim_eq_nil_iff, trim_of_mem_segments (List.dropLast_subset _ member)]
    cases segment with
    | nil => rfl
    | cons c rest => simpa using same
  have body : (SourceLine.segments raw).getLastD [] = [] ↔
      words ((SourceLine.segments raw).getLastD []) = [] := body_eq_nil_iff
  have last : (outline raw).getLastD [] = words ((SourceLine.segments raw).getLastD []) := by
    rw [← map_words_segments]
    exact List.getLastD_map (f := words) (a := [])
  rw [SourceLine.items, SourceLine.read, itemsOf, last, labels, ← map_words_segments,
    ← List.map_dropLast, List.filter_map, List.map_map]
  simp only [body]
  rfl

/-! ## Edits -/

/-- Whether the instruction at the end of a text has all its arguments. -/
def Complete (text : List Char) : Prop :=
  ';' ∉ text ∧ ∃ kind,
    Mnemonic.ofName? (lowercase ((words ((text.splitOn ':').getLastD [])).headD [])) = some kind ∧
      kind.arity < (words ((text.splitOn ':').getLastD [])).length

/-- A change within a line. -/
inductive LineEdit : List Char → List Char → Prop
  /-- Letters of ASCII change their case. -/
  | recase {raw edited : List Char} (same : edited.map Char.toLower = raw.map Char.toLower) :
      LineEdit raw edited
  /-- A comment is added at the end. -/
  | comment (raw text : List Char) : LineEdit raw (raw ++ ';' :: text)
  /-- A gap is made or widened beside a blank, a colon or a semicolon, or at an end of the line. -/
  | space {before gap after : List Char} (blank : IsGap gap) (apart : MeetAt isMark before after) :
      LineEdit (before ++ after) (before ++ gap ++ after)
  /-- Words are added behind the last argument of an instruction. -/
  | extend {before more after : List Char} (complete : Complete before) (last : ':' ∉ code after)
      (apart : MeetAt isMark before after) (starts : MeetAt isBlank before more)
      (noColon : ':' ∉ more) (noComment : ';' ∉ more) (noSigma : 'Σ' ∉ more) :
      LineEdit (before ++ after) (before ++ more ++ after)

/-- A change to the lines of a source. -/
inductive Edit : List (List Char) → List (List Char) → Prop
  /-- One of the lines is changed. -/
  | within {raw edited : List Char} (above below : List (List Char)) (edit : LineEdit raw edited) :
      Edit (above ++ raw :: below) (above ++ edited :: below)
  /-- A line that is blank, or holds only a comment, is inserted. -/
  | insert {idle : List Char} (above below : List (List Char)) (blank : IsGap (code idle)) :
      Edit (above ++ below) (above ++ idle :: below)
  /-- A line is broken behind the colon of a label. -/
  | split {before : List Char} (above below : List (List Char)) (after : List Char)
      (absent : ';' ∉ before) :
      Edit (above ++ (before ++ ':' :: after) :: below)
        (above ++ (before ++ [':']) :: after :: below)

/-! ### Changes of case -/

theorem lowerChar_toLower (c : Char) : lowerChar c.toLower = lowerChar c := by
  by_cases ascii : c.toNat < 0x80
  · rw [isSmall_iff.mp (isSmall_toLower ascii), lowerChar, if_pos ascii]
  · rw [(Numeral.case_of_not_ascii (by omega)).1]

theorem toLower_eq_semicolon_iff {c : Char} : c.toLower = ';' ↔ c = ';' := by
  constructor
  · intro lowered
    by_cases ascii : c.toNat < 0x80
    · obtain ⟨alike, kept⟩ := toLower_of_ascii ascii
      rw [← kept (by rw [← alike, lowered]; decide), lowered]
    · rwa [(Numeral.case_of_not_ascii (by omega)).1] at lowered
  · rintro rfl
    rfl

theorem toLower_eq_sigma {c : Char} (lowered : c.toLower = 'Σ') : c = 'Σ' := by
  by_cases ascii : c.toNat < 0x80
  · have small := isSmall_toLower ascii
    rw [lowered] at small
    have absent : 'Σ' ∉ ['Σ'] := sigma_not_mem (by simpa using small)
    exact absurd (List.mem_singleton.mpr rfl) absent
  · rwa [(Numeral.case_of_not_ascii (by omega)).1] at lowered

/-- Lowering the letters of ASCII does not move the comment. -/
theorem code_map_toLower (raw : List Char) :
    code (raw.map Char.toLower) = (code raw).map Char.toLower := by
  rw [code, List.takeWhile_map, code]
  congr 2
  funext c
  simp [toLower_eq_semicolon_iff]

theorem sigma_mem_map_toLower {text : List Char} :
    'Σ' ∈ text.map Char.toLower ↔ 'Σ' ∈ text := by
  constructor
  · intro member
    obtain ⟨c, known, lowered⟩ := List.mem_map.mp member
    exact toLower_eq_sigma lowered ▸ known
  · exact fun member => List.mem_map.mpr ⟨'Σ', member, by decide⟩

/-- Only a capital sigma is lowercased by more than its own case. -/
theorem lowercase_map_toLower {text : List Char} (plain : 'Σ' ∉ text) :
    lowercase (text.map Char.toLower) = lowercase text := by
  rw [lowercase_eq_flatMap plain, lowercase_eq_flatMap (mt sigma_mem_map_toLower.mp plain),
    List.flatMap_map]
  simp only [lowerChar_toLower]

/-! ### Changes within a line -/

theorem head?_code {raw : List Char} {c : Char} (first : c ∈ (code raw).head?) : c ∈ raw.head? := by
  cases raw with
  | nil => cases first
  | cons d rest =>
      rw [code, List.takeWhile_cons] at first
      split at first
      · exact first
      · cases first

theorem meetAt_code {first second : List Char} (meet : MeetAt isMark first second) :
    MeetAt isMark first (code second) := fun c last d front => meet c last d (head?_code front)

/-- All pieces but the last are labels, and the last one is the body. -/
theorem itemsOf_concat (init : List (List (List Char))) (last : List (List Char)) :
    itemsOf (init ++ [last]) = (init.filter (· ≠ [])).map Item.label
      ++ if last = [] then [] else [.statement (gist last)] := by
  rw [itemsOf, List.dropLast_concat, List.getLastD_concat]

/-- The items of a line are the labels in front, and then the items of the rest. -/
theorem itemsOf_append (init : List (List (List Char))) {rest : List (List (List Char))}
    (nonempty : rest ≠ []) : itemsOf (init ++ rest) = itemsOf (init ++ [[]]) ++ itemsOf rest := by
  rcases List.eq_nil_or_concat' rest with empty | ⟨body, last, rfl⟩
  · exact absurd empty nonempty
  · rw [← List.append_assoc, itemsOf_concat, itemsOf_concat, itemsOf_concat, if_pos rfl,
      List.append_nil, List.filter_append, List.map_append, List.append_assoc]

theorem glue_singleton (first : List (List (List Char))) (last : List (List Char)) :
    glue first [last] = first.dropLast ++ [first.getLastD [] ++ last] := rfl

/-- Words behind the last argument of an instruction change nothing. -/
theorem itemsOf_of_complete {init : List (List (List Char))} {complete : List (List Char)}
    {kind : Mnemonic} (known : Mnemonic.ofName? (complete.headD []) = some kind)
    (enough : kind.arity < complete.length) (more : List (List Char)) :
    itemsOf (init ++ [complete ++ more]) = itemsOf (init ++ [complete]) := by
  have nonempty : complete ≠ [] := List.ne_nil_of_length_pos (by omega)
  rw [itemsOf_concat, itemsOf_concat, gist_append known enough, if_neg nonempty,
    if_neg (List.append_ne_nil_of_left_ne_nil nonempty more)]

/-- A line with all its arguments has them in lowercase, too. -/
theorem Complete.lowercase {text : List Char} (complete : Complete text) (plain : 'Σ' ∉ text) :
    ∃ kind, Mnemonic.ofName? ((((pieces text).getLastD []).map
        (List.flatMap lowerChar)).headD []) = some kind ∧
      kind.arity < (((pieces text).getLastD []).map (List.flatMap lowerChar)).length := by
  obtain ⟨_, kind, known, enough⟩ := complete
  rw [← getLastD_pieces] at known enough
  refine ⟨kind, ?_, by rwa [List.length_map]⟩
  obtain ⟨word, rest, split⟩ := List.exists_cons_of_length_pos (Nat.zero_lt_of_lt enough)
  have inside : 'Σ' ∉ word := by
    intro member
    have word : word ∈ words ((text.splitOn ':').getLastD []) := by
      rw [← getLastD_pieces, split]
      exact .head _
    have known : (text.splitOn ':').getLastD [] ∈ [] :: text.splitOn ':' := List.getLastD_mem_cons
    have there := mem_of_mem_words word _ member
    rcases List.mem_cons.mp known with empty | piece
    · rw [empty] at there
      cases there
    · exact plain (mem_of_mem_splitOn piece _ there).1
  rw [split] at known ⊢
  rwa [List.headD_cons, lowercase_eq_flatMap inside] at known

/-- What follows a complete instruction changes nothing. -/
theorem Complete.items {text rest : List Char} (complete : Complete text)
    (plain : 'Σ' ∉ text ++ rest) (last : ':' ∉ rest) (absent : ';' ∉ rest)
    (apart : MeetAt isMark text rest) :
    itemsOf (pieces (Text.lowercase (text ++ rest))) = itemsOf (pieces (Text.lowercase text)) := by
  have textPlain : 'Σ' ∉ text := fun member => plain (List.mem_append_left rest member)
  obtain ⟨kind, known, enough⟩ := complete.lowercase textPlain
  have alone : pieces text = (pieces text).dropLast ++ [(pieces text).getLastD []] := by
    conv_lhs => rw [← glue_nil_right (pieces_ne_nil text), glue_singleton, List.append_nil]
  have single : pieces rest = [words rest] := by
    rw [pieces, List.splitOn_eq_singleton last, List.map_singleton]
  rw [pieces_lowercase plain, pieces_lowercase textPlain, pieces_append apart complete.1 absent,
    single, glue_singleton, List.map_append, List.map_singleton, List.map_append,
    itemsOf_of_complete known enough]
  conv_rhs => rw [alone, List.map_append, List.map_singleton]

/-- What is inserted into a line goes into its code or into its comment. -/
theorem code_insert {more : List Char} (absent : ';' ∉ more) (before after : List Char) :
    code (before ++ more ++ after) = code (before ++ after) ∨
      ';' ∉ before ∧ code (before ++ after) = before ++ code after ∧
        code (before ++ more ++ after) = before ++ more ++ code after := by
  rw [List.append_assoc]
  by_cases comment : ';' ∈ before
  · exact .inl (by rw [code_append_of_mem comment, code_append_of_mem comment])
  · refine .inr ⟨comment, code_append_of_not_mem comment after, ?_⟩
    rw [code_append_of_not_mem comment, code_append_of_not_mem absent, List.append_assoc]

theorem sigma_not_mem_insert {before more after : List Char} (absent : ';' ∉ more)
    (noSigma : 'Σ' ∉ more) (plain : 'Σ' ∉ code (before ++ after)) :
    'Σ' ∉ code (before ++ more ++ after) := by
  rcases code_insert absent before after with same | ⟨_, split, longer⟩
  · rwa [same]
  · rw [split, List.mem_append, not_or] at plain
    rw [longer, List.mem_append, List.mem_append, not_or, not_or]
    exact ⟨⟨plain.1, noSigma⟩, plain.2⟩

namespace LineEdit

variable {raw edited : List Char}

/-- An edit of a line does not bring in a sigma. -/
theorem plain (edit : LineEdit raw edited) (plain : 'Σ' ∉ code raw) : 'Σ' ∉ code edited := by
  cases edit with
  | recase same =>
      rw [← sigma_mem_map_toLower, ← code_map_toLower] at plain ⊢
      rwa [same]
  | comment raw text => rwa [code_append_comment]
  | space blank apart =>
      exact sigma_not_mem_insert (semicolon_not_mem_of_isGap blank)
        (fun member => absurd (blank _ member) (by decide)) plain
  | extend complete last apart starts noColon noComment noSigma =>
      exact sigma_not_mem_insert noComment noSigma plain

/-- A change within a line keeps its items. -/
theorem items (edit : LineEdit raw edited) (plain : 'Σ' ∉ code raw) :
    itemsOf (outline edited) = itemsOf (outline raw) := by
  have alsoPlain := edit.plain plain
  cases edit with
  | recase same =>
      rw [outline, outline, ← lowercase_map_toLower plain, ← lowercase_map_toLower alsoPlain,
        ← code_map_toLower, ← code_map_toLower, same]
  | comment raw text => rw [outline, code_append_comment, outline]
  | @space before gap after blank apart =>
      rcases code_insert (semicolon_not_mem_of_isGap blank) before after with
        same | ⟨noComment, split, longer⟩
      · rw [outline, same, outline]
      · rw [outline, outline, pieces_lowercase plain, pieces_lowercase alsoPlain, split, longer,
          pieces_insert_gap blank (meetAt_code apart) noComment (semicolon_not_mem_code after)]
  | @extend before more after complete last apart starts noColon noComment noSigma =>
      have split := code_append_of_not_mem complete.1 after
      have longer : code (before ++ more ++ after) = before ++ (more ++ code after) := by
        rw [List.append_assoc, code_append_of_not_mem complete.1, code_append_of_not_mem noComment]
      have behind : MeetAt isMark before (more ++ code after) := by
        cases more with
        | nil => exact meetAt_code apart
        | cons d rest =>
            intro c back e front
            exact (starts c back e front).imp isMark_of_isBlank isMark_of_isBlank
      have alsoNoColon : ':' ∉ more ++ code after := by
        rw [List.mem_append, not_or]
        exact ⟨noColon, last⟩
      have alsoNoComment : ';' ∉ more ++ code after := by
        rw [List.mem_append, not_or]
        exact ⟨noComment, semicolon_not_mem_code after⟩
      rw [split] at plain
      rw [longer] at alsoPlain
      rw [outline, outline, split, longer, complete.items alsoPlain alsoNoColon alsoNoComment behind,
        complete.items plain last (semicolon_not_mem_code after) (meetAt_code apart)]

end LineEdit

/-! ## Edited sources -/

/-- The items of some lines. -/
def itemsOfLines (lines : List (List Char)) : List Item :=
  lines.flatMap fun raw => itemsOf (outline raw)

theorem itemsOfLines_append (above below : List (List Char)) :
    itemsOfLines (above ++ below) = itemsOfLines above ++ itemsOfLines below :=
  List.flatMap_append

theorem itemsOfLines_cons (raw : List Char) (below : List (List Char)) :
    itemsOfLines (raw :: below) = itemsOf (outline raw) ++ itemsOfLines below :=
  List.flatMap_cons

theorem itemsOf_idle {idle : List Char} (blank : IsGap (code idle)) :
    itemsOf (outline idle) = [] := by
  have kept : lowercase (code idle) = code idle :=
    lowercase_of_small fun c member => isSmall_of_isMark (isMark_of_isBlank (blank c member))
  rw [outline, kept, pieces_gap blank]
  rfl

/-- A line that is broken after a colon has the same items. -/
theorem itemsOf_split {before after : List Char} (absent : ';' ∉ before)
    (plain : 'Σ' ∉ code (before ++ ':' :: after)) :
    itemsOf (outline (before ++ ':' :: after)) =
      itemsOf (outline (before ++ [':'])) ++ itemsOf (outline after) := by
  have coded : code (before ++ ':' :: after) = before ++ ':' :: code after := by
    rw [code_append_of_not_mem absent]
    rfl
  have head : code (before ++ [':']) = before ++ [':'] := by
    rw [code_append_of_not_mem absent]
    rfl
  rw [coded] at plain
  have beforePlain : 'Σ' ∉ before := fun member => plain (List.mem_append_left _ member)
  have afterPlain : 'Σ' ∉ ':' :: code after := fun member => plain (List.mem_append_right _ member)
  rw [outline, outline, outline, coded, head, lowercase_append beforePlain afterPlain,
    lowercase_append beforePlain (by decide),
    lowercase_cons (by decide) (fun member => afterPlain (.tail _ member)), pieces_append_colon,
    itemsOf_append _ (pieces_ne_nil _)]
  congr 1
  exact congrArg itemsOf (pieces_append_colon (lowercase before) []).symm

namespace Edit

variable {lines edited : List (List Char)}

/-- An edit does not bring in a sigma. -/
theorem plain (edit : Edit lines edited) (plain : ∀ raw ∈ lines, 'Σ' ∉ code raw) :
    ∀ raw ∈ edited, 'Σ' ∉ code raw := by
  cases edit with
  | within above below edit =>
      rw [List.forall_mem_append, List.forall_mem_cons] at plain ⊢
      exact ⟨plain.1, edit.plain plain.2.1, plain.2.2⟩
  | insert above below blank =>
      rw [List.forall_mem_append] at plain
      rw [List.forall_mem_append, List.forall_mem_cons]
      exact ⟨plain.1, fun member => absurd (blank _ member) (by decide), plain.2⟩
  | split above below after absent =>
      rw [List.forall_mem_append, List.forall_mem_cons] at plain
      rw [List.forall_mem_append, List.forall_mem_cons, List.forall_mem_cons]
      obtain ⟨abovePlain, linePlain, belowPlain⟩ := plain
      rw [code_append_of_not_mem absent, List.mem_append, not_or] at linePlain
      refine ⟨abovePlain, ?_, fun member => linePlain.2 (.tail _ member), belowPlain⟩
      rw [code_append_of_not_mem absent, List.mem_append, not_or]
      exact ⟨linePlain.1, by decide⟩

/-- An edit keeps the items of the source. -/
theorem items (edit : Edit lines edited) (plain : ∀ raw ∈ lines, 'Σ' ∉ code raw) :
    itemsOfLines edited = itemsOfLines lines := by
  cases edit with
  | @within raw edited above below edit =>
      simp only [itemsOfLines_append, itemsOfLines_cons,
        edit.items (plain raw (List.mem_append_right _ (.head _)))]
  | insert above below blank =>
      simp only [itemsOfLines_append, itemsOfLines_cons, itemsOf_idle blank, List.nil_append]
  | @split before above below after absent =>
      simp only [itemsOfLines_append, itemsOfLines_cons, List.append_assoc,
        itemsOf_split absent (plain _ (List.mem_append_right _ (.head _)))]

/-- Any number of edits keeps the items of the source. -/
theorem items_of_edits (edits : Relation.ReflTransGen Edit lines edited)
    (plain : ∀ raw ∈ lines, 'Σ' ∉ code raw) :
    itemsOfLines edited = itemsOfLines lines ∧ ∀ raw ∈ edited, 'Σ' ∉ code raw := by
  induction edits with
  | refl => exact ⟨rfl, plain⟩
  | tail _ edit induction =>
      obtain ⟨same, stillPlain⟩ := induction
      exact ⟨(edit.items stillPlain).trans same, edit.plain stillPlain⟩

end Edit

/-- A source without a capital sigma outside its comments, such as one that is ASCII there, is
assembled to the same program after any number of edits. -/
theorem assemble_of_edits {source edited : String} {program : Program}
    (assembled : assemble source = .ok program)
    (plain : ∀ raw ∈ source.toList.splitOn '\n', 'Σ' ∉ code raw)
    (edits : Relation.ReflTransGen Edit (source.toList.splitOn '\n')
      (edited.toList.splitOn '\n')) :
    assemble edited = .ok program := by
  have items (text : List Char) :
      (sourceLines text).flatMap SourceLine.items = itemsOfLines (text.splitOn '\n') := by
    rw [sourceLines, List.flatMap_map, itemsOfLines]
    simp only [items_read]
  refine program_of_items ?_ ?_ assembled
  · rw [items, items, (Edit.items_of_edits edits plain).1]
  · intro line member label declared
    obtain ⟨raw, _, rfl⟩ := List.mem_map.mp member
    exact trim_of_mem_segments (mem_segments_of_mem_labels declared)

/-- All kinds of edits in a row: the first line changes its case, is broken behind its label, gets a
wider gap, a comment and one more word, and a line with a comment comes before it. -/
theorem assemble_of_edits_all :
    let source := "loop: jzero out\njump loop\nout:"
    let edited := "; copy\nLOOP:\n  JZero OUT 7;test\njump loop\nout:"
    ∃ program, assemble source = .ok program ∧
      program.instructions.map Instruction.text = ["loop: JZERO out", "JUMP loop", "out: HALT"] ∧
      assemble edited = .ok program := by
  intro source edited
  let rest := ["jump loop".toList, "out:".toList]
  have lines : source.toList.splitOn '\n' = "loop: jzero out".toList :: rest := by decide
  have editedLines : edited.toList.splitOn '\n' =
      "; copy".toList :: "LOOP:".toList :: "  JZero OUT 7;test".toList :: rest := by decide
  have recased : LineEdit "loop: jzero out".toList "LOOP: JZero OUT".toList := .recase (by decide)
  have broken : Edit ("LOOP: JZero OUT".toList :: rest)
      ("LOOP:".toList :: " JZero OUT".toList :: rest) := by
    have colon : "LOOP: JZero OUT".toList = "LOOP".toList ++ ':' :: " JZero OUT".toList := by decide
    have first : "LOOP:".toList = "LOOP".toList ++ [':'] := by decide
    rw [colon, first]
    exact .split [] rest " JZero OUT".toList (by decide)
  have spaced : LineEdit " JZero OUT".toList "  JZero OUT".toList := by
    have wider : "  JZero OUT".toList = [] ++ [' '] ++ " JZero OUT".toList := by decide
    rw [wider]
    exact @LineEdit.space [] [' '] " JZero OUT".toList (by decide) (by decide)
  have commented : LineEdit "  JZero OUT".toList "  JZero OUT;test".toList := by
    have longer : "  JZero OUT;test".toList = "  JZero OUT".toList ++ ';' :: "test".toList := by
      decide
    rw [longer]
    exact .comment _ _
  have extended : LineEdit "  JZero OUT;test".toList "  JZero OUT 7;test".toList := by
    have whole : "  JZero OUT;test".toList = "  JZero OUT".toList ++ ";test".toList := by decide
    have longer : "  JZero OUT 7;test".toList =
        "  JZero OUT".toList ++ " 7".toList ++ ";test".toList := by decide
    have complete : Complete "  JZero OUT".toList := ⟨by decide, .jzero, by decide, by decide⟩
    rw [whole, longer]
    exact .extend complete (by decide) (by decide) (by decide) (by decide) (by decide) (by decide)
  have assembled : assemble source = .ok
      ⟨[⟨.jzero, ["loop"], [.label "out" 3], rfl⟩, ⟨.jump, [], [.label "loop" 1], rfl⟩,
        ⟨.halt, ["out"], [], rfl⟩]⟩ := by
    decide +kernel
  refine ⟨_, assembled, by decide, assemble_of_edits assembled ?_ ?_⟩
  · rw [lines]
    decide
  · rw [lines, editedLines]
    exact .head (.within [] rest recased) <| .head broken <|
      .head (.within ["LOOP:".toList] rest spaced) <|
      .head (.within ["LOOP:".toList] rest commented) <|
      .head (.within ["LOOP:".toList] rest extended) <| .single (.insert [] _ (by decide))

end Ram.Assembly
