import Ram.Proofs.Assembly.Argument
import Ram.Proofs.Assembly.FirstError

/-!
# What an error says

An error names a line and says what is wrong there.  `TrueOf` has a rule for every cause that the
assembler reports, and says in terms of the lines alone when the cause is true of a line.  There
is no rule for an instruction that its arguments leave incomplete, since the arguments are counted
before the instruction is built.

The assembler reports nothing else (`trueOf_of_assemble`).  The two passes are taken one by one.

* The table that the first pass has made so far knows each label by its first declaration, so a
  label that is declared again is reported with the first line that declares it
  (`firstDeclaredOn_of_find?`).  The positions of the two differ because a body stands between
  them.
* The second pass has the labels of the whole source, so a label that it does not know is declared
  nowhere.  No mnemonic takes a second argument, so a statement is refused for its mnemonic, for
  the lack of an argument or for its first argument (`LabelTable.refuses_of_instruction`).
-/

namespace Ram.Assembly

open Text

/-! ## What errors say -/

/-- Whether the line with the given index is the first one that declares a label. -/
structure FirstDeclaredOn (lines : List SourceLine) (index : Nat) (label : List Char) : Prop where
  declared : DeclaredOn lines index label
  before : ∀ earlier < index, ¬ DeclaredOn lines earlier label

/-- Whether the body of the line with the given index is a mnemonic with some words behind it. -/
def StatedOn (lines : List SourceLine) (index : Nat) (mnemonic : Mnemonic)
    (tokens : List (List Char)) : Prop :=
  ∃ source, lines[index]? = some source ∧
    words source.body = mnemonic.name.toList.map Char.toLower :: tokens

/-- Whether a token is where the line with the given index has its argument. -/
structure GivenOn (lines : List SourceLine) (index : Nat) (mnemonic : Mnemonic)
    (token : List Char) : Prop where
  stated : ∃ others, StatedOn lines index mnemonic (token :: others)
  takes : mnemonic.arity = 1

/-- Whether a cause is true of the line with the given index. -/
inductive TrueOf (lines : List SourceLine) (index : Nat) : Cause → Prop where
  /-- The label is declared on both lines, first on the earlier one, and a body stands between the
  two declarations. -/
  | duplicateLabel {label : List Char} {first between : Nat} {source : SourceLine} :
      FirstDeclaredOn lines first label → DeclaredOn lines index label → first < index →
      first ≤ between → between < index → lines[between]? = some source → source.body ≠ [] →
      TrueOf lines index (.duplicateLabel (String.ofList label) (first + 1))
  | invalidLabel {label : List Char} : DeclaredOn lines index label → ¬ IsName label →
      TrueOf lines index (.invalidLabel (String.ofList label))
  | unknownMnemonic {source : SourceLine} {word : List Char} {tokens : List (List Char)} :
      lines[index]? = some source → words source.body = word :: tokens →
      (∀ mnemonic : Mnemonic, word ≠ mnemonic.name.toList.map Char.toLower) →
      TrueOf lines index (.unknownMnemonic (String.ofList word))
  /-- The mnemonic takes one argument, and no word follows it. -/
  | missingArguments {mnemonic : Mnemonic} : StatedOn lines index mnemonic [] →
      mnemonic.arity = 1 → TrueOf lines index (.missingArguments mnemonic 1 0)
  | invalidRegister {mnemonic : Mnemonic} {token : List Char} :
      GivenOn lines index mnemonic token → RegisterLike token → (¬ ∃ n, IsRegisterToken token n) →
      TrueOf lines index (.invalidRegister (String.ofList token))
  /-- The label is declared nowhere. -/
  | undefinedLabel {mnemonic : Mnemonic} {token : List Char} :
      GivenOn lines index mnemonic token → LetterFirst token →
      (∀ line, ¬ DeclaredOn lines line token) →
      TrueOf lines index (.undefinedLabel (String.ofList token))
  | invalidNumeral {mnemonic : Mnemonic} {token : List Char} :
      GivenOn lines index mnemonic token → ¬ RegisterLike token → ¬ LetterFirst token →
      (∀ negative n, IsNumeral token negative n → magnitudeLimit negative < n) →
      TrueOf lines index (.invalidNumeral (String.ofList token))
  | negativeLiteral {mnemonic : Mnemonic} {token : List Char} {n : Nat} :
      GivenOn lines index mnemonic token → IsNumeral token true n → 1 ≤ n →
      TrueOf lines index (.negativeLiteral (String.ofList token))
  /-- The token stands for an argument that the one shape of the mnemonic does not admit. -/
  | unsupportedArgument {mnemonic : Mnemonic} {token : List Char} {shape : Shape}
      {argument : Argument} :
      GivenOn lines index mnemonic token → mnemonic.shape? 0 = some shape →
      Denotes lines token argument → shape.admits argument = false →
      TrueOf lines index (.unsupportedArgument (.unsupported mnemonic 0 shape argument))

/-! ## Errors in declarations -/

/-- Declarations are in the order of their lines. -/
theorem pairwise_declarations :
    ∀ (lines : List SourceLine) (line position : Nat),
      (declarations line position lines).Pairwise fun first second => first.line ≤ second.line
  | [], _, _ => .nil
  | first :: rest, line, position => by
      rw [declarations, List.pairwise_append]
      refine ⟨?_, pairwise_declarations rest _ _, ?_⟩
      · rw [List.pairwise_map]
        exact List.pairwise_of_forall fun _ _ => Nat.le_refl line
      · intro here member there later
        obtain ⟨label, _, rfl⟩ := List.mem_map.mp member
        obtain ⟨index, source, _, other, _, rfl⟩ := mem_declarations_iff.mp later
        show line ≤ line + 1 + index
        omega

/-- The first of some declarations of a label is on the first line that declares it. -/
theorem firstDeclaredOn_of_find? {lines : List SourceLine} {label : List Char}
    {first : Declaration}
    (found : (declarations 1 1 lines).find? (fun entry => entry.name = String.ofList label) =
      some first) :
    ∃ index, FirstDeclaredOn lines index label ∧
      first = ⟨String.ofList label, 1 + statementsBefore lines index, 1 + index⟩ := by
  obtain ⟨named, before, after, split, others⟩ := List.find?_eq_some_iff_append.mp found
  have ordered := pairwise_declarations lines 1 1
  rw [split, List.pairwise_append] at ordered
  have member : first ∈ declarations 1 1 lines := List.mem_of_find?_eq_some found
  obtain ⟨index, other, declared, rfl⟩ := mem_declarations_iff_declaredOn.mp member
  obtain rfl : other = label := String.ofList_injective (by simpa using named)
  refine ⟨index, ⟨declared, fun earlier less alsoDeclared => ?_⟩, rfl⟩
  have also := mem_declarations_iff_declaredOn.mpr ⟨earlier, other, alsoDeclared, rfl⟩
  rw [split, List.mem_append, List.mem_cons] at also
  rcases also with front | same | behind
  · simpa using others _ front
  · have := (Declaration.mk.inj same).2.2
    omega
  · have := (List.pairwise_cons.mp ordered.2.1).1 _ behind
    simp only at this
    omega

/-- What the first pass says of a line is true. -/
theorem trueOf_of_labelTable {source : List Char} {error : Error}
    (failed : labelTable (sourceLines source) = .error error) :
    ∃ index, error.line = index + 1 ∧ index < (sourceLines source).length ∧
      TrueOf (sourceLines source) index error.cause := by
  obtain ⟨before, declaration, after, table, split, made, refused⟩ :=
    foldlM_eq_error_iff.mp failed
  have member : declaration ∈ declarations 1 1 (sourceLines source) := by
    rw [split]
    exact List.mem_append_right before (.head after)
  obtain ⟨index, label, declared, rfl⟩ := mem_declarations_iff_declaredOn.mp member
  have inside := lt_length_of_declaredOn declared
  rcases LabelTable.declare_eq_error_iff.mp refused with
    ⟨unnamed, rfl⟩ | ⟨_, first, known, apart, rfl⟩
  · refine ⟨index, Nat.add_comm 1 index, inside, .invalidLabel declared ?_⟩
    rw [← isLabelName_iff_isName (colon_not_mem_of_declaredOn declared)]
    simpa using unnamed
  · -- the table so far has the first declaration of the whole source
    rw [LabelTable.find?_of_ofDeclarations made] at known
    have found : (declarations 1 1 (sourceLines source)).find?
        (fun entry => entry.name = String.ofList label) = some first := by
      rw [split, List.find?_append, known, Option.some_or]
    obtain ⟨earlier, firstOn, rfl⟩ := firstDeclaredOn_of_find? found
    have ordered : earlier ≤ index :=
      Nat.le_of_not_lt fun less => firstOn.before index less declared
    obtain ⟨between, body, above, below, there, nonempty⟩ :
        ∃ between body, earlier ≤ between ∧ between < index ∧
          (sourceLines source)[between]? = some body ∧ body.body ≠ [] := by
      simpa only [ne_eq, Nat.add_left_cancel_iff, statementsBefore_eq_iff ordered, not_forall,
        exists_prop] using apart
    refine ⟨index, Nat.add_comm 1 index, inside, ?_⟩
    rw [Nat.add_comm 1 earlier]
    exact .duplicateLabel firstOn declared (by omega) above below there nonempty

/-! ## Errors in statements -/

/-- Why a statement is refused that is a word with some tokens behind it. -/
inductive LabelTable.Refuses (table : LabelTable) (word : List Char) :
    List (List Char) → Cause → Prop where
  /-- The word is no mnemonic. -/
  | mnemonic {tokens : List (List Char)} : Mnemonic.ofName? word = none →
      Refuses table word tokens (.unknownMnemonic (String.ofList word))
  /-- The mnemonic takes an argument, and there is no token. -/
  | missing {kind : Mnemonic} : Mnemonic.ofName? word = some kind → kind.arity = 1 →
      Refuses table word [] (.missingArguments kind 1 0)
  /-- The first token is not read as an argument. -/
  | token {kind : Mnemonic} {token : List Char} {others : List (List Char)} {cause : Cause} :
      Mnemonic.ofName? word = some kind → kind.arity = 1 → table.argument token = .error cause →
      Refuses table word (token :: others) cause
  /-- The first token is read as an argument that the mnemonic does not take. -/
  | argument {kind : Mnemonic} {token : List Char} {others : List (List Char)} {shape : Shape}
      {argument : Argument} :
      Mnemonic.ofName? word = some kind → kind.shape? 0 = some shape →
      table.argument token = .ok argument → shape.admits argument = false →
      Refuses table word (token :: others)
        (.unsupportedArgument (.unsupported kind 0 shape argument))

namespace LabelTable

variable {table : LabelTable} {word : List Char} {kind : Mnemonic} {shape : Shape} {cause : Cause}

/-- A mnemonic that takes an argument is refused for the first token or for the lack of one. -/
theorem refuses_of_supply {labels : List String} (known : Mnemonic.ofName? word = some kind)
    (takes : kind.shape? 0 = some shape) :
    ∀ {tokens : List (List Char)},
      (table.supply { Builder.start kind with labels := labels } 1 tokens >>= fun complete =>
        complete.build.mapError Cause.incompleteInstruction) = .error cause →
      table.Refuses word tokens cause
  | [], failed => by
      have arity := Mnemonic.arity_eq_one takes
      cases failed
      show table.Refuses word [] (.missingArguments kind kind.arity 0)
      rw [arity]
      exact .missing known arity
  | token :: others, failed => by
      simp only [supply, bind_eq_error_iff, bind_eq_ok_iff, mapError_eq_error_iff,
        mapError_eq_ok_iff] at failed
      rcases failed with (unread | ⟨argument, read, failed⟩) | ⟨complete, supplied, failed⟩
      · exact .token known (Mnemonic.arity_eq_one takes) unread
      · rcases failed with ⟨reason, refused, rfl⟩ | ⟨_, _, impossible⟩
        · cases Builder.argument_start_eq_error_iff.mp refused with
          | tooMany none =>
              rw [Mnemonic.arity_eq_one takes] at none
              cases none
          | unsupported alsoTakes inadmissible => exact .argument known alsoTakes read inadmissible
        · cases impossible
      · -- the builder is complete with the argument of the token
        obtain ⟨_, _, _, taken, same⟩ := supplied
        obtain ⟨reason, incomplete, _⟩ := failed
        cases same
        exact absurd incomplete (Builder.build_ne_error_of_argument taken reason)

theorem refuses_of_instruction {position : Nat} {text : List Char} {tokens : List (List Char)}
    (split : words text = word :: tokens) (failed : table.instruction position text = .error cause) :
    table.Refuses word tokens cause := by
  rw [LabelTable.instruction, split, bind_eq_error_iff] at failed
  rcases failed with unknown | ⟨kind, known, failed⟩
  · obtain ⟨nameless, rfl⟩ := mnemonic_eq_error_iff.mp unknown
    exact .mnemonic nameless
  · rw [mnemonic_eq_ok_iff] at known
    rw [Builder.foldl_label, List.tail_cons] at failed
    cases takes : kind.shape? 0 with
    | none =>
        -- nothing is read behind the mnemonic and nothing is missing
        have shapes : kind.shapes = [] := by
          rw [Mnemonic.shapes_eq_toList, takes]
          rfl
        have arity : kind.arity = 0 := congrArg List.length shapes
        rw [arity] at failed
        obtain ⟨reason, incomplete, _⟩ := mapError_eq_error_iff.mp failed
        exact absurd shapes (Builder.build_eq_error_iff.mp incomplete).1
    | some shape =>
        rw [Mnemonic.arity_eq_one takes] at failed
        exact refuses_of_supply known takes failed

end LabelTable

section

variable {lines : List SourceLine} {table : LabelTable} {index : Nat}

/-- An argument is refused for what its token is. -/
theorem trueOf_of_argument (made : labelTable lines = .ok table) {mnemonic : Mnemonic}
    {token : List Char} {cause : Cause} (given : GivenOn lines index mnemonic token)
    (failed : table.argument token = .error cause) : TrueOf lines index cause := by
  have reads := table.reads_argument token
  rw [failed] at reads
  cases reads with
  | invalidRegister looks unknown => exact .invalidRegister given looks unknown
  | undefinedLabel _ letter unknown =>
      refine .undefinedLabel given letter fun line declared => ?_
      rw [resolve_of_declaredOn made declared] at unknown
      cases unknown
  | negativeLiteral _ _ numeral positive => exact .negativeLiteral given numeral positive
  | largeNumeral notRegister notLetter numeral large =>
      refine .invalidNumeral given notRegister notLetter fun negative n also => ?_
      obtain ⟨rfl, rfl⟩ := numeral.unique also
      exact large
  | noNumeral notRegister notLetter none =>
      exact .invalidNumeral given notRegister notLetter fun negative n numeral =>
        absurd ⟨negative, n, numeral⟩ none

/-- What the second pass says of a body is true of its line. -/
theorem trueOf_of_instruction (made : labelTable lines = .ok table) {source : SourceLine}
    (found : lines[index]? = some source) (small : ∀ c ∈ source.body, isSmall c = true)
    (nonempty : words source.body ≠ []) {position : Nat} {cause : Cause}
    (failed : table.instruction position source.body = .error cause) :
    TrueOf lines index cause := by
  obtain ⟨word, tokens, split⟩ := List.exists_cons_of_ne_nil nonempty
  have smallWord : ∀ c ∈ word, isSmall c = true := fun c inside =>
    small c (mem_of_mem_words (split ▸ .head _) c inside)
  have stated {kind : Mnemonic} (known : Mnemonic.ofName? word = some kind) :
      StatedOn lines index kind tokens :=
    ⟨source, found, (ofName?_eq_some_iff smallWord).mp known ▸ split⟩
  cases LabelTable.refuses_of_instruction split failed with
  | mnemonic unknown =>
      refine .unknownMnemonic found split fun mnemonic same => ?_
      rw [(ofName?_eq_some_iff smallWord).mpr same] at unknown
      cases unknown
  | missing known arity => exact .missingArguments (stated known) arity
  | token known arity unread =>
      exact trueOf_of_argument made ⟨⟨_, stated known⟩, arity⟩ unread
  | argument known takes read inadmissible =>
      have given : GivenOn lines index _ _ := ⟨⟨_, stated known⟩, Mnemonic.arity_eq_one takes⟩
      exact .unsupportedArgument given takes (denotes_of_argument made read) inadmissible

end

/-- Assembly errors tell the truth.  The line of an error is a line of the source, counted from 1,
and the cause is true of it. -/
theorem trueOf_of_assemble {source : String} {error : Error}
    (failed : assemble source = .error error) :
    1 ≤ error.line ∧ error.line ≤ (source.toList.splitOn '\n').length ∧
      TrueOf (sourceLines source.toList) (error.line - 1) error.cause := by
  have count : (sourceLines source.toList).length = (source.toList.splitOn '\n').length :=
    List.length_map _
  have named : ∃ index, error.line = index + 1 ∧ index < (sourceLines source.toList).length ∧
      TrueOf (sourceLines source.toList) index error.cause := by
    rcases program_eq_error_iff.mp failed with early | ⟨table, made, late⟩
    · exact trueOf_of_labelTable early
    · obtain ⟨index, line, first⟩ := firstRefused_of_instructions_error late
      obtain ⟨read, found, nonempty, refused⟩ := first.refused
      obtain ⟨raw, _, rfl⟩ := List.mem_map.mp (List.mem_of_getElem? found)
      refine ⟨index, line, (List.getElem?_eq_some_iff.mp found).1, ?_⟩
      exact trueOf_of_instruction made found (fun c => mem_body_of_read)
        (mt body_eq_nil_iff.mpr nonempty) refused
  obtain ⟨index, line, inside, holds⟩ := named
  rw [line, ← count, Nat.add_sub_cancel]
  exact ⟨by omega, by omega, holds⟩

/-- The label is declared a third time on the line that is refused.  Its second declaration repeats
the first one, and the line between the last two has a body. -/
theorem trueOf_of_assemble_duplicate :
    let source := "\nLoop:\nloop: half\nend: jump end\n out: LOOP: halt"
    assemble source = .error ⟨5, .duplicateLabel "loop" 2⟩ ∧
      TrueOf (sourceLines source.toList) 4 (.duplicateLabel "loop" 2) := by
  intro source
  have failed : assemble source = .error ⟨5, .duplicateLabel "loop" 2⟩ := by decide +kernel
  exact ⟨failed, (trueOf_of_assemble failed).2.2⟩

end Ram.Assembly
