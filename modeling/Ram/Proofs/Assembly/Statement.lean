import Ram.Assembly.Assemble
import Ram.Proofs.Instruction
import Ram.Proofs.Numeral
import Ram.Proofs.Assembly.LabelTable

/-!
# What tokens and statements stand for

A token that is read as an argument gives a register, a label of the table or a literal in
range (`argument_cases`), and each of these is read back from its text in lowercase.

A statement stands for an instruction exactly when its first word is the mnemonic, the labels
are those of the position, and the words after the first are read as the arguments, as many as
the mnemonic takes (`instruction_eq_ok_iff`).
-/

namespace Ram.Assembly

open Text

/-! ## Tokens -/

/-- A literal that is read is within the limits. -/
theorem literal_range {token : List Char} {value : Value} (read : literal token = .ok value) :
    0 ≤ value.toInt ∧ value.toInt ≤ maxLiteral := by
  unfold literal at read
  split at read
  next => cases read
  next n magnitude =>
    split at read
    next => cases read
    next =>
      split at read
      next => cases read
      next =>
        split at read
        next => cases read
        next small =>
          cases read
          have : n < 2 ^ 63 := by
            unfold maxLiteral at small
            omega
          rw [Int64.toInt_ofNat_of_lt this]
          omega

namespace LabelTable

variable {table : LabelTable} {token : List Char} {argument : Argument}

/-- What a token is read as: a register, a label of the table or a literal. -/
theorem argument_cases (read : table.argument token = .ok argument) :
    (∃ number, registerNumber? token = some number ∧ argument = .register number) ∨
      (∃ position, table.resolve (String.ofList token) = some position ∧
        argument = .label (String.ofList token) position) ∨
      ∃ value, literal token = .ok value ∧ argument = .literal value := by
  unfold LabelTable.argument at read
  split at read
  next =>
    split at read
    next number known =>
      cases read
      exact .inl ⟨number, known, rfl⟩
    next => cases read
  next =>
    split at read
    next =>
      split at read
      next position resolved =>
        cases read
        exact .inr (.inl ⟨position, resolved, rfl⟩)
      next => cases read
    next =>
      cases value : literal token with
      | error cause =>
          rw [value] at read
          cases read
      | ok number =>
          rw [value] at read
          cases read
          exact .inr (.inr ⟨number, rfl, rfl⟩)

theorem argument_register (table : LabelTable) (number : RegisterNumber) :
    table.argument ('r' :: Nat.toDigits 10 number.toNat) = .ok (.register number) := by
  obtain ⟨c, rest, digits, digit⟩ := Numeral.toDigits_eq_cons number.toNat
  have looks : looksLikeRegister ('r' :: Nat.toDigits 10 number.toNat) = true := by
    simp [digits, looksLikeRegister, digit]
  simp [LabelTable.argument, looks, registerNumber?]

theorem argument_label {name : String} {position : Nat} (named : isLabelName name.toList = true)
    (resolved : table.resolve name = some position) :
    table.argument name.toList = .ok (.label name position) := by
  obtain ⟨starts, _, _, looks⟩ := isLabelName_iff.mp named
  simp [LabelTable.argument, starts, looks, resolved]

/-- A text that starts with a digit is neither a register nor a label. -/
theorem argument_of_digit {c : Char} {rest : List Char} (table : LabelTable)
    (digit : c.isDigit = true) :
    table.argument (c :: rest) = (literal (c :: rest)).map Argument.literal := by
  have notRegister : c ≠ 'r' := by
    rintro rfl
    exact absurd digit (by decide)
  have notLetter : c.isLower = false := by
    have := Numeral.forall_isDigit (fun d => !d.isLower) digit (by decide)
    simpa using this
  have looks : looksLikeRegister (c :: rest) = false := by
    unfold looksLikeRegister
    split
    next same => exact absurd (List.cons.inj same).1 notRegister
    next => rfl
  simp [LabelTable.argument, looks, startsWithLetter, notLetter]

/-- The digits of a decimal have no sign and no radix in front. -/
theorem magnitude?_toDigits (n : Nat) :
    splitSign (Nat.toDigits 10 n) = (false, Nat.toDigits 10 n) ∧
      magnitude? (Nat.toDigits 10 n) = some n := by
  have noSign : '-' ∉ Nat.toDigits 10 n ∧ '+' ∉ Nat.toDigits 10 n ∧ 'x' ∉ Nat.toDigits 10 n ∧
      'b' ∉ Nat.toDigits 10 n := by
    refine ⟨?_, ?_, ?_, ?_⟩ <;> intro member <;>
      exact absurd (Numeral.isDigit_of_mem_toDigits member) (by decide)
  constructor
  · unfold splitSign
    split
    next rest same => simp [same] at noSign
    next rest same => simp [same] at noSign
    next => rfl
  · unfold magnitude?
    split
    next rest same => simp [same] at noSign
    next rest same => simp [same] at noSign
    next => exact Numeral.natural?_toDigits n

/-- A literal within the limits is read back from its digits. -/
theorem argument_literal (table : LabelTable) {value : Value} (nonneg : 0 ≤ value.toInt)
    (small : value.toInt ≤ maxLiteral) :
    table.argument (Nat.toDigits 10 value.toInt.toNat) = .ok (.literal value) := by
  obtain ⟨c, rest, digits, digit⟩ := Numeral.toDigits_eq_cons value.toInt.toNat
  obtain ⟨sign, magnitude⟩ := magnitude?_toDigits value.toInt.toNat
  have back : Int64.ofNat value.toInt.toNat = value :=
    Int64.ofNat_toNatClampNeg value (Int64.le_iff_toInt_le.mpr nonneg)
  have read : literal (Nat.toDigits 10 value.toInt.toNat) = .ok value := by
    unfold maxLiteral at small
    simp only [literal, sign, magnitude, back]
    rw [if_neg (by unfold maxMagnitude; omega), if_neg (by simp),
      if_neg (by unfold maxLiteral; omega)]
  rw [digits] at read ⊢
  rw [argument_of_digit table digit, read]
  rfl

/-- The digits of a larger literal are no numeral. -/
theorem argument_large (table : LabelTable) {value : Value} (large : maxLiteral < value.toInt) :
    table.argument (Nat.toDigits 10 value.toInt.toNat) =
      .error (.invalidNumeral (String.ofList (Nat.toDigits 10 value.toInt.toNat))) := by
  obtain ⟨c, rest, digits, digit⟩ := Numeral.toDigits_eq_cons value.toInt.toNat
  obtain ⟨sign, magnitude⟩ := magnitude?_toDigits value.toInt.toNat
  have refused : literal (Nat.toDigits 10 value.toInt.toNat) =
      .error (.invalidNumeral (String.ofList (Nat.toDigits 10 value.toInt.toNat))) := by
    simp only [literal, sign, magnitude]
    split
    next => rfl
    next => rw [if_neg (by simp), if_pos (by omega)]
  rw [digits] at refused ⊢
  rw [argument_of_digit table digit, refused]
  rfl

/-! ## Statements -/

/-- A builder is supplied with arguments exactly when it takes those that the next tokens are
read as. -/
theorem supply_eq_ok_iff {final : Builder} :
    ∀ {count : Nat} {tokens : List (List Char)} {builder : Builder},
      table.supply builder count tokens = .ok final ↔
        ∃ arguments, arguments.length = count ∧
          List.Forall₂ (fun token argument => table.argument token = .ok argument)
            (tokens.take count) arguments ∧
          arguments.foldlM Builder.argument builder = .ok final
  | 0, tokens, builder => by
      simp only [supply, List.length_eq_zero_iff, List.take_zero]
      constructor
      · intro same
        cases same
        exact ⟨[], rfl, .nil, rfl⟩
      · rintro ⟨_, rfl, _, same⟩
        cases same
        rfl
  | count + 1, [], builder => by
      simp only [supply, List.take_nil, reduceCtorEq, false_iff]
      rintro ⟨arguments, length, read, _⟩
      cases read
      simp at length
  | count + 1, token :: tokens, builder => by
      simp only [supply, bind_eq_ok_iff, mapError_eq_ok_iff, List.take_succ_cons]
      constructor
      · rintro ⟨argument, read, next, taken, supplied⟩
        obtain ⟨arguments, length, others, fed⟩ := supply_eq_ok_iff.mp supplied
        refine ⟨argument :: arguments, by simp [length], .cons read others, ?_⟩
        rw [List.foldlM_cons, bind_eq_ok_iff]
        exact ⟨next, taken, fed⟩
      · rintro ⟨arguments, length, read, fed⟩
        cases read with
        | cons first others =>
            rw [List.foldlM_cons, bind_eq_ok_iff] at fed
            obtain ⟨next, taken, fed⟩ := fed
            refine ⟨_, first, next, taken, supply_eq_ok_iff.mpr ⟨_, ?_, others, fed⟩⟩
            simpa using length

theorem exists_token {tokens : List (List Char)} {arguments : List Argument}
    (read : List.Forall₂ (fun token argument => table.argument token = .ok argument) tokens arguments)
    (given : argument ∈ arguments) : ∃ token ∈ tokens, table.argument token = .ok argument := by
  induction read with
  | nil => cases given
  | @cons token first tokens others firstRead _ induction =>
      cases given with
      | head => exact ⟨token, .head _, firstRead⟩
      | tail _ later =>
          obtain ⟨found, known, foundRead⟩ := induction later
          exact ⟨found, .tail token known, foundRead⟩

theorem mnemonic_eq_ok_iff {word : List Char} {kind : Mnemonic} :
    mnemonic word = .ok kind ↔ Mnemonic.ofName? word = some kind := by
  unfold mnemonic
  cases Mnemonic.ofName? word with
  | none => simp
  | some found => simp

theorem mnemonic_eq_error_iff {word : List Char} {cause : Cause} :
    mnemonic word = .error cause ↔
      Mnemonic.ofName? word = none ∧ cause = .unknownMnemonic (String.ofList word) := by
  unfold mnemonic
  cases Mnemonic.ofName? word with
  | none => simp [eq_comm]
  | some found => simp

/-- A statement stands for an instruction exactly when its words are the mnemonic and the
arguments, and the labels are those of the position. -/
theorem instruction_eq_ok_iff {position : Nat} {text : List Char} {instruction : Instruction} :
    table.instruction position text = .ok instruction ↔
      Mnemonic.ofName? ((words text).headD []) = some instruction.mnemonic ∧
        instruction.labels = table.attachedTo position ∧
        List.Forall₂ (fun token argument => table.argument token = .ok argument)
          ((words text).tail.take instruction.mnemonic.arity) instruction.arguments := by
  simp only [LabelTable.instruction, bind_eq_ok_iff, mnemonic_eq_ok_iff, mapError_eq_ok_iff,
    supply_eq_ok_iff, Builder.foldl_label]
  constructor
  · rintro ⟨kind, known, complete, ⟨arguments, length, read, fed⟩, built⟩
    obtain ⟨_, sameMnemonic, sameLabels, sameArguments⟩ := Builder.build_eq_ok_iff.mp built
    obtain ⟨fedMnemonic, fedLabels, fedArguments⟩ := Builder.parts_of_foldlM_argument fed
    have mnemonicEq : instruction.mnemonic = kind := sameMnemonic.trans fedMnemonic
    refine ⟨mnemonicEq ▸ known, ?_, ?_⟩
    · rw [sameLabels, fedLabels]
      simp [Builder.start]
    · rw [sameArguments, fedArguments, mnemonicEq]
      simpa [Builder.start] using read
  · rintro ⟨known, labels, read⟩
    obtain ⟨filled, fed⟩ := Builder.foldlM_argument_of_fill instruction.arguments
      { Builder.start instruction.mnemonic with labels := [] ++ table.attachedTo position }
      instruction.fits
    refine ⟨instruction.mnemonic, known, _, ⟨instruction.arguments,
      instruction.length_arguments, read, fed⟩, ?_⟩
    rw [Builder.build_eq_ok_iff]
    exact ⟨rfl, rfl, labels, rfl⟩

/-- A statement is refused for an argument that cannot be read. -/
theorem instruction_of_argument_error {position count : Nat} {text word : List Char}
    {tokens : List (List Char)} {kind : Mnemonic} {cause : Cause}
    (split : words text = word :: token :: tokens) (known : Mnemonic.ofName? word = some kind)
    (arity : kind.arity = count + 1) (failed : table.argument token = .error cause) :
    table.instruction position text = .error cause := by
  rw [LabelTable.instruction, split, bind_eq_error_iff]
  refine .inr ⟨kind, mnemonic_eq_ok_iff.mpr known, bind_eq_error_iff.mpr (.inl ?_)⟩
  rw [List.tail_cons, arity, supply, bind_eq_error_iff]
  exact .inl failed

end LabelTable

end Ram.Assembly
