import Ram.Proofs.Assembly.Printable
import Mathlib.Data.Nat.Digits.Defs

/-!
# The grammar of argument tokens

Tokens as a grammar, apart from the functions that read them.

* A *number* in a radix is a list of digits, written with the characters `0` to `9` and `a` to
  `f`, the letters in either case.  It may start with zeros (`IsNumber`).
* A *magnitude* is a number in hexadecimal after `0x`, in binary after `0b`, or in decimal, and
  a *numeral* is a magnitude with an optional sign (`IsMagnitude`, `IsNumeral`).
* A *register token* is `r`, an optional plus sign and a decimal number of 64 bits
  (`IsRegisterToken`), and a *literal token* is a numeral of at most 31 bits which is not below
  zero (`IsLiteralToken`).

The readers accept exactly these texts and give the numbers that they stand for.  No text is of
two kinds: registers and labels start with a letter and numerals do not, and a label does not
look like a register.  So `argument_eq_ok_iff` says what a token is read as without the order in
which the kinds are tried.
-/

namespace Ram.Numeral

/-! ## Numbers -/

/-- Whether a text is a number in a radix: its characters are those of the digits, the most
significant first. -/
def IsNumber (radix : Nat) (text : List Char) (n : Nat) : Prop :=
  ∃ digits : List Nat, digits ≠ [] ∧ (∀ digit ∈ digits, digit < radix) ∧
    text.map Char.toLower = digits.map Nat.digitChar ∧ Nat.ofDigits radix digits.reverse = n

/-- What holds of every character of ASCII and of all the others holds of every character. -/
theorem forall_char (holds : Char → Bool) (table : ∀ n < 0x80, holds (Char.ofNat n) = true)
    (others : ∀ c : Char, 0x80 ≤ c.toNat → holds c = true) (c : Char) : holds c = true := by
  by_cases ascii : c.toNat < 0x80
  · simpa using table c.toNat ascii
  · exact others c (by omega)

/-- No character outside ASCII is a digit. -/
theorem digitValue_of_not_ascii {c : Char} (large : 0x80 ≤ c.toNat) : digitValue c = 16 := by
  have beyond : ∀ d : Char, d.toNat < 0x80 → ¬ c ≤ d := by
    intro d ascii below
    rw [Char.le_def, UInt32.le_iff_toNat_le] at below
    simp only [Char.toNat] at large ascii
    omega
  rw [digitValue, if_neg (fun range => beyond '9' (by decide) range.2),
    if_neg (fun range => beyond 'f' (by decide) range.2),
    if_neg (fun range => beyond 'F' (by decide) range.2)]

theorem case_of_not_ascii {c : Char} (large : 0x80 ≤ c.toNat) :
    c.toLower = c ∧ c.toUpper = c := by
  constructor
  · unfold Char.toLower
    split
    next capital =>
      have : c.toNat ≤ 90 := capital.2
      omega
    next => rfl
  · unfold Char.toUpper
    split
    next letter =>
      have : c.toNat ≤ 122 := letter.2
      omega
    next => rfl

theorem digitValue_toLower (c : Char) : digitValue c.toLower = digitValue c := by
  have same := forall_char (fun d => digitValue d.toLower = digitValue d) (by decide)
    (fun d large => by simp [case_of_not_ascii large]) c
  simpa using same

theorem digitValue_digitChar : ∀ digit < 16, digitValue digit.digitChar = digit := by
  decide

theorem digitChar_digitValue {c : Char} (digit : digitValue c < 16) :
    (digitValue c).digitChar = c.toLower := by
  have same := forall_char (fun d => digitValue d < 16 → (digitValue d).digitChar = d.toLower)
    (by decide) (fun d large => by simp [digitValue_of_not_ascii large]) c
  exact of_decide_eq_true same digit

theorem isDigit_of_isDigit_ten {c : Char} (digit : isDigit 10 c = true) : c.isDigit = true := by
  have known := forall_char (fun d => isDigit 10 d = true → d.isDigit = true) (by decide)
    (fun d large => by simp [isDigit, digitValue_of_not_ascii large]) c
  exact of_decide_eq_true known digit

/-- The value of a text is that of its digits. -/
theorem value_eq_ofDigits (radix : Nat) (text : List Char) :
    value radix text = Nat.ofDigits radix (text.map digitValue).reverse := by
  rw [Nat.ofDigits_eq_foldr, List.foldr_reverse, List.foldl_map, value]
  simp [Nat.add_comm]

/-- The characters of digits are read as the digits. -/
theorem map_digitValue_of_written {text : List Char} {digits : List Nat}
    (small : ∀ digit ∈ digits, digit < 16)
    (written : text.map Char.toLower = digits.map Nat.digitChar) :
    text.map digitValue = digits := by
  calc text.map digitValue = (text.map Char.toLower).map digitValue := by
        rw [List.map_map]
        exact List.map_congr_left fun c _ => (digitValue_toLower c).symm
    _ = (digits.map Nat.digitChar).map digitValue := by rw [written]
    _ = digits.map id := by
        rw [List.map_map]
        exact List.map_congr_left fun digit member =>
          digitValue_digitChar digit (small digit member)
    _ = digits := List.map_id digits

/-- Reading a number in a radix accepts exactly the numbers. -/
theorem natural?_eq_some_iff_isNumber {radix : Nat} {text : List Char} {n : Nat}
    (small : radix ≤ 16) : natural? radix text = some n ↔ IsNumber radix text n := by
  rw [natural?_eq_some_iff, value_eq_ofDigits]
  constructor
  · rintro ⟨nonempty, digits, rfl⟩
    have inRadix : ∀ c ∈ text, digitValue c < radix := fun c inside => by
      simpa [isDigit] using digits c inside
    refine ⟨text.map digitValue, by simpa using nonempty, by simpa using inRadix, ?_, rfl⟩
    rw [List.map_map]
    apply List.map_congr_left
    intro c inside
    exact (digitChar_digitValue (Nat.lt_of_lt_of_le (inRadix c inside) small)).symm
  · rintro ⟨digits, nonempty, inRadix, written, rfl⟩
    have back := map_digitValue_of_written
      (fun digit member => Nat.lt_of_lt_of_le (inRadix digit member) small) written
    subst back
    refine ⟨by simpa using nonempty, fun c inside => ?_, rfl⟩
    simpa [isDigit] using inRadix _ (List.mem_map_of_mem inside)

theorem IsNumber.isDigit {text : List Char} {n : Nat} (number : IsNumber 10 text n) {c : Char}
    (inside : c ∈ text) : c.isDigit = true := by
  obtain ⟨_, digits, _⟩ :=
    natural?_eq_some_iff.mp ((natural?_eq_some_iff_isNumber (by decide)).mpr number)
  exact isDigit_of_isDigit_ten (digits c inside)

theorem IsNumber.nonempty {radix : Nat} {text : List Char} {n : Nat}
    (number : IsNumber radix text n) : text ≠ [] := by
  obtain ⟨digits, nonempty, _, written, _⟩ := number
  rintro rfl
  simp [nonempty] at written

end Ram.Numeral

namespace Ram.Assembly

open Numeral

/-! ## Registers -/

/-- Whether a token is `r`, an optional plus sign and a number of 64 bits in decimal. -/
inductive IsRegisterToken : List Char → Nat → Prop where
  /-- A register without a sign. -/
  | bare {digits : List Char} {n : Nat} : IsNumber 10 digits n → n ≤ 2 ^ 64 - 1 →
      IsRegisterToken ('r' :: digits) n
  /-- A register with a plus sign. -/
  | plus {digits : List Char} {n : Nat} : IsNumber 10 digits n → n ≤ 2 ^ 64 - 1 →
      IsRegisterToken ('r' :: '+' :: digits) n

/-- The number of 64 bits that some decimal digits stand for. -/
def decimal64? (digits : List Char) : Option UInt64 :=
  (natural? 10 digits).bind fun n => if n < 2 ^ 64 then some (UInt64.ofNat n) else none

theorem unsigned?_plus (digits : List Char) : unsigned? ('+' :: digits) = decimal64? digits := by
  cases read : natural? 10 digits <;> simp [unsigned?, decimal64?, read]

theorem unsigned?_bare {digits : List Char} (noSign : ∀ rest, digits ≠ '+' :: rest) :
    unsigned? digits = decimal64? digits := by
  cases read : natural? 10 digits <;> simp [unsigned?, decimal64?, read]

/-- Decimal digits are read if their number fits 64 bits. -/
theorem decimal64?_eq_some_iff {digits : List Char} {number : UInt64} :
    decimal64? digits = some number ↔
      ∃ n, IsNumber 10 digits n ∧ n ≤ 2 ^ 64 - 1 ∧ number = UInt64.ofNat n := by
  simp only [decimal64?, ← natural?_eq_some_iff_isNumber (show 10 ≤ 16 by decide)]
  cases natural? 10 digits with
  | none => simp
  | some n =>
      simp only [Option.bind_some, Option.some.injEq, exists_eq_left']
      split
      next small =>
        rw [Option.some.injEq, eq_comm]
        exact ⟨fun same => ⟨by omega, same⟩, And.right⟩
      next large =>
        simp only [reduceCtorEq, false_iff]
        rintro ⟨small, _⟩
        exact large (by omega)

/-- A register is read exactly from a register token. -/
theorem registerNumber?_eq_some_iff {token : List Char} {number : RegisterNumber} :
    registerNumber? token = some number ↔
      ∃ n, IsRegisterToken token n ∧ number = UInt64.ofNat n := by
  unfold registerNumber?
  split
  next text =>
    by_cases sign : ∃ digits, text = '+' :: digits
    · obtain ⟨digits, rfl⟩ := sign
      rw [unsigned?_plus, decimal64?_eq_some_iff]
      constructor
      · rintro ⟨n, number, small, rfl⟩
        exact ⟨n, .plus number small, rfl⟩
      · rintro ⟨n, token, rfl⟩
        cases token with
        | bare number =>
            -- a plus sign is no digit
            exact absurd (number.isDigit (.head _)) (by decide)
        | plus number small => exact ⟨n, number, small, rfl⟩
    · rw [unsigned?_bare fun rest same => sign ⟨rest, same⟩, decimal64?_eq_some_iff]
      constructor
      · rintro ⟨n, number, small, rfl⟩
        exact ⟨n, .bare number small, rfl⟩
      · rintro ⟨n, token, rfl⟩
        cases token with
        | bare number small => exact ⟨n, number, small, rfl⟩
        | plus => exact absurd ⟨_, rfl⟩ sign
  next other =>
    simp only [reduceCtorEq, false_iff]
    rintro ⟨n, token, _⟩
    cases token with
    | bare => exact other _ rfl
    | plus => exact other _ rfl

/-! ## Numerals -/

/-- Whether a text is a numeral without a sign, with the number that it stands for. -/
inductive IsMagnitude : List Char → Nat → Prop where
  /-- Hexadecimal digits after `0x`. -/
  | hexadecimal {digits : List Char} {n : Nat} : IsNumber 16 digits n →
      IsMagnitude ('0' :: 'x' :: digits) n
  /-- Binary digits after `0b`. -/
  | binary {digits : List Char} {n : Nat} : IsNumber 2 digits n →
      IsMagnitude ('0' :: 'b' :: digits) n
  /-- Decimal digits. -/
  | decimal {digits : List Char} {n : Nat} : IsNumber 10 digits n → IsMagnitude digits n

/-- Whether a text is a numeral, with its sign, true for a minus sign, and its magnitude. -/
inductive IsNumeral : List Char → Bool → Nat → Prop where
  /-- A numeral without a sign. -/
  | bare {text : List Char} {n : Nat} : IsMagnitude text n → IsNumeral text false n
  /-- A numeral with a plus sign. -/
  | plus {text : List Char} {n : Nat} : IsMagnitude text n → IsNumeral ('+' :: text) false n
  /-- A numeral with a minus sign. -/
  | minus {text : List Char} {n : Nat} : IsMagnitude text n → IsNumeral ('-' :: text) true n

/-- Whether a token is a numeral of at most 31 bits, and zero if it has a minus sign. -/
def IsLiteralToken (token : List Char) (n : Nat) : Prop :=
  ∃ negative, IsNumeral token negative n ∧ n ≤ 2 ^ 31 - 1 ∧ (negative = true → n = 0)

/-- A magnitude is read exactly if it has one of the three forms. -/
theorem magnitude?_eq_some_iff {text : List Char} {n : Nat} :
    magnitude? text = some n ↔ IsMagnitude text n := by
  unfold magnitude?
  split
  next digits =>
    rw [natural?_eq_some_iff_isNumber (by decide)]
    constructor
    · exact .hexadecimal
    · intro magnitude
      cases magnitude with
      | hexadecimal number => exact number
      | decimal number => exact absurd (number.isDigit (.tail _ (.head _))) (by decide)
  next digits =>
    rw [natural?_eq_some_iff_isNumber (by decide)]
    constructor
    · exact .binary
    · intro magnitude
      cases magnitude with
      | binary number => exact number
      | decimal number => exact absurd (number.isDigit (.tail _ (.head _))) (by decide)
  next notHexadecimal notBinary =>
    rw [natural?_eq_some_iff_isNumber (by decide)]
    constructor
    · exact .decimal
    · intro magnitude
      cases magnitude with
      | hexadecimal number => exact absurd rfl (notHexadecimal _)
      | binary number => exact absurd rfl (notBinary _)
      | decimal number => exact number

/-- A magnitude starts with a digit, in every form. -/
theorem IsMagnitude.head {text : List Char} {n : Nat} (magnitude : IsMagnitude text n) :
    ∃ c rest, text = c :: rest ∧ c.isDigit = true := by
  cases magnitude with
  | hexadecimal => exact ⟨'0', _, rfl, rfl⟩
  | binary => exact ⟨'0', _, rfl, rfl⟩
  | decimal number =>
      obtain ⟨c, rest, rfl⟩ := List.exists_cons_of_ne_nil number.nonempty
      exact ⟨c, rest, rfl, number.isDigit (.head _)⟩

/-- The text after the sign is a magnitude. -/
theorem isNumeral_iff {token : List Char} {negative : Bool} {n : Nat} :
    IsNumeral token negative n ↔
      (splitSign token).1 = negative ∧ magnitude? (splitSign token).2 = some n := by
  rw [magnitude?_eq_some_iff]
  constructor
  · intro numeral
    cases numeral with
    | bare magnitude =>
        obtain ⟨c, rest, rfl, digit⟩ := magnitude.head
        have noSign : splitSign (c :: rest) = (false, c :: rest) := by
          unfold splitSign
          split
          next same => cases same; exact absurd digit (by decide)
          next same => cases same; exact absurd digit (by decide)
          next => rfl
        simpa [noSign] using magnitude
    | plus magnitude => exact ⟨rfl, magnitude⟩
    | minus magnitude => exact ⟨rfl, magnitude⟩
  · rintro ⟨rfl, magnitude⟩
    revert magnitude
    fun_cases splitSign token with
    | case1 rest => exact .minus
    | case2 rest => exact .plus
    | case3 => exact .bare

/-- A numeral has one sign and one magnitude. -/
theorem IsNumeral.unique {token : List Char} {negative sign : Bool} {n m : Nat}
    (first : IsNumeral token negative n) (second : IsNumeral token sign m) :
    negative = sign ∧ n = m := by
  obtain ⟨rfl, magnitude⟩ := isNumeral_iff.mp first
  obtain ⟨rfl, other⟩ := isNumeral_iff.mp second
  rw [magnitude, Option.some.injEq] at other
  exact ⟨rfl, other⟩

/-- A literal is read exactly from a literal token. -/
theorem literal_eq_ok_iff {token : List Char} {value : Value} :
    literal token = .ok value ↔ ∃ n, IsLiteralToken token n ∧ value = Int64.ofNat n := by
  simp only [IsLiteralToken, isNumeral_iff]
  unfold literal
  cases magnitude? (splitSign token).2 with
  | none => simp
  | some n =>
      dsimp only
      have limit : maxLiteral = 2 ^ 31 - 1 := rfl
      have beyond : maxMagnitude = 2 ^ 63 - 1 := rfl
      constructor
      · intro read
        split at read
        next => cases read
        next =>
          split at read
          next => cases read
          next nonnegative =>
            split at read
            next => cases read
            next small =>
              cases read
              refine ⟨n, ⟨_, ⟨rfl, rfl⟩, by omega, ?_⟩, rfl⟩
              simpa using nonnegative
      · rintro ⟨_, ⟨_, ⟨rfl, same⟩, small, nonnegative⟩, rfl⟩
        cases same
        rw [if_neg (by omega), if_neg (by simpa using nonnegative), if_neg (by omega)]

/-! ## Arguments -/

theorem IsRegisterToken.looks {token : List Char} {n : Nat} (register : IsRegisterToken token n) :
    looksLikeRegister token = true := by
  rw [looksLikeRegister_iff]
  cases register with
  | bare number =>
      obtain ⟨c, rest, rfl⟩ := List.exists_cons_of_ne_nil number.nonempty
      exact ⟨c, rest, rfl, .inl (number.isDigit (.head _))⟩
  | plus number => exact ⟨'+', _, rfl, .inr (.inl rfl)⟩

/-- A literal token starts with a digit or a sign, so it is neither a register nor a label. -/
theorem IsLiteralToken.head {token : List Char} {n : Nat} (literal : IsLiteralToken token n) :
    looksLikeRegister token = false ∧ startsWithLetter token = false := by
  have first : ∃ c rest, token = c :: rest ∧ (c.isDigit = true ∨ c = '+' ∨ c = '-') := by
    obtain ⟨_, numeral, _⟩ := literal
    cases numeral with
    | bare magnitude =>
        obtain ⟨c, rest, rfl, digit⟩ := magnitude.head
        exact ⟨c, rest, rfl, .inl digit⟩
    | plus => exact ⟨'+', _, rfl, .inr (.inl rfl)⟩
    | minus => exact ⟨'-', _, rfl, .inr (.inr rfl)⟩
  obtain ⟨c, rest, rfl, marked⟩ := first
  have notLetter : c.isLower = false := by
    rcases marked with digit | rfl | rfl
    · have := forall_isDigit (fun d => !d.isLower) digit (by decide)
      simpa using this
    · decide
    · decide
  refine ⟨?_, notLetter⟩
  rw [Bool.eq_false_iff, Ne, looksLikeRegister_iff]
  rintro ⟨d, others, same, _⟩
  cases same
  exact absurd notLetter (by decide)

namespace LabelTable

variable {table : LabelTable} {token : List Char} {argument : Argument}

/-- What a token is read as: a register, a label of the table or a literal, by its own form. -/
theorem argument_eq_ok_iff (wellFormed : table.WellFormed) :
    table.argument token = .ok argument ↔
      (∃ n, IsRegisterToken token n ∧ argument = .register (UInt64.ofNat n)) ∨
      (∃ position, table.resolve (String.ofList token) = some position ∧
        argument = .label (String.ofList token) position) ∨
      ∃ n, IsLiteralToken token n ∧ argument = .literal (Int64.ofNat n) := by
  constructor
  · intro read
    rcases argument_cases read with ⟨number, known, rfl⟩ | label | ⟨value, known, rfl⟩
    · obtain ⟨n, register, rfl⟩ := registerNumber?_eq_some_iff.mp known
      exact .inl ⟨n, register, rfl⟩
    · exact .inr (.inl label)
    · obtain ⟨n, literal, rfl⟩ := literal_eq_ok_iff.mp known
      exact .inr (.inr ⟨n, literal, rfl⟩)
  · rintro (⟨n, register, rfl⟩ | ⟨position, resolved, rfl⟩ | ⟨n, literal, rfl⟩)
    · have known := registerNumber?_eq_some_iff.mpr ⟨n, register, rfl⟩
      simp [LabelTable.argument, register.looks, known]
    · have read := argument_label (wellFormed.named_of_resolve resolved) resolved
      rwa [String.toList_ofList] at read
    · obtain ⟨notRegister, notLetter⟩ := literal.head
      have read := literal_eq_ok_iff.mpr ⟨n, literal, rfl⟩
      simp [LabelTable.argument, notRegister, notLetter, read, Except.map]

end LabelTable

end Ram.Assembly
