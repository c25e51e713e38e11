import Ram.Proofs.Assembly.Token

/-!
# What every token is read as

The grammar of tokens says which tokens are arguments.  Here the other tokens have their place too:
`LabelTable.Reads` has a rule for every token and gives the argument or the error that the token
stands for.

* The first two characters decide whether a token is a register, if anything.
* Of the others, those that start with a small letter are labels, declared or not.
* All others are numerals.  A magnitude may be too large for a literal, and then the sign matters.
  Below zero every magnitude of 63 bits is reported as negative, and only a larger one is no
  numeral.

Exactly one rule fits a token and a table (`LabelTable.argument_eq_iff`), since the reader is a
function: what it gives has a rule (`reads_argument`), and what has a rule is what it gives
(`Reads.argument_eq`).
-/

namespace Ram.Assembly

open Numeral

/-! ## The rules -/

/-- Whether a token is `r` with a digit or a sign behind it. -/
def RegisterLike (token : List Char) : Prop :=
  ∃ c rest, token = 'r' :: c :: rest ∧ (c.isDigit = true ∨ c = '+' ∨ c = '-')

/-- Whether a token starts with a small letter of ASCII. -/
def LetterFirst (token : List Char) : Prop :=
  ∃ c rest, token = c :: rest ∧ 'a' ≤ c ∧ c ≤ 'z'

/-- The largest magnitude of a numeral that is not refused as such, with a minus sign or without. -/
def magnitudeLimit : Bool → Nat
  | true => 2 ^ 63 - 1
  | false => 2 ^ 31 - 1

/-- What a token is read as, where labels are those of a table. -/
inductive LabelTable.Reads (table : LabelTable) (token : List Char) :
    Except Cause Argument → Prop where
  /-- A register has a number of 64 bits. -/
  | register {n : Nat} : RegisterLike token → IsRegisterToken token n →
      Reads table token (.ok (.register (UInt64.ofNat n)))
  /-- What looks like a register is nothing else. -/
  | invalidRegister : RegisterLike token → (¬ ∃ n, IsRegisterToken token n) →
      Reads table token (.error (.invalidRegister (String.ofList token)))
  /-- A label stands for its position in the table. -/
  | label {position : Nat} : ¬ RegisterLike token → LetterFirst token →
      table.resolve (String.ofList token) = some position →
      Reads table token (.ok (.label (String.ofList token) position))
  /-- A label has to be in the table. -/
  | undefinedLabel : ¬ RegisterLike token → LetterFirst token →
      table.resolve (String.ofList token) = none →
      Reads table token (.error (.undefinedLabel (String.ofList token)))
  /-- A literal is a numeral of 31 bits, and zero if it has a minus sign. -/
  | literal {n : Nat} : ¬ RegisterLike token → ¬ LetterFirst token → IsLiteralToken token n →
      Reads table token (.ok (.literal (Int64.ofNat n)))
  /-- A numeral of 63 bits may be below zero, but not as a literal. -/
  | negativeLiteral {n : Nat} : ¬ RegisterLike token → ¬ LetterFirst token →
      IsNumeral token true n → 1 ≤ n → n ≤ 2 ^ 63 - 1 →
      Reads table token (.error (.negativeLiteral (String.ofList token)))
  /-- Other numerals are too large. -/
  | largeNumeral {negative : Bool} {n : Nat} : ¬ RegisterLike token → ¬ LetterFirst token →
      IsNumeral token negative n → magnitudeLimit negative < n →
      Reads table token (.error (.invalidNumeral (String.ofList token)))
  /-- Other tokens mean nothing. -/
  | noNumeral : ¬ RegisterLike token → ¬ LetterFirst token →
      (¬ ∃ negative n, IsNumeral token negative n) →
      Reads table token (.error (.invalidNumeral (String.ofList token)))

/-! ## The readers -/

theorem registerNumber?_eq_none_iff {token : List Char} :
    registerNumber? token = none ↔ ¬ ∃ n, IsRegisterToken token n := by
  rw [Option.eq_none_iff_forall_ne_some]
  simp only [ne_eq, registerNumber?_eq_some_iff, not_exists, not_and]
  constructor
  · intro never n register
    exact never _ n register rfl
  · intro never number n register _
    exact never n register

/-- A numeral is read by its sign and its magnitude alone. -/
theorem literal_of_isNumeral {token : List Char} {negative : Bool} {n : Nat}
    (numeral : IsNumeral token negative n) :
    literal token =
      if 2 ^ 63 - 1 < n then .error (.invalidNumeral (String.ofList token))
      else if negative = true ∧ n ≠ 0 then .error (.negativeLiteral (String.ofList token))
      else if 2 ^ 31 - 1 < n then .error (.invalidNumeral (String.ofList token))
      else .ok (Int64.ofNat n) := by
  obtain ⟨rfl, magnitude⟩ := isNumeral_iff.mp numeral
  simp only [literal, magnitude, Bool.and_eq_true, decide_eq_true_eq]
  rfl

theorem literal_of_large {token : List Char} {negative : Bool} {n : Nat}
    (numeral : IsNumeral token negative n) (large : magnitudeLimit negative < n) :
    literal token = .error (.invalidNumeral (String.ofList token)) := by
  rw [literal_of_isNumeral numeral]
  cases negative with
  | true =>
      have huge : 2 ^ 63 - 1 < n := large
      rw [if_pos huge]
  | false =>
      have unsigned : ¬ (false = true ∧ n ≠ 0) := by simp
      have large : 2 ^ 31 - 1 < n := large
      rw [if_neg unsigned, if_pos large, ite_self]

theorem literal_of_not_isNumeral {token : List Char}
    (other : ¬ ∃ negative n, IsNumeral token negative n) :
    literal token = .error (.invalidNumeral (String.ofList token)) := by
  have unread : magnitude? (splitSign token).2 = none := by
    rw [Option.eq_none_iff_forall_ne_some]
    intro n magnitude
    exact other ⟨_, n, isNumeral_iff.mpr ⟨rfl, magnitude⟩⟩
  simp only [literal, unread]

namespace LabelTable

variable {table : LabelTable} {token : List Char} {result : Except Cause Argument}

theorem reads_literal (notRegister : ¬ RegisterLike token) (notLetter : ¬ LetterFirst token) :
    table.Reads token ((literal token).map Argument.literal) := by
  by_cases form : ∃ negative n, IsNumeral token negative n
  · obtain ⟨negative, n, numeral⟩ := form
    rw [literal_of_isNumeral numeral]
    split
    next huge =>
      refine .largeNumeral notRegister notLetter numeral ?_
      cases negative with
      | false => exact Nat.lt_trans (by decide) huge
      | true => exact huge
    next fits =>
      split
      next below =>
        obtain ⟨rfl, positive⟩ := below
        exact .negativeLiteral notRegister notLetter numeral (by omega) (by omega)
      next above =>
        split
        next large =>
          refine .largeNumeral notRegister notLetter numeral ?_
          cases negative with
          | false => exact large
          | true => exact absurd ⟨rfl, by omega⟩ above
        next small =>
          refine .literal notRegister notLetter ⟨negative, numeral, by omega, fun minus => ?_⟩
          by_contra positive
          exact above ⟨minus, positive⟩
  · rw [literal_of_not_isNumeral form]
    exact .noNumeral notRegister notLetter form

/-- What the reader gives for a token has a rule. -/
theorem reads_argument (table : LabelTable) (token : List Char) :
    table.Reads token (table.argument token) := by
  unfold LabelTable.argument
  split
  next looks =>
    rw [looksLikeRegister_iff] at looks
    cases known : registerNumber? token with
    | some number =>
        obtain ⟨n, register, rfl⟩ := registerNumber?_eq_some_iff.mp known
        exact .register looks register
    | none => exact .invalidRegister looks (registerNumber?_eq_none_iff.mp known)
  next other =>
    rw [looksLikeRegister_iff] at other
    split
    next letter =>
      rw [startsWithLetter_iff] at letter
      cases known : table.resolve (String.ofList token) with
      | some position => exact .label other letter known
      | none => exact .undefinedLabel other letter known
    next mark =>
      rw [startsWithLetter_iff] at mark
      exact reads_literal other mark

/-- What has a rule is what the reader gives. -/
theorem Reads.argument_eq (reads : table.Reads token result) : table.argument token = result := by
  unfold LabelTable.argument
  cases reads with
  | register looks register =>
      have known := registerNumber?_eq_some_iff.mpr ⟨_, register, rfl⟩
      rw [if_pos (looksLikeRegister_iff.mpr looks), known]
  | invalidRegister looks unknown =>
      rw [if_pos (looksLikeRegister_iff.mpr looks), registerNumber?_eq_none_iff.mpr unknown]
  | label other letter known =>
      rw [if_neg (mt looksLikeRegister_iff.mp other), if_pos (startsWithLetter_iff.mpr letter), known]
  | undefinedLabel other letter unknown =>
      rw [if_neg (mt looksLikeRegister_iff.mp other), if_pos (startsWithLetter_iff.mpr letter),
        unknown]
  | literal other mark literal =>
      rw [if_neg (mt looksLikeRegister_iff.mp other), if_neg (mt startsWithLetter_iff.mp mark),
        literal_eq_ok_iff.mpr ⟨_, literal, rfl⟩]
      rfl
  | negativeLiteral other mark numeral positive fits =>
      rw [if_neg (mt looksLikeRegister_iff.mp other), if_neg (mt startsWithLetter_iff.mp mark),
        literal_of_isNumeral numeral, if_neg (by omega), if_pos ⟨rfl, by omega⟩]
      rfl
  | largeNumeral other mark numeral large =>
      rw [if_neg (mt looksLikeRegister_iff.mp other), if_neg (mt startsWithLetter_iff.mp mark),
        literal_of_large numeral large]
      rfl
  | noNumeral other mark form =>
      rw [if_neg (mt looksLikeRegister_iff.mp other), if_neg (mt startsWithLetter_iff.mp mark),
        literal_of_not_isNumeral form]
      rfl

/-- Argument tokens mean what they say: every token is read, with every table, as the one argument
or error that has a rule. -/
theorem argument_eq_iff (table : LabelTable) (token : List Char) (result : Except Cause Argument) :
    table.argument token = result ↔ table.Reads token result := by
  constructor
  · rintro rfl
    exact reads_argument table token
  · exact Reads.argument_eq

-- A label stands for the position of its first entry, and one that has none is refused.
example :
    let table : LabelTable := ⟨[⟨"loop", 1, 1⟩, ⟨"end", 5, 8⟩, ⟨"end", 6, 9⟩]⟩
    table.argument "end".toList = .ok (.label "end" 5) ∧
      table.argument "ends".toList = .error (.undefinedLabel "ends") := by
  decide +kernel

-- The largest magnitude below zero is reported as negative, and the next one is no numeral.
example : LabelTable.argument {} "-0x7fffffffffffffff".toList =
      .error (.negativeLiteral "-0x7fffffffffffffff") ∧
    LabelTable.argument {} "-0x8000000000000000".toList =
      .error (.invalidNumeral "-0x8000000000000000") := by
  decide +kernel

end LabelTable

end Ram.Assembly
