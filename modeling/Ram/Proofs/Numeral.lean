import Ram.Numeral

/-!
# Numerals read back

A number in decimal is read back as the number.  The digits of a numeral are digits of
ASCII, and `forall_isDigit` turns a check of the ten digits into a fact about all of them.
-/

namespace Ram.Numeral

/-- What holds of every digit from the first to the last holds of every digit character. -/
theorem forall_isDigit (holds : Char → Bool) {c : Char} (digit : c.isDigit = true)
    (table : ∀ n < 10, holds (Char.ofNat (48 + n)) = true) : holds c = true := by
  have bounds : 48 ≤ c.toNat ∧ c.toNat ≤ 57 := by
    simpa [Char.isDigit, UInt32.le_iff_toNat_le] using digit
  have : 48 + (c.toNat - 48) = c.toNat := by omega
  have found := table (c.toNat - 48) (by omega)
  rwa [this, Char.ofNat_toNat] at found

theorem digitValue_of_isDigit {c : Char} (digit : c.isDigit = true) :
    digitValue c = c.toNat - '0'.toNat := by
  have agree := forall_isDigit (fun d => digitValue d = d.toNat - '0'.toNat) digit (by decide)
  simpa using agree

theorem isDigit_ten_of_isDigit {c : Char} (digit : c.isDigit = true) : isDigit 10 c = true :=
  forall_isDigit (isDigit 10) digit (by decide)

theorem isDigit_of_mem_toDigits {n : Nat} {c : Char} (member : c ∈ Nat.toDigits 10 n) :
    c.isDigit = true :=
  Nat.isDigit_of_mem_toDigits (by decide) (by decide) member

/-- On decimal digits the value is the one that the standard library gives. -/
theorem foldl_digitValue :
    ∀ {digits : List Char} (start : Nat), (∀ c ∈ digits, c.isDigit = true) →
      digits.foldl (fun n c => 10 * n + digitValue c) start = Nat.ofDigitChars 10 digits start
  | [], _, _ => rfl
  | c :: rest, start, decimal => by
      rw [List.foldl_cons, Nat.ofDigitChars_cons, digitValue_of_isDigit (decimal c (.head _)),
        foldl_digitValue _ fun d member => decimal d (.tail c member)]

/-- A number is read back from its digits. -/
@[simp] theorem natural?_toDigits (n : Nat) : natural? 10 (Nat.toDigits 10 n) = some n := by
  rw [natural?_eq_some_iff]
  refine ⟨Nat.toDigits_ne_nil, ?_, ?_⟩
  · intro c member
    exact isDigit_ten_of_isDigit (isDigit_of_mem_toDigits member)
  · rw [value, foldl_digitValue 0 fun c member => isDigit_of_mem_toDigits member,
      Nat.ofDigitChars_ten_toDigits]

theorem toDigits_eq_cons (n : Nat) :
    ∃ c rest, Nat.toDigits 10 n = c :: rest ∧ c.isDigit = true := by
  obtain ⟨c, rest, digits⟩ := List.exists_cons_of_ne_nil (Nat.toDigits_ne_nil (n := n) (b := 10))
  refine ⟨c, rest, digits, ?_⟩
  apply isDigit_of_mem_toDigits (n := n)
  rw [digits]
  exact .head _

@[simp] theorem unsigned?_toDigits (n : UInt64) :
    unsigned? (Nat.toDigits 10 n.toNat) = some n := by
  obtain ⟨c, rest, digits, digit⟩ := toDigits_eq_cons n.toNat
  have read : natural? 10 (c :: rest) = some n.toNat := by rw [← digits, natural?_toDigits]
  have small := n.toNat_lt
  rw [digits, unsigned?, read]
  · show (if n.toNat < 0x10000000000000000 then some (UInt64.ofNat n.toNat) else none) = some n
    rw [if_pos (by omega), UInt64.ofNat_toNat]
  · -- The plus sign is no digit, so nothing is stripped.
    intro inner same
    cases same
    exact absurd digit (by decide)

/-- An integer that is not negative is written without a sign. -/
theorem toList_integer_of_nonneg {n : Int} (nonneg : 0 ≤ n) :
    (integer n).toList = Nat.toDigits 10 n.toNat := by
  cases n with
  | ofNat n => simp [integer]
  | negSucc n => omega

end Ram.Numeral
