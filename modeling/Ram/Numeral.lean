/-!
# Numerals

Numbers as text, in both directions.

*Writing.*  A number is written in decimal with no leading zeros, and a negative
one has a minus sign in front.  A byte is written in hexadecimal with at least two
digits after `0x`.

*Reading.*  `natural?` reads an unsigned number in a given radix.  Every character
has to be a digit of that radix and there has to be one.  Leading zeros are
allowed and the number may be of any size.  Hexadecimal digits may have either
case.  `unsigned?` and `signed?` read decimal numbers of 64 bits with a sign in
front.
-/

namespace Ram.Numeral

/-! ## Writing -/

/-- A natural number in decimal. -/
def decimal (n : Nat) : String := String.ofList (Nat.toDigits 10 n)

/-- An integer in decimal. -/
def integer : Int → String
  | .ofNat n => decimal n
  | .negSucc n => "-" ++ decimal (n + 1)

/-- A byte in hexadecimal, with at least two digits. -/
def byte (b : UInt8) : String :=
  String.ofList ('0' :: 'x' :: Nat.toDigits 16 (b.toNat / 16) ++ Nat.toDigits 16 (b.toNat % 16))

@[simp] theorem toList_decimal (n : Nat) : (decimal n).toList = Nat.toDigits 10 n := by
  simp [decimal]

/-! ## Reading -/

/-- The value of a digit, which is at least 16 when the character is no digit. -/
def digitValue (c : Char) : Nat :=
  if '0' ≤ c ∧ c ≤ '9' then c.toNat - '0'.toNat
  else if 'a' ≤ c ∧ c ≤ 'f' then c.toNat - 'a'.toNat + 10
  else if 'A' ≤ c ∧ c ≤ 'F' then c.toNat - 'A'.toNat + 10
  else 16

/-- Whether a character is a digit of the radix. -/
def isDigit (radix : Nat) (c : Char) : Bool := digitValue c < radix

/-- The number that a list of digits stands for, the most significant first. -/
def value (radix : Nat) (digits : List Char) : Nat :=
  digits.foldl (fun n c => radix * n + digitValue c) 0

/-- The number that a text stands for, if it is a non-empty list of digits. -/
def natural? (radix : Nat) (text : List Char) : Option Nat :=
  if text ≠ [] ∧ text.all (isDigit radix) then some (value radix text) else none

/-- A text is a natural number exactly when it is a non-empty list of digits. -/
theorem natural?_eq_some_iff {radix : Nat} {text : List Char} {n : Nat} :
    natural? radix text = some n ↔
      text ≠ [] ∧ (∀ c ∈ text, isDigit radix c = true) ∧ value radix text = n := by
  unfold natural?
  split
  next h => simp_all
  next h =>
    simp only [List.all_eq_true, not_and] at h
    simp only [reduceCtorEq, false_iff]
    rintro ⟨nonempty, digits, _⟩
    exact h nonempty digits

/-- An unsigned number of 64 bits in decimal, with an optional plus sign. -/
def unsigned? (text : List Char) : Option UInt64 :=
  let digits := match text with
    | '+' :: digits => digits
    | digits => digits
  match natural? 10 digits with
  | some n => if n < 0x10000000000000000 then some (UInt64.ofNat n) else none
  | none => none

/-- A signed number of 64 bits in decimal, with an optional sign. -/
def signed? (text : List Char) : Option Int64 :=
  match text with
  | '-' :: digits =>
    match natural? 10 digits with
    | some n => if n ≤ 0x8000000000000000 then some (Int64.ofInt (-n)) else none
    | none => none
  | '+' :: digits => positive? digits
  | digits => positive? digits
where
  /-- The number of 64 bits that a list of digits stands for. -/
  positive? (digits : List Char) : Option Int64 :=
    match natural? 10 digits with
    | some n => if n < 0x8000000000000000 then some (Int64.ofNat n) else none
    | none => none

end Ram.Numeral
