import Ram.Assembly.LabelTable

/-!
# Argument tokens

A token of a statement is read as an argument by its first characters.

* A token that looks like a register is one.  It is `r`, an optional plus sign and
  decimal digits, and its number has to fit 64 bits.
* A token that starts with a small letter is a label, which has to be declared.
* Every other token is a numeral: an optional sign, then digits in hexadecimal after
  `0x`, in binary after `0b`, or in decimal.

A literal is not negative and fits 31 bits.  A magnitude that does not fit 63 bits is
no numeral at all, whatever its sign, so it is not reported as negative.
-/

namespace Ram.Assembly

/-- The number of a register token. -/
def registerNumber? : List Char → Option RegisterNumber
  | 'r' :: digits => Numeral.unsigned? digits
  | _ => none

/-- The sign of a numeral, true for a minus sign, and the text after the sign. -/
def splitSign : List Char → Bool × List Char
  | '-' :: rest => (true, rest)
  | '+' :: rest => (false, rest)
  | text => (false, text)

/-- The number that a numeral without a sign stands for. -/
def magnitude? : List Char → Option Nat
  | '0' :: 'x' :: digits => Numeral.natural? 16 digits
  | '0' :: 'b' :: digits => Numeral.natural? 2 digits
  | digits => Numeral.natural? 10 digits

/-- The largest literal. -/
def maxLiteral : Nat := 0x7FFFFFFF

/-- The largest magnitude of a numeral. -/
def maxMagnitude : Nat := 0x7FFFFFFFFFFFFFFF

/-- The literal that a token stands for. -/
def literal (token : List Char) : Except Cause Value :=
  match magnitude? (splitSign token).2 with
  | none => .error (.invalidNumeral (String.ofList token))
  | some n =>
    if maxMagnitude < n then .error (.invalidNumeral (String.ofList token))
    else if (splitSign token).1 && n ≠ 0 then .error (.negativeLiteral (String.ofList token))
    else if maxLiteral < n then .error (.invalidNumeral (String.ofList token))
    else .ok (Int64.ofNat n)

/-- The argument that a token stands for, where labels are those of a table. -/
def LabelTable.argument (table : LabelTable) (token : List Char) : Except Cause Argument :=
  if looksLikeRegister token then
    match registerNumber? token with
    | some number => .ok (.register number)
    | none => .error (.invalidRegister (String.ofList token))
  else if startsWithLetter token then
    match table.resolve (String.ofList token) with
    | some position => .ok (.label (String.ofList token) position)
    | none => .error (.undefinedLabel (String.ofList token))
  else (literal token).map Argument.literal

end Ram.Assembly
