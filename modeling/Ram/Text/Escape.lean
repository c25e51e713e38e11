import Ram.Text.Width

/-!
# Colour sequences

A terminal does not show a sequence that sets a colour.  Such a sequence is an escape
character, an opening bracket and everything up to the next `m`, and one without an
`m` runs to the end of the line.  `shownWidth` is the width of a line without the
columns of these sequences.  Every character from the bracket to the `m` that has a
width takes one column back, and the escape character keeps its own.
-/

namespace Ram.Text

/-- Where a reader of a line stands with regard to colour sequences. -/
inductive EscapeState where
  /-- In shown text. -/
  | shown
  /-- Behind an escape character. -/
  | escape
  /-- Behind the opening bracket of a sequence. -/
  | hidden
deriving DecidableEq, Repr

/-- Whether a character is a control character. -/
def isControl (c : Char) : Bool := c.toNat < 0x20 || (0x7F ≤ c.toNat && c.toNat < 0xA0)

/-- The columns that a character in a colour sequence takes back. -/
def hiddenColumn (c : Char) : Nat := if isControl c || charWidth c = 0 then 0 else 1

/-- The columns that the colour sequences of a line take back, read from a state. -/
def hiddenFrom : EscapeState → List Char → Nat
  | _, [] => 0
  | .shown, c :: rest => hiddenFrom (if c = '\x1b' then .escape else .shown) rest
  | .escape, c :: rest =>
    if c = '[' then hiddenColumn c + hiddenFrom .hidden rest else hiddenFrom .shown rest
  | .hidden, c :: rest =>
    hiddenColumn c + hiddenFrom (if c = 'm' then .shown else .hidden) rest

/-- The number of columns of a line that a terminal shows. -/
def shownWidth (line : String) : Nat := width line - hiddenFrom .shown line.toList

end Ram.Text
