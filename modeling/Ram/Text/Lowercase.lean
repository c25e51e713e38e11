import Ram.Text.CaseTable

/-!
# Lowercase text

`lowercase` sends a text to its lowercase form.  Every character has a lowercase
form of its own but two.  The dotted capital `İ` becomes two characters, the
letter `i` and the combining dot `U+0307`.  The capital sigma `Σ` has two small
letters, and which one it becomes depends on the text around it: `ς` when it ends
a word, `σ` otherwise.

A sigma *ends a word* when a cased letter comes before it and none comes after
it, where case-ignorable characters are skipped on both sides.  So the definition
walks over the text and keeps what it has passed, the nearest character first.
-/

namespace Ram.Text

/-- Whether a character is a letter with case that no test skips. -/
def isCased (c : Char) : Bool := casedRanges.holds c

/-- Whether a character is skipped when looking for the end of a word. -/
def isCaseIgnorable (c : Char) : Bool := caseIgnorableRanges.holds c

/-- The simple lowercase form of a code point outside ASCII. -/
def lowerCode (code : Nat) : Nat :=
  match lowercaseRuns.find? (·.covers code) with
  | some run => run.lower code
  | none => code

/-- The lowercase form of a character outside any context. -/
def lowerChar (c : Char) : List Char :=
  if c.toNat < 0x80 then [c.toLower]
  else if c = 'İ' then ['i', '\u0307']
  else [Char.ofNat (lowerCode c.toNat)]

/-- Whether the nearest character that is not case-ignorable is cased. -/
def meetsCased (text : List Char) : Bool :=
  match text.dropWhile isCaseIgnorable with
  | [] => false
  | c :: _ => isCased c

/-- Whether a sigma between the two texts ends a word.  The first one is what
comes before it, read backwards. -/
def endsWord (before after : List Char) : Bool :=
  meetsCased before && !meetsCased after

/-- The lowercase form of a character between two texts, the first one read
backwards. -/
def lowerBetween (before : List Char) (c : Char) (after : List Char) : List Char :=
  if c = 'Σ' then [if endsWord before after then 'ς' else 'σ'] else lowerChar c

/-- The lowercase form of a text that follows another one, read backwards. -/
def lowerAfter (before : List Char) : List Char → List Char
  | [] => []
  | c :: rest => lowerBetween before c rest ++ lowerAfter (c :: before) rest

/-- The lowercase form of a text. -/
def lowercase (text : List Char) : List Char := lowerAfter [] text

@[simp] theorem lowerAfter_nil (before : List Char) : lowerAfter before [] = [] := rfl

@[simp] theorem lowerAfter_cons (before : List Char) (c : Char) (rest : List Char) :
    lowerAfter before (c :: rest) =
      lowerBetween before c rest ++ lowerAfter (c :: before) rest := rfl

end Ram.Text
