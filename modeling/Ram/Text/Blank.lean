import Ram.Text.CodeRange

/-!
# Blank characters, trimming and words

Blank characters separate the words of a line and are trimmed at its ends.  They
are the characters with the Unicode property White_Space.  The information
separators `U+001C` to `U+001F`, the zero width space `U+200B` and the byte order
mark `U+FEFF` do not have it, so they are ordinary characters here.

*Trimming* drops the blanks at the two ends.  The *words* of a text are its
maximal runs of characters that are not blank.
-/

namespace Ram.Text

/-- The code points with the property White_Space. -/
def blankRanges : CodeRanges :=
  [(0x9, 0xD), (0x20, 0x20), (0x85, 0x85), (0xA0, 0xA0), (0x1680, 0x1680),
   (0x2000, 0x200A), (0x2028, 0x2029), (0x202F, 0x202F), (0x205F, 0x205F),
   (0x3000, 0x3000)]

/-- Whether a character is blank. -/
def isBlank (c : Char) : Bool := blankRanges.holds c

/-- The text without its leading blanks. -/
def trimStart (text : List Char) : List Char := text.dropWhile isBlank

/-- The text without its trailing blanks. -/
def trimEnd (text : List Char) : List Char := (text.reverse.dropWhile isBlank).reverse

/-- The text without its leading and trailing blanks. -/
def trim (text : List Char) : List Char := trimEnd (trimStart text)

/-- The maximal runs of characters that are not blank, in order. -/
def words (text : List Char) : List (List Char) :=
  (text.splitOnP isBlank).filter fun word => !word.isEmpty

@[simp] theorem words_nil : words [] = [] := rfl

end Ram.Text
