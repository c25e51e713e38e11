import Ram.Text.Ligature

/-!
# Sequences of emoji

A sequence of emoji that belong together is drawn as one emoji and takes two columns.
Like a ligature it is described from its right end.  `EmojiSequence` is what has been
read of one so far, `endingIn?` says which characters end one and `extend?` says what
the character before it adds.

* An emoji and a skin tone that colours it.
* Two letters of a flag, which take a column each also when they stand alone.
* Emoji with a zero width joiner between them.  Each of them may be an emoji with a
  skin tone, a flag, a keycap or a flag with a name in tags behind it.

A name in tags has three to six letters, or three digits and then at most four letters.
The selector that asks for the emoji form of a sign is not handled here, since it may
also stand between the letters of a ligature.
-/

namespace Ram.Text

/-- What has been read of a sequence of emoji from its right end. -/
inductive EmojiSequence where
  /-- An emoji. -/
  | emoji
  /-- A skin tone. -/
  | tone
  /-- One letter of a flag. -/
  | flagLetter
  /-- Two or more letters of flags. -/
  | flagLetters
  /-- A joiner and an emoji. -/
  | joined
  /-- A keycap joined to an emoji. -/
  | joinedKeycap
  /-- One letter of a flag joined to an emoji. -/
  | joinedFlagLetter
  /-- An even number of letters of flags joined to an emoji. -/
  | joinedFlags
  /-- An odd number of letters of flags, three or more, joined to an emoji. -/
  | joinedFlagsAndLetter
  /-- The end of a name in tags joined to an emoji, with its letters and digits so far. -/
  | joinedTags (letters digits : Nat)
deriving DecidableEq, Repr

/-- Whether a character is a letter of a flag. -/
def isFlagLetter (c : Char) : Bool := 0x1F1E6 ≤ c.toNat && c.toNat ≤ 0x1F1FF

/-- Whether a character is a skin tone. -/
def isTone (c : Char) : Bool := 0x1F3FB ≤ c.toNat && c.toNat ≤ 0x1F3FF

/-- Whether a character is a letter of a name in tags. -/
def isTagLetter (c : Char) : Bool := 0xE0061 ≤ c.toNat && c.toNat ≤ 0xE007A

/-- Whether a character is a digit of a name in tags. -/
def isTagDigit (c : Char) : Bool := 0xE0030 ≤ c.toNat && c.toNat ≤ 0xE0039

namespace EmojiSequence

/-- The sequence that a character ends, if it can end one. -/
def endingIn? (c : Char) : Option EmojiSequence :=
  if isFlagLetter c then some .flagLetter
  else if isTone c then some .tone
  else if emojiRanges.holds c then some .emoji
  else none

/-- What the character before a sequence adds to it, if it belongs to it: the columns
that it adds and what has been read with it. -/
def extend? : EmojiSequence → Char → Option (Int × EmojiSequence)
  | .emoji, c => if c = joiner then some (0, .joined) else none
  | .tone, c =>
    if toneBaseRanges.holds c then some (0, .emoji)
    else if c = joiner then some (0, .joined)
    else none
  | .flagLetter, c => if isFlagLetter c then some (1, .flagLetters) else none
  | .flagLetters, c =>
    if isFlagLetter c then some (1, .flagLetters)
    else if c = joiner then some (0, .joined)
    else none
  | .joined, c =>
    if c.toNat = 0x20E3 then some (0, .joinedKeycap)
    else if isFlagLetter c then some (1, .joinedFlagLetter)
    else if isTone c then some (0, .tone)
    else if c.toNat = 0xE007F then some (0, .joinedTags 0 0)
    else if emojiRanges.holds c then some (0, .emoji)
    else none
  | .joinedKeycap, _ => none
  | .joinedFlagLetter, c => if isFlagLetter c then some (-1, .joinedFlags) else none
  | .joinedFlags, c =>
    if isFlagLetter c then some (3, .joinedFlagsAndLetter)
    else if c = joiner then some (0, .joined)
    else none
  | .joinedFlagsAndLetter, c =>
    if isFlagLetter c then some (-1, .joinedFlags)
    else if c = joiner then some (0, .joined)
    else none
  | .joinedTags letters digits, c =>
    if isTagLetter c then
      if digits = 0 ∧ letters < 6 then some (0, .joinedTags (letters + 1) 0) else none
    else if isTagDigit c then
      if letters ≤ 4 ∧ digits < 3 then some (0, .joinedTags letters (digits + 1)) else none
    else if c.toNat = 0x1F3F4 then
      if (3 ≤ letters ∧ digits = 0) ∨ digits = 3 then some (0, .emoji) else none
    else none

end EmojiSequence

end Ram.Text
