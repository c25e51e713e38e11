import Ram.Text.WidthTable

/-!
# Ligatures

In some scripts a sequence of letters is drawn as one glyph and takes fewer columns
than its letters do one by one.  This module describes such sequences from their
right end.  A `Ligature` is what has been read of one so far.  `endingIn?` says which
letters end one, and `extend?` says what the character before it adds.

* Arabic: a lam before an alef, with any marks between them, takes one column with it.
* Buginese: the letter a with the vowel i, joined to a ya, takes one column.
* Hebrew: an alef joined to a lamed takes one column.
* Khmer: a sign coeng puts the letter behind it below the letter before it, so the two
  take no column.  The letters whose lower form needs room of its own are left out.
* Lisu: two tone letters, a high one and a low one, take one column.
* Old Turkic: the letter ec joined to an i takes one column.
* Tifinagh: two consonants with a consonant joiner or a zero width joiner between them
  take one column.

Outside Arabic the zero width joiner and the marks that a display ignores may stand
anywhere in such a sequence.
-/

namespace Ram.Text

/-- The zero width joiner, which asks for its two neighbours to be drawn as one. -/
def joiner : Char := '\u200D'

/-- What has been read of a ligature from its right end. -/
inductive Ligature where
  /-- An Arabic alef. -/
  | alef
  /-- A Buginese ya, with or without a joiner before it. -/
  | ya (joined : Bool)
  /-- A Buginese vowel i joined to a ya. -/
  | vowelYa
  /-- A Hebrew lamed, with or without a joiner before it. -/
  | lamed (joined : Bool)
  /-- A Khmer letter that fits below another one. -/
  | khmer
  /-- A low tone letter of Lisu. -/
  | lisu
  /-- An Old Turkic i, with or without a joiner before it. -/
  | orkhonI (joined : Bool)
  /-- A Tifinagh consonant, with or without a zero width joiner before it. -/
  | tifinagh (joined : Bool)
  /-- A Tifinagh consonant joiner and a consonant. -/
  | tifinaghJoiner
deriving DecidableEq, Repr

/-- The Arabic letters of the shape of alef. -/
def alefRanges : CodeRanges :=
  [
    (0x622, 0x623), (0x625, 0x625), (0x627, 0x627), (0x671, 0x673), (0x675, 0x675), (0x773, 0x774),
    (0x870, 0x882)]

/-- The Arabic letters of the shape of lam. -/
def lamRanges : CodeRanges :=
  [(0x644, 0x644), (0x6B5, 0x6B8), (0x76A, 0x76A), (0x8A6, 0x8A6), (0x8C7, 0x8C7)]

/-- The Khmer letters whose lower form fits below the letter before them. -/
def khmerRanges : CodeRanges :=
  [
    (0x1780, 0x1782), (0x1784, 0x1787), (0x1789, 0x178C), (0x178E, 0x1793), (0x1795, 0x1798),
    (0x179B, 0x179D), (0x17A0, 0x17A0), (0x17A2, 0x17A2), (0x17A7, 0x17A7), (0x17AB, 0x17AC),
    (0x17AF, 0x17AF)]

/-- The consonants of Tifinagh. -/
def tifinaghRanges : CodeRanges := [(0x2D31, 0x2D65), (0x2D6F, 0x2D6F)]

/-- The marks that a display ignores. -/
def ignoredMarkRanges : CodeRanges :=
  [
    (0x34F, 0x34F), (0x17B4, 0x17B5), (0x180B, 0x180D), (0x180F, 0x180F), (0xFE00, 0xFE0F),
    (0xE0100, 0xE01EF)]

namespace Ligature

/-- The ligature that a letter ends, if it can end one. -/
def endingIn? (c : Char) : Option Ligature :=
  match c.toNat with
  | 0x5DC => some (.lamed false)
  | 0x1A10 => some (.ya false)
  | 0xA4FC | 0xA4FD => some .lisu
  | 0x10C03 => some (.orkhonI false)
  | _ =>
    if alefRanges.holds c then some .alef
    else if khmerRanges.holds c then some .khmer
    else if tifinaghRanges.holds c then some (.tifinagh false)
    else none

/-- The ligature with a zero width joiner before it. -/
def join : Ligature → Ligature
  | .ya _ => .ya true
  | .lamed _ => .lamed true
  | .orkhonI _ => .orkhonI true
  | .tifinagh _ => .tifinagh true
  | other => other

/-- Whether a mark stands between two Arabic letters without parting them. -/
def isArabicMark (c : Char) : Bool := zeroWidthRanges.holds c && !partingRanges.holds c

/-- The letters and signs that go on with a ligature outside Arabic: the columns that
the character adds and what has been read of the ligature with it.  A ligature that
is complete leaves nothing to go on with. -/
def extendBy? : Ligature → Char → Option (Int × Option Ligature)
  | .ya true, c => if c.toNat = 0x1A17 then some (0, some .vowelYa) else none
  | .vowelYa, c => if c.toNat = 0x1A15 then some (0, none) else none
  | .lamed true, c => if c.toNat = 0x5D0 then some (0, none) else none
  | .khmer, c => if c.toNat = 0x17D2 then some (-1, none) else none
  | .lisu, c => if 0xA4F8 ≤ c.toNat ∧ c.toNat ≤ 0xA4FB then some (0, none) else none
  | .orkhonI true, c => if c.toNat = 0x10C32 then some (0, none) else none
  | .tifinagh joined, c =>
    if c.toNat = 0x2D7F then some (1, some .tifinaghJoiner)
    else if joined && tifinaghRanges.holds c then some (0, none)
    else none
  | .tifinaghJoiner, c => if tifinaghRanges.holds c then some (-1, none) else none
  | _, _ => none

/-- What the character before a ligature adds to it, if it belongs to it. -/
def extend? : Ligature → Char → Option (Int × Option Ligature)
  | .alef, c =>
    if lamRanges.holds c then some (0, none)
    else if isArabicMark c then some (0, some .alef)
    else none
  | right, c =>
    if c = joiner then some (0, some right.join)
    else if ignoredMarkRanges.holds c then some (0, some right)
    else right.extendBy? c

end Ligature

end Ram.Text
