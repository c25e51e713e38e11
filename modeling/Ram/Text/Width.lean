import Ram.Text.EmojiSequence

/-!
# The width of text in columns

A table lines its columns up by the width that a text takes on a terminal.  Most
characters take one column, a control character among them.  Ideographs, emoji and
the other wide characters of East Asia take two.  Combining marks and the characters
that a display ignores take none.

The width of a text is the sum of the widths of its characters, except where several
of them are drawn as one: in a ligature, in a sequence of emoji, and where a style
selector behind a sign asks for its text form, of one column, or for its emoji form,
of two.  What a character adds depends on what stands right of it.  So `width` reads
a text from its right end and keeps its left *edge*, the beginning of what has been
read as far as it bears on the character before it.
-/

namespace Ram.Text

/-- The two forms of a sign that has an emoji form. -/
inductive Style where
  /-- The form in the colour of the text. -/
  | text
  /-- The coloured form. -/
  | emoji
deriving DecidableEq, Repr

/-- What a text begins with, as far as it bears on the character before it. -/
inductive Context where
  /-- Nothing that joins with the character before it. -/
  | plain
  /-- The end of a ligature. -/
  | ligature (right : Ligature)
  /-- The end of a sequence of emoji. -/
  | emoji (right : EmojiSequence)
deriving DecidableEq, Repr

/-- The left edge of a text. -/
structure Edge where
  /-- What the text begins with behind its style selector. -/
  context : Context := .plain
  /-- The form that a style selector at the beginning of the text asks for. -/
  style : Option Style := none
deriving DecidableEq, Repr

/-- Whether a character takes one column and joins with nothing right of it: the control
characters, printable ASCII and the lines of a table. -/
def isPlain (c : Char) : Bool := c.toNat ≤ 0xA0 || ('─' ≤ c && c ≤ '╿')

/-- The number of columns a character takes by itself.  The sign `U+17D8` is a word of
three letters. -/
def charWidth (c : Char) : Nat :=
  if isPlain c then 1
  else if c.toNat = 0x17D8 then 3
  else if zeroWidthRanges.holds c then 0
  else if wideRanges.holds c then 2
  else 1

/-- Whether a character has an emoji form by itself and a text form of one column.  The
ideographs in a square are as wide in both forms. -/
def hasNarrowForm (c : Char) : Bool :=
  styledRanges.holds c && emojiRanges.holds c && !(0x1F200 ≤ c.toNat && c.toNat < 0x1F300)

namespace Context

/-- What a character is to the one before it. -/
def endingIn (c : Char) : Context :=
  match Ligature.endingIn? c, EmojiSequence.endingIn? c with
  | some right, _ => .ligature right
  | none, some right => .emoji right
  | none, none => .plain

/-- What the character before a context adds to it, if it joins with it. -/
def extend? : Context → Char → Option (Int × Context)
  | .plain, _ => none
  | .ligature right, c =>
    (right.extend? c).map fun (columns, left) => (columns, left.elim .plain .ligature)
  | .emoji right, c => (right.extend? c).map fun (columns, left) => (columns, .emoji left)

/-- Whether the context is a joiner and an emoji, or a keycap joined to one, so that the
emoji form of a sign goes on with it. -/
def isJoined : Context → Bool
  | .emoji .joined => true
  | .emoji .joinedKeycap => true
  | _ => false

/-- What remains of the context behind a style selector: a ligature goes on, and so does
a sequence of emoji if the selector asks for the emoji form. -/
def behind : Context → Style → Context
  | .ligature right, _ => .ligature right
  | context, .emoji => if context.isJoined then context else .plain
  | _, .text => .plain

end Context

namespace Edge

/-- The context of an edge for a character that its style selector does not fit. -/
def bare (edge : Edge) : Context :=
  match edge.style, edge.context with
  | none, context => context
  | some _, .ligature right => .ligature right
  | some _, _ => .plain

/-- What a character before an edge adds in columns, and the edge with it. -/
def put (edge : Edge) (c : Char) : Int × Edge :=
  if edge.style = some .emoji ∧ styledRanges.holds c then
    (if edge.context.isJoined then 0 else 2, { context := .emoji .emoji })
  else if isPlain c then (1, {})
  else if c = '\uFE0F' then (0, ⟨edge.bare.behind .emoji, some .emoji⟩)
  else if c = '\uFE0E' then (0, ⟨edge.bare.behind .text, some .text⟩)
  else if edge.style = some .text ∧ hasNarrowForm c then (1, {})
  else
    match edge.bare.extend? c with
    | some (columns, context) => (columns, { context })
    | none => (charWidth c, { context := .endingIn c })

end Edge

/-- The extent of a text: its columns and its left edge. -/
def extent (text : List Char) : Int × Edge :=
  text.foldr (fun c (columns, edge) => let (more, edge) := edge.put c; (columns + more, edge))
    (0, {})

/-- The number of columns a text takes. -/
def width (text : String) : Nat := (extent text.toList).1.toNat

end Ram.Text
