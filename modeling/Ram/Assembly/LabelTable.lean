import Ram.Assembly.Error
import Ram.Assembly.SourceLine

/-!
# Label tables

A label table remembers the labels declared so far, in the order of their first
declarations.  It answers two questions: which position a name stands for, and which
names stand for a position.

A name is declared once.  Declaring it again for the same position changes nothing,
and declaring it for another one is an error that points at the first declaration.

A *label name* starts with a small letter of ASCII, holds no blank and no colon, and
does not look like a register.  A text looks like a register when it is `r` followed
by a digit or a sign, whatever comes after.
-/

namespace Ram.Assembly

open Text

/-- Whether a text is `r` followed by a digit or a sign. -/
def looksLikeRegister : List Char → Bool
  | 'r' :: c :: _ => c.isDigit || c == '+' || c == '-'
  | _ => false

/-- Whether a text starts with a small letter of ASCII. -/
def startsWithLetter : List Char → Bool
  | c :: _ => c.isLower
  | [] => false

/-- Whether a text is a name for a label. -/
def isLabelName (text : List Char) : Bool :=
  startsWithLetter text && !text.any isBlank && !text.contains ':' && !looksLikeRegister text

/-- The labels declared so far. -/
structure LabelTable where
  /-- The first declaration of each label, in order. -/
  entries : List Declaration := []
deriving DecidableEq, Repr

namespace LabelTable

/-- The first declaration of a name. -/
def find? (table : LabelTable) (name : String) : Option Declaration :=
  table.entries.find? fun entry => entry.name = name

/-- The position that a name stands for. -/
def resolve (table : LabelTable) (name : String) : Option Nat :=
  (table.find? name).map Declaration.position

/-- The names that stand for a position, in the order of their declarations. -/
def attachedTo (table : LabelTable) (position : Nat) : List String :=
  (table.entries.filter fun entry => entry.position = position).map Declaration.name

/-- The table after one more declaration. -/
def declare (table : LabelTable) (declaration : Declaration) : Except Error LabelTable :=
  if !isLabelName declaration.name.toList then
    .error ⟨declaration.line, .invalidLabel declaration.name⟩
  else
    match table.find? declaration.name with
    | none => .ok ⟨table.entries ++ [declaration]⟩
    | some first =>
      if first.position = declaration.position then .ok table
      else .error ⟨declaration.line, .duplicateLabel declaration.name first.line⟩

/-- The table of some declarations. -/
def ofDeclarations (declarations : List Declaration) : Except Error LabelTable :=
  declarations.foldlM declare {}

end LabelTable

end Ram.Assembly
