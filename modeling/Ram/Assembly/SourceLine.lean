import Ram.Text.Blank
import Ram.Text.Lowercase

/-!
# Lines of assembly

A source is a text of lines that a newline divides.  A line is read in lowercase,
without the blanks at its ends and without its comment, which starts at the first
semicolon.  The text before each colon is a label and the text after the last one is
the body.  A line may have any number of labels, and its body may be empty.

The whole line is lowercased before the comment is cut, so a sigma right before a
semicolon is seen in front of the comment.

Two views of the lines matter for assembly.  The *declarations* are the labels, each
with its line and with the position of the instruction that follows it.  The
*statements* are the bodies that are not empty, each with its line.  The position of
a declaration is one more than the number of statements before its line.
-/

namespace Ram.Assembly

open Text

/-- A line of assembly taken apart. -/
structure SourceLine where
  /-- The labels that are not empty, in order. -/
  labels : List (List Char)
  /-- What follows the last label. -/
  body : List Char
deriving DecidableEq, Repr

/-- A line in lowercase, without its comment and without blanks at its ends. -/
def SourceLine.significant (raw : List Char) : List Char :=
  trim ((lowercase (trim raw)).takeWhile (· ≠ ';'))

/-- The pieces of a line between its colons, without blanks at their ends. -/
def SourceLine.segments (raw : List Char) : List (List Char) :=
  ((significant raw).splitOn ':').map trim

/-- A line taken apart. -/
def SourceLine.read (raw : List Char) : SourceLine :=
  { labels := (segments raw).dropLast.filter fun label => !label.isEmpty
    body := (segments raw).getLastD [] }

/-- The lines of a source, taken apart. -/
def sourceLines (source : List Char) : List SourceLine :=
  (source.splitOn '\n').map SourceLine.read

/-- A label with the place of its declaration. -/
structure Declaration where
  /-- The name of the label. -/
  name : String
  /-- The position of the instruction that follows the declaration. -/
  position : Nat
  /-- The line of the declaration. -/
  line : Nat
deriving DecidableEq, Repr

/-- The body of a line, with the number of the line. -/
structure Statement where
  /-- The number of the line. -/
  line : Nat
  /-- The body of the line. -/
  text : List Char
deriving DecidableEq, Repr

/-- The declarations of some lines, where the first one has the given number and the
next statement has the given position. -/
def declarations (line position : Nat) : List SourceLine → List Declaration
  | [] => []
  | first :: rest =>
    first.labels.map (fun label => ⟨String.ofList label, position, line⟩)
      ++ declarations (line + 1) (if first.body = [] then position else position + 1) rest

/-- The statements of some lines, where the first one has the given number. -/
def statements (line : Nat) : List SourceLine → List Statement
  | [] => []
  | first :: rest =>
    if first.body = [] then statements (line + 1) rest
    else ⟨line, first.body⟩ :: statements (line + 1) rest

@[simp] theorem declarations_nil (line position : Nat) : declarations line position [] = [] := rfl

@[simp] theorem statements_nil (line : Nat) : statements line [] = [] := rfl

end Ram.Assembly
