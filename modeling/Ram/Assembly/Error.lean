import Ram.Instruction

/-!
# Errors of assembly

An error has a line of the source, counted from 1, and a cause.  The words in a
cause are those of the lowercased source.
-/

namespace Ram.Assembly

/-- Why a line of the source is refused. -/
inductive Cause where
  /-- The label was declared for another instruction on an earlier line. -/
  | duplicateLabel (label : String) (firstLine : Nat)
  /-- The text before a colon is not a name for a label. -/
  | invalidLabel (label : String)
  /-- The first word is not a mnemonic. -/
  | unknownMnemonic (word : String)
  /-- The line ends before the last argument. -/
  | missingArguments (mnemonic : Mnemonic) (expected given : Nat)
  /-- The token starts like a register and is none. -/
  | invalidRegister (token : String)
  /-- The token names a label that is declared nowhere. -/
  | undefinedLabel (label : String)
  /-- The token is no numeral, or its value is too large. -/
  | invalidNumeral (token : String)
  /-- The token stands for a number below zero. -/
  | negativeLiteral (token : String)
  /-- The mnemonic does not take the argument. -/
  | unsupportedArgument (error : ArgumentError)
  /-- The arguments do not complete the instruction. -/
  | incompleteInstruction (error : ArgumentError)
deriving DecidableEq, Repr

namespace Cause

/-- The cause in words, without the line. -/
def message : Cause → String
  | duplicateLabel label firstLine =>
    "label " ++ label ++ " was already declared on line " ++ Numeral.decimal firstLine
  | invalidLabel label => "\"" ++ label ++ "\" is not a valid label name"
  | unknownMnemonic word => "\"" ++ word ++ "\" is not an instruction"
  | missingArguments mnemonic expected given =>
    mnemonic.name ++ " requires " ++ Numeral.decimal expected ++ " arguments, only "
      ++ Numeral.decimal given ++ " given"
  | invalidRegister token => "invalid register " ++ token
  | undefinedLabel label => "undefined label \"" ++ label ++ "\""
  | invalidNumeral token => "invalid numeral " ++ token
  | negativeLiteral token => "negative literal " ++ token
  | unsupportedArgument error => "unsupported argument. " ++ error.message
  | incompleteInstruction error => "illegal instruction. " ++ error.message

/-- The error about an argument that is behind the cause. -/
def argumentError? : Cause → Option ArgumentError
  | unsupportedArgument error => some error
  | incompleteInstruction error => some error
  | _ => none

/-- Whether the cause lies in the declaration of a label. -/
def isDeclaration : Cause → Bool
  | duplicateLabel _ _ => true
  | invalidLabel _ => true
  | _ => false

end Cause

/-- Why a source is refused, and where. -/
structure Error where
  /-- The line that is refused, counted from 1. -/
  line : Nat
  /-- Why it is refused. -/
  cause : Cause
deriving DecidableEq, Repr

/-- The error in words. -/
def Error.message (error : Error) : String :=
  "Error on line " ++ Numeral.decimal error.line ++ ": " ++ error.cause.message ++ "."

end Ram.Assembly
