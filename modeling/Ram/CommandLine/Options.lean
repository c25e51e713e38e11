import Ram.Argument
import Ram.Speed

/-!
# Options

The command line takes one file and some options, in any order.

* `--tape N`, `--registers N` and `--max-steps N` take an unsigned number of 64 bits.
* `--input LIST` takes signed numbers of 64 bits divided by commas.  It may be repeated, and
  then the lists are joined.
* `--speed N` takes a number from 1 to 5.
* `--compile-only` and `--trace` take nothing.
* `--version` and `--help`, or `-V` and `-h`, ask for a text.

The value of an option is the next argument, or stands in the same argument after an equals
sign.  The next argument may start with a hyphen for `--input` only, apart from a hyphen
alone.  After `--` every argument is a file.  An option or flag other than `--input` is given
at most once.

Arguments are read from the left, and the first one that is wrong, or asks for a text,
settles the request.
-/

namespace Ram.CommandLine

/-- What to run and how. -/
structure Options where
  /-- The file with the source. -/
  file : String
  /-- The number of cells on the tape. -/
  tapeLength : UInt64 := 16
  /-- The number of general registers. -/
  registerCount : UInt64 := 8
  /-- The largest number of steps. -/
  maxSteps : Nat := 10000
  /-- The first cells of the tape. -/
  input : List Value := []
  /-- Whether to stop after the program is shown. -/
  compileOnly : Bool := false
  /-- Whether to show the machine after every step. -/
  trace : Bool := false
  /-- The pace of the steps that are shown. -/
  speed : Option Speed := none
deriving DecidableEq, Repr

/-- The options that take a value. -/
inductive Setting where
  /-- The number of cells on the tape. -/
  | tape
  /-- The number of general registers. -/
  | registers
  /-- The largest number of steps. -/
  | maxSteps
  /-- The first cells of the tape. -/
  | input
  /-- The pace of the steps. -/
  | speed
deriving DecidableEq, Repr

/-- The options that take no value. -/
inductive Flag where
  /-- Stops after the program is shown. -/
  | compileOnly
  /-- Shows the machine after every step. -/
  | trace
deriving DecidableEq, Repr

/-- The name of an option with a value. -/
def Setting.name : Setting → String
  | tape => "--tape"
  | registers => "--registers"
  | maxSteps => "--max-steps"
  | input => "--input"
  | speed => "--speed"

/-- The name of an option without a value. -/
def Flag.name : Flag → String
  | compileOnly => "--compile-only"
  | trace => "--trace"

/-- Why arguments are refused. -/
inductive UsageError where
  /-- There is no such option, or there is a file already. -/
  | unexpected (argument : String)
  /-- An option lacks its value. -/
  | missingValue (name : String)
  /-- A flag has a value. -/
  | unwantedValue (name : String)
  /-- The value of an option does not mean anything. -/
  | invalidValue (name value : String)
  /-- An option is given twice. -/
  | repeated (name : String)
  /-- There is no file. -/
  | missingFile
deriving DecidableEq, Repr

/-- The error in words. -/
def UsageError.message : UsageError → String
  | unexpected argument => "unexpected argument '" ++ argument ++ "' found"
  | missingValue name => "a value is required for '" ++ name ++ "' but none was supplied"
  | unwantedValue name => "no value is taken by '" ++ name ++ "'"
  | invalidValue name value => "invalid value '" ++ value ++ "' for '" ++ name ++ "'"
  | repeated name => "the argument '" ++ name ++ "' cannot be used multiple times"
  | missingFile => "the following required arguments were not provided: <FILE>"

/-- Why reading the arguments ends before the last of them. -/
inductive Interruption where
  /-- The version is asked for. -/
  | version
  /-- The help is asked for. -/
  | help
  /-- The arguments are refused. -/
  | refused (error : UsageError)
deriving DecidableEq, Repr

/-! ## Single arguments -/

/-- What one argument is. -/
inductive Word where
  /-- The mark after which every argument is a file. -/
  | endOfOptions
  /-- A file. -/
  | file (path : String)
  /-- An option with a value, which may be in the same argument. -/
  | setting (setting : Setting) (value : Option String)
  /-- A flag. -/
  | flag (flag : Flag)
  /-- Something that ends the reading. -/
  | interruption (interruption : Interruption)
deriving DecidableEq, Repr

/-- An argument cut at its first equals sign. -/
def splitValue (argument : List Char) : String × Option String :=
  (String.ofList (argument.takeWhile (· ≠ '=')),
    match argument.dropWhile (· ≠ '=') with
    | _ :: value => some (String.ofList value)
    | [] => none)

/-- Something that takes no value, unless there is one. -/
def withoutValue (name : String) (value : Option String) (word : Word) : Word :=
  if value.isSome then .interruption (.refused (.unwantedValue name)) else word

/-- What an argument with two hyphens in front is. -/
def longWord (argument : List Char) : Word :=
  let name := (splitValue argument).1
  let value := (splitValue argument).2
  match [Setting.tape, .registers, .maxSteps, .input, .speed].find? (·.name = name) with
  | some setting => .setting setting value
  | none =>
    match [Flag.compileOnly, .trace].find? (·.name = name) with
    | some flag => withoutValue name value (.flag flag)
    | none =>
      if name = "--version" then withoutValue name value (.interruption .version)
      else if name = "--help" then withoutValue name value (.interruption .help)
      else .interruption (.refused (.unexpected (String.ofList argument)))

/-- What an argument is. -/
def Word.read (argument : String) : Word :=
  match argument.toList with
  | ['-', '-'] => .endOfOptions
  | '-' :: '-' :: _ => longWord argument.toList
  | '-' :: 'V' :: _ => .interruption .version
  | '-' :: 'h' :: _ => .interruption .help
  | '-' :: _ :: _ => .interruption (.refused (.unexpected argument))
  | _ => .file argument

/-- Whether an argument may be the value of the option in front of it. -/
def Setting.takes (setting : Setting) (argument : String) : Bool :=
  setting = .input ||
    match argument.toList with
    | '-' :: _ :: _ => false
    | _ => true

/-! ## All arguments -/

/-- What the arguments have said so far. -/
structure Draft where
  /-- The file. -/
  file : Option String := none
  /-- The number of cells on the tape. -/
  tapeLength : Option UInt64 := none
  /-- The number of general registers. -/
  registerCount : Option UInt64 := none
  /-- The largest number of steps. -/
  maxSteps : Option Nat := none
  /-- The first cells of the tape. -/
  input : List Value := []
  /-- The pace of the steps. -/
  speed : Option Speed := none
  /-- Whether to stop after the program is shown. -/
  compileOnly : Bool := false
  /-- Whether to show the machine after every step. -/
  trace : Bool := false
deriving DecidableEq, Repr

namespace Draft

/-- The value of an option that is given once. -/
def once {α : Type} (setting : Setting) (old : Option α) (text : String) (value : Option α) :
    Except Interruption α :=
  match value with
  | none => .error (.refused (.invalidValue setting.name text))
  | some value =>
    if old.isSome then .error (.refused (.repeated setting.name)) else .ok value

/-- An unsigned number. -/
def size? (text : String) : Option UInt64 := Numeral.unsigned? text.toList

/-- An unsigned number of steps. -/
def count? (text : String) : Option Nat := (size? text).map UInt64.toNat

/-- A list of signed numbers divided by commas. -/
def values? (text : String) : Option (List Value) :=
  (text.toList.splitOn ',').mapM Numeral.signed?

/-- A speed by its level. -/
def speed? (text : String) : Option Speed :=
  match Numeral.signed? text.toList with
  | some level => Speed.ofLevel? level.toInt.toNat
  | none => none

/-- The draft with an option set. -/
def set (draft : Draft) (setting : Setting) (text : String) : Except Interruption Draft :=
  match setting with
  | .tape => do
    let value ← once setting draft.tapeLength text (size? text)
    return { draft with tapeLength := some value }
  | .registers => do
    let value ← once setting draft.registerCount text (size? text)
    return { draft with registerCount := some value }
  | .maxSteps => do
    let value ← once setting draft.maxSteps text (count? text)
    return { draft with maxSteps := some value }
  | .input => do
    let values ← once setting (none : Option (List Value)) text (values? text)
    return { draft with input := draft.input ++ values }
  | .speed => do
    let value ← once setting draft.speed text (speed? text)
    return { draft with speed := some value }

/-- The draft with a flag set. -/
def raise (draft : Draft) (flag : Flag) : Except Interruption Draft :=
  match flag with
  | .compileOnly =>
    if draft.compileOnly then .error (.refused (.repeated flag.name))
    else .ok { draft with compileOnly := true }
  | .trace =>
    if draft.trace then .error (.refused (.repeated flag.name))
    else .ok { draft with trace := true }

/-- The draft with a file. -/
def addFile (draft : Draft) (path : String) : Except Interruption Draft :=
  if draft.file.isSome then .error (.refused (.unexpected path))
  else if path.isEmpty then .error (.refused (.invalidValue "FILE" path))
  else .ok { draft with file := some path }

/-- The draft after some more arguments. -/
def scan (draft : Draft) : List String → Except Interruption Draft
  | [] => .ok draft
  | argument :: rest =>
    match Word.read argument with
    | .endOfOptions => rest.foldlM addFile draft
    | .file path => do
      let next ← draft.addFile path
      next.scan rest
    | .flag flag => do
      let next ← draft.raise flag
      next.scan rest
    | .interruption interruption => .error interruption
    | .setting setting (some value) => do
      let next ← draft.set setting value
      next.scan rest
    | .setting setting none =>
      match rest with
      | [] => .error (.refused (.missingValue setting.name))
      | value :: others =>
        if setting.takes value then do
          let next ← draft.set setting value
          next.scan others
        else .error (.refused (.missingValue setting.name))

/-- The options that a draft stands for. -/
def complete (draft : Draft) : Except Interruption Options :=
  match draft.file with
  | none => .error (.refused .missingFile)
  | some file =>
    let standard : Options := { file }
    .ok
      { file
        tapeLength := draft.tapeLength.getD standard.tapeLength
        registerCount := draft.registerCount.getD standard.registerCount
        maxSteps := draft.maxSteps.getD standard.maxSteps
        input := draft.input
        compileOnly := draft.compileOnly
        trace := draft.trace
        speed := draft.speed }

end Draft

/-- The options that some arguments stand for. -/
def Options.read (arguments : List String) : Except Interruption Options := do
  let draft ← Draft.scan {} arguments
  draft.complete

end Ram.CommandLine
