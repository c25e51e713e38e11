import Ram.Assembly.Assemble
import Ram.CommandLine.Options
import Ram.Machine.Display

/-!
# Sessions

A session of the command line reads a file, assembles it, shows the program, runs it and
reports.  It is a function from the options and the content of the file to a *transcript*,
which holds everything that is written, with the pauses in between, and the exit code.

The program is shown as soon as it is assembled, so it is there even if the machine cannot
be made.  A fault while running is reported and does not change the exit code.

Making the machine and running it can crash.  Then the session ends at once, with an exit code
of its own.  A run does not crash unless the machine has no registers at all, and only then is
it followed in place.
-/

namespace Ram.CommandLine

/-- Something that a session does. -/
inductive Event where
  /-- Writes to the standard output. -/
  | out (text : String)
  /-- Writes to the standard error. -/
  | err (text : String)
  /-- Waits, for a time in milliseconds. -/
  | pause (time : Nat)
deriving DecidableEq, Repr

/-- Everything that a session does. -/
structure Transcript where
  /-- What it does, in order. -/
  events : List Event
  /-- The exit code. -/
  exitCode : Nat
deriving DecidableEq, Repr

/-- What an event writes to the standard output. -/
def Event.outText : Event → String
  | out text => text
  | _ => ""

/-- What an event writes to the standard error. -/
def Event.errText : Event → String
  | err text => text
  | _ => ""

/-- The whole standard output. -/
def Transcript.stdout (transcript : Transcript) : String :=
  String.join (transcript.events.map Event.outText)

/-- The whole standard error. -/
def Transcript.stderr (transcript : Transcript) : String :=
  String.join (transcript.events.map Event.errText)

/-- Why a file cannot be read. -/
inductive ReadError where
  /-- There is no such file. -/
  | notFound
  /-- A directory has the name. -/
  | isDirectory
  /-- Part of the path is a file and should be a directory. -/
  | notDirectory
  /-- The content is not text. -/
  | notText
  /-- Some other reason, in words. -/
  | other (reason : String)
deriving DecidableEq, Repr

/-- The reason in words. -/
def ReadError.message : ReadError → String
  | notFound => "No such file or directory (os error 2)"
  | isDirectory => "Is a directory (os error 21)"
  | notDirectory => "Not a directory (os error 20)"
  | notText => "stream did not contain valid UTF-8"
  | other reason => reason

/-! ## Running -/

/-- A run so far. -/
structure Progress where
  /-- The machine. -/
  machine : Machine
  /-- The number of steps. -/
  steps : Nat := 0
  /-- What the run did, the last first. -/
  events : List Event := []
deriving DecidableEq

namespace Progress

/-- What is shown after a step, given the text of the machine. -/
def shownText (options : Options) (text : String) : List Event :=
  if options.trace then
    .out (text ++ "\n") :: (options.speed.map fun speed => .pause speed.interval).toList
  else []

/-- What is shown after a step. -/
def shown (options : Options) (machine : Machine) : List Event := shownText options machine.text

/-- What is reported of a step. -/
def reported : Outcome → List Event
  | .faulted error => [.err (error.message ++ "\n")]
  | _ => []

/-- The run after one more step. -/
def tick (options : Options) (progress : Progress) : Progress :=
  let after := progress.machine.step
  { machine := after.1
    steps := progress.steps + 1
    events := (shown options after.1 ++ reported after.2).reverse ++ progress.events }

/-- The run after it has gone on until the machine halts, at most for the given number of
steps. -/
def go (options : Options) (progress : Progress) : Nat → Progress
  | 0 => progress
  | budget + 1 =>
    if progress.machine.halted then progress else (progress.tick options).go options budget

/-- What is said of a run that is over, given whether the machine has halted. -/
def verdictOf (halted : Bool) (steps : Nat) : String :=
  if halted then "Halted after " ++ Numeral.decimal steps ++ " steps."
  else "Stopped after " ++ Numeral.decimal steps ++ " steps without halting."

/-- The report of a run that is over, given the text of the machine and the last line. -/
def reportText (options : Options) (text verdict : String) : List Event :=
  (if options.trace then [] else [.out (text ++ "\n")]) ++ [.out (verdict ++ "\n")]

/-- The last line of a report. -/
def verdict (progress : Progress) : String :=
  verdictOf progress.machine.halted progress.steps

/-- The report of a run that is over. -/
def report (options : Options) (progress : Progress) : List Event :=
  reportText options progress.machine.text progress.verdict

end Progress

/-! ## Sessions -/

/-- The machine that runs a program. -/
def machineFor (options : Options) (program : Program) : InPlace.Creation :=
  match InPlace.create options.tapeLength options.registerCount with
  | .made machine =>
    match machine.loadTape 0 options.input with
    | .ok loaded => .made { loaded with program }
    | .error error => .refused error
  | .refused error => .refused error
  | .crash => .crash

/-- A session that fails after some events. -/
def failure (events : List Event) (message : String) : Transcript :=
  ⟨events ++ [.err (message ++ "\n")], 1⟩

/-- A session that crashes after some events. -/
def crash (events : List Event) (message : String) : Transcript :=
  ⟨events ++ [.err (message ++ "\n")], 101⟩

/-- The rest of a session that runs a machine in place, given the number of steps and the events
so far, the last first. -/
def runInPlace (options : Options) (events : List Event) (machine : InPlace) (steps : Nat) :
    Nat → Transcript
  | 0 => ending
  | budget + 1 =>
    if machine.halted then ending
    else
      match machine.step with
      | some (after, outcome) =>
        let shown := Progress.shownText options after.text ++ Progress.reported outcome
        runInPlace options (shown.reverse ++ events) after (steps + 1) budget
      | none => crash events.reverse "index out of bounds: the len is 0 but the index is 0"
where
  /-- The session if the run is over. -/
  ending : Transcript :=
    let verdict := Progress.verdictOf machine.halted steps
    ⟨events.reverse ++ Progress.reportText options machine.text verdict, 0⟩

/-- A session with a program. -/
def runProgram (options : Options) (program : Program) : Transcript :=
  let listing := [.out (program.text ++ "\n\n")]
  if options.compileOnly then ⟨listing, 0⟩
  else
    match machineFor options program with
    | .refused error => failure listing error.message
    | .crash => crash listing "capacity overflow"
    | .made inPlace =>
      match inPlace.machine? with
      | some machine =>
        let final := Progress.go options { machine } options.maxSteps
        ⟨listing ++ final.events.reverse ++ final.report options, 0⟩
      | none => runInPlace options listing inPlace 0 options.maxSteps

/-- A session with the content of the file. -/
def runSource (options : Options) (source : String) : Transcript :=
  match assemble source with
  | .error error => failure [] ("Assembly error: " ++ error.message)
  | .ok program => runProgram options program

/-- A session. -/
def session (options : Options) : Except ReadError String → Transcript
  | .error error =>
    failure [] ("Failed to read '" ++ options.file ++ "': " ++ error.message)
  | .ok source => runSource options source

/-! ## Other requests -/

/-- The text of the version. -/
def versionText : String := "ramach 0.1.0\n"

/-- The text of the help. -/
def helpText : String :=
  "RAMACH - Random Access Machine emulator\n\n" ++
  "Usage: ramach [OPTIONS] <FILE>\n\n" ++
  "Arguments:\n" ++
  "  <FILE>  Assembly source file\n\n" ++
  "Options:\n" ++
  "      --tape <N>          Tape length [default: 16]\n" ++
  "      --registers <N>     Number of general registers [default: 8]\n" ++
  "      --max-steps <N>     Stop after this many steps [default: 10000]\n" ++
  "      --input <VALUES>    Initial tape contents\n" ++
  "      --compile-only      Print the assembled program and exit\n" ++
  "      --trace             Print the machine after every step\n" ++
  "      --speed <1-5>       Pause between traced steps, 1 slowest\n" ++
  "  -h, --help              Print help\n" ++
  "  -V, --version           Print version\n"

/-- The answer to arguments that do not ask for a session. -/
def Interruption.transcript : Interruption → Transcript
  | version => ⟨[.out versionText], 0⟩
  | help => ⟨[.out helpText], 0⟩
  | refused error =>
    ⟨[.err ("error: " ++ error.message ++ "\n\nUsage: ramach [OPTIONS] <FILE>\n\n" ++
      "For more information, try '--help'.\n")], 2⟩

end Ram.CommandLine
