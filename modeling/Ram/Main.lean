import Ram.CommandLine.Session

/-!
# The command line

Reads the file that the arguments name and plays the transcript of the session.
-/

namespace Ram.CommandLine

/-- The reason behind an error of the file system.  The code of an error may come negated. -/
def readError : IO.Error → ReadError
  | .noFileOrDirectory .. => .notFound
  | .inappropriateType _ code _ =>
    if code = 20 ∨ code = 0 - 20 then .notDirectory else .isDirectory
  | error => .other (toString error)

/-- The content of a file. -/
def readSource (path : String) : IO (Except ReadError String) := do
  try
    let bytes ← IO.FS.readBinFile path
    match String.fromUTF8? bytes with
    | some text => return .ok text
    | none => return .error .notText
  catch error => return .error (readError error)

/-- Carries out an event. -/
def play : Event → IO Unit
  | .out text => do
    IO.print text
    (← IO.getStdout).flush
  | .err text => IO.eprint text
  | .pause time => IO.sleep time.toUInt32

/-- Carries out a transcript and gives back its exit code. -/
def playAll (transcript : Transcript) : IO UInt32 := do
  for event in transcript.events do
    play event
  return transcript.exitCode.toUInt32

end Ram.CommandLine

open Ram.CommandLine in
/-- Runs the session that the arguments ask for. -/
def main (arguments : List String) : IO UInt32 := do
  match Options.read arguments with
  | .error interruption => playAll interruption.transcript
  | .ok options => do
    let source ← readSource options.file
    playAll (session options source)
