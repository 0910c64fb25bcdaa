/-
The program: shows a log on standard output, and events and errors on standard error.

All that it says is worked out by `Run`; here are only the files, streams and the environment.
When standard output fails, the report is the one of a run whose output fails in this way.
-/
import PacketLog.Run

namespace PacketLog.Program

/-- The variable of the environment that asks for a filter for the events. -/
def filterVariable : String := "RUST_LOG"

/-- The code of an error: its number in the system, or less than zero by that number. -/
def errorCode : IO.Error → UInt32
  | .alreadyExists _ n _ => n
  | .otherError n _ => n
  | .resourceBusy n _ => n
  | .resourceVanished n _ => n
  | .unsupportedOperation n _ => n
  | .hardwareFault n _ => n
  | .unsatisfiedConstraints n _ => n
  | .illegalOperation n _ => n
  | .protocolError n _ => n
  | .timeExpired n _ => n
  | .interrupted _ n _ => n
  | .noFileOrDirectory _ n _ => n
  | .invalidArgument _ n _ => n
  | .permissionDenied _ n _ => n
  | .resourceExhausted _ n _ => n
  | .inappropriateType _ n _ => n
  | .noSuchThing _ n _ => n
  | .unexpectedEof => 0
  | .userError _ => 0

/-- The number that the system gave an error, or zero. -/
def errorNumber (e : IO.Error) : Nat := (errorCode e).toInt32.toInt.natAbs

/-- Loads the log under a path.  All but regular files with something in them are streams. -/
def load (path : String) : IO (Except IoError LoadedFile) := do
  try
    let content ← IO.FS.readBinFile path
    let data ← ((← IO.currentDir) / path).metadata
    let mapped := data.type == .file && data.byteSize != 0
    return .ok ⟨Utf8.encode path, content.toList, mapped⟩
  catch e =>
    return .error (.ofNumber (errorNumber e))

/-- Puts out the bytes of a report, and tells what became of them. -/
def putOut (report : Report) : IO Stdout := do
  let stdout ← IO.getStdout
  try
    stdout.write ⟨report.output.toArray⟩
    stdout.flush
    return .working
  catch e =>
    return .refused (.ofNumber (errorNumber e))

/-- Delivers the report of a run, which depends on what becomes of its output. -/
def deliver (report : Stdout → Report) : IO UInt32 := do
  let stderr ← IO.getStderr
  let final := report (← putOut (report .working))
  for event in final.events do
    stderr.putStrLn event.line
  stderr.putStr final.message
  if final.status = 2 then stderr.putStrLn ""
  return UInt32.ofNat final.status

end PacketLog.Program

open PacketLog in
/-- Runs the program on its arguments. -/
def main (arguments : List String) : IO UInt32 := do
  match CommandLine.parse arguments with
  | .error reply => Program.deliver fun stdout => .ofReply stdout reply
  | .ok settings =>
    let named ← IO.getEnv Program.filterVariable
    let loaded ← Program.load settings.path
    Program.deliver fun stdout =>
      (Run.perform settings stdout loaded).logged
        (Run.filter EventFilter.ofText? settings named)
