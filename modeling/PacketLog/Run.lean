/-
A run of the program: load a log, show it, and perhaps its statistics.

The output goes through a buffer, so that a failing output is noticed when the buffer is full or
flushed.  An output that nobody reads any more ends the run without an error.
-/
import PacketLog.CommandLine
import PacketLog.EventFilter
import PacketLog.FileTree
import PacketLog.Sink
import PacketLog.Transcript
import PacketLog.Writer.Buffered

namespace PacketLog

/-- What becomes of the bytes that a run puts out. -/
inductive Stdout where
  | working
  /-- They go into a pipe that nobody reads. -/
  | closed
  /-- They go to a device with no space left. -/
  | full
  /-- They are refused with an error. -/
  | refused (cause : IoError)
  deriving DecidableEq, Repr

def Stdout.sink : Stdout → Sink
  | .working => .unlimited
  | .closed => .failing .brokenPipe
  | .full => .failing .noSpace
  | .refused cause => .failing cause

structure Report where
  status : Nat
  output : Bytes
  /-- The message about what went wrong. -/
  message : String
  events : List Event
  deriving DecidableEq, Repr

namespace Report

/-- The causes of a failure, one a line, with numbers if there are several. -/
def causes : List String → String
  | [cause] => "    " ++ cause ++ "\n"
  | several => String.join (several.mapIdx fun i cause =>
      "    " ++ Decimal.ofNat i ++ ": " ++ cause ++ "\n")

/-- The message about a failure in some context. -/
def explain (context : String) (failure : Failure) : String :=
  "Error: " ++ context ++ "\n\nCaused by:\n" ++
    causes (failure.message :: failure.cause?.toList)

def failed (output : Bytes) (context : String) (failure : Failure) (events : List Event) :
    Report :=
  ⟨1, output, explain context failure, events⟩

/-- The answer to arguments that ask for no run.  An answer that cannot be put out is no error. -/
def ofReply (stdout : Stdout) (reply : CommandLine.Reply) : Report :=
  match reply with
  | .misuse m => ⟨2, [], m.report, []⟩
  | _ => ⟨0, (Writer.write stdout.sink (Utf8.encode reply.text)).1.bytes, "", []⟩

def logged (report : Report) (filter : EventFilter) : Report :=
  { report with events := report.events.filter filter }

end Report

namespace Run

def bufferSize : Nat := 8192

def summarize (style : Style) (w : Buffered Sink) (tally : Tally) (events : List Event) : Report :=
  match Transcript.writeLine w (tally.render style) with
  | (w, some e) => outcome w (some e)
  | (w, none) =>
    match Writer.flush w with
    | (w, e) => outcome w e
where
  outcome (w : Buffered Sink) : Option IoError → Report
    | none => ⟨0, w.target.bytes, "", events⟩
    | some e =>
      if (Failure.output e).isClosedPipe then ⟨0, w.target.bytes, "", events⟩
      else .failed w.target.bytes "failed to write summary" (.output e) events

/-- Shows a loaded log through a buffer of some size. -/
def present (style : Style) (summary : Bool) (capacity : Nat) (stdout : Stdout)
    (source : LoadedFile) : Report :=
  let size := source.content.length
  let loaded : List Event :=
    [if source.mapped then .mapped source.path size else .streamed source.path size,
      .decoding source.path size]
  let shown := Transcript.ofBytes style (Buffered.ofWriter stdout.sink capacity) source.content
  let events := loaded ++ shown.events
  let taken := shown.writer.target.bytes
  match shown.result with
  | .ok tally =>
    if summary then summarize style shown.writer tally events else ⟨0, taken, "", events⟩
  | .error failure =>
    if failure.isClosedPipe then ⟨0, taken, "", events ++ [.outputClosed]⟩
    else
      .failed taken ("failed to decode " ++ source.path.display) failure
        (events ++ (failure.offset?.map Event.corrupt).toList)

/-- Shows the log under a path, or reports that it could not be loaded. -/
def perform (settings : CommandLine.Settings) (stdout : Stdout)
    (loaded : Except IoError LoadedFile) : Report :=
  match loaded with
  | .ok source => present settings.style settings.summary bufferSize stdout source
  | .error e =>
    .failed [] ("failed to load trace " ++ settings.path)
      (.ofInput (Utf8.encode settings.path) e) []

/-- The filter for the events of a run: the one that is asked for, if `read` can read what asks for
it, or else the one that the settings imply. -/
def filter (read : String → Option EventFilter) (settings : CommandLine.Settings)
    (named : Option String) : EventFilter :=
  (named.bind read).getD (EventFilter.upTo settings.level)

/-- Runs the program on its arguments, with a reader of texts that ask for a filter. -/
def ofArgumentsReading (read : String → Option EventFilter) (arguments : List String)
    (files : FileTree) (stdout : Stdout) (named : Option String) : Report :=
  match CommandLine.parse arguments with
  | .error reply => .ofReply stdout reply
  | .ok settings =>
    (perform settings stdout (files.load (Utf8.encode settings.path))).logged
      (filter read settings named)

/-- Runs the program on its arguments. -/
def ofArguments (arguments : List String) (files : FileTree) (stdout : Stdout)
    (named : Option String) : Report :=
  ofArgumentsReading EventFilter.ofText? arguments files stdout named

end Run

end PacketLog
