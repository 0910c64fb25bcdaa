/-
The arguments of the program.

An option that takes a value may have it in the same argument or in the next one.  A value that
stands alone is examined only when something else follows, or at the end: a request for help that
comes before is answered first, and one that comes after is not answered if the value is bad.
-/
import PacketLog.Level
import PacketLog.Style
import PacketLog.Text.Line
import PacketLog.Text.Span

namespace PacketLog.CommandLine

/-- What the program is asked to do. -/
structure Settings where
  path : String
  style : Style
  summary : Bool
  verbose : Bool
  deriving DecidableEq, Repr

/-- The level up to which events are logged if nothing else is asked for. -/
def Settings.level (s : Settings) : Level := if s.verbose then .debug else .warn

inductive Flag where
  | summary
  | verbose
  | help
  | version
  deriving DecidableEq, Repr

/-- The long spelling of a flag, without its hyphens. -/
def Flag.name : Flag → String
  | .summary => "summary"
  | .verbose => "verbose"
  | .help => "help"
  | .version => "version"

def Flag.letter : Flag → Char
  | .summary => 's'
  | .verbose => 'v'
  | .help => 'h'
  | .version => 'V'

def Flag.all : List Flag := [.summary, .verbose, .help, .version]

/-- The long spelling of the option for the style of output, without its hyphens. -/
def formatName : String := "format"

def formatLetter : Char := 'f'

def formatUsage : String := "--format <FORMAT>"

def pathUsage : String := "<PATH>"

inductive Misuse where
  /-- There is no such option, or there is no place for an argument. -/
  | unknownArgument (argument : String)
  | extraValue (value : String) (flag : Flag)
  /-- A value is missing or empty. -/
  | missingValue (usage : String)
  | badStyle (unknown : Style.Unknown)
  | repeated (usage : String)
  | missingPath
  deriving DecidableEq, Repr

def Misuse.wording : Misuse → List Span
  | .unknownArgument argument =>
    [.plain "unexpected argument '", .invalid argument, .plain "' found"]
  | .extraValue value flag =>
    [.plain "unexpected value '", .invalid value, .plain "' for '", .literal ("--" ++ flag.name),
      .plain "' found; no more were expected"]
  | .missingValue usage =>
    [.plain "a value is required for '", .literal usage, .plain "' but none was supplied"]
  | .badStyle unknown =>
    [.plain "invalid value '", .invalid unknown.text, .plain "' for '", .literal formatUsage,
      .plain "': ", .plain unknown.message]
  | .repeated usage =>
    [.plain "the argument '", .invalid usage, .plain "' cannot be used multiple times"]
  | .missingPath => [.plain "the following required arguments were not provided:"]

/-- The message about what is wrong with the arguments, with a line on where help is found. -/
def Misuse.notice (m : Misuse) : List Span :=
  [.heading "error:", .plain " "] ++ m.wording ++
    [.plain "\n\nFor more information, try '", .literal "--help", .plain "'.\n"]

/-- Why there are no settings: the program is asked about itself, or asked wrongly. -/
inductive Reply where
  | help
  | version
  | misuse (what : Misuse)
  deriving DecidableEq, Repr

/-- A value that is not examined yet. -/
inductive Pending where
  | nothing
  | path (value : String)
  /-- The option for the style of output, with its value if that was seen. -/
  | style (value : Option String)
  deriving DecidableEq, Repr

/-- What the arguments up to some point ask for. -/
structure Draft where
  path : Option String
  style : Option Style
  summary : Bool
  verbose : Bool
  pending : Pending
  /-- Whether the arguments that follow are no options, whatever they look like. -/
  closed : Bool
  deriving DecidableEq, Repr

namespace Draft

def empty : Draft := ⟨none, none, false, false, .nothing, false⟩

def setStyle (d : Draft) (value : String) : Except Reply Draft :=
  if d.style.isSome then .error (.misuse (.repeated formatUsage))
  else
    match Style.parse value with
    | .ok style => .ok { d with style := some style }
    | .error unknown => .error (.misuse (.badStyle unknown))

/-- Examines the pending value. -/
def settle (d : Draft) : Except Reply Draft :=
  match d.pending with
  | .nothing => .ok d
  | .path value =>
    if value.isEmpty then .error (.misuse (.missingValue pathUsage))
    else .ok { d with path := some value, pending := .nothing }
  | .style none => .error (.misuse (.missingValue formatUsage))
  | .style (some value) => { d with pending := .nothing }.setStyle value

def raise (d : Draft) (flag : Flag) : Except Reply Draft := do
  let d ← d.settle
  match flag with
  | .summary =>
    if d.summary then .error (.misuse (.repeated "--summary"))
    else .ok { d with summary := true }
  | .verbose =>
    if d.verbose then .error (.misuse (.repeated "--verbose"))
    else .ok { d with verbose := true }
  | .help => .error .help
  | .version => .error .version

/-- Takes the option for the style of output, with the value that stands in the same argument. -/
def takeStyle (d : Draft) (value : Option String) : Except Reply Draft := do
  let d ← d.settle
  match value with
  | some value => d.setStyle value
  | none => .ok { d with pending := .style none }

/-- Takes an argument that is no option: the path. -/
def takePath (d : Draft) (value : String) : Except Reply Draft :=
  match d.path, d.pending with
  | none, .nothing => .ok { d with pending := .path value }
  | none, .style _ => do
    let d ← d.settle
    .ok { d with pending := .path value }
  | _, _ => .error (.misuse (.unknownArgument value))

def takeLong (d : Draft) (name : String) (value : Option String) : Except Reply Draft :=
  if name = formatName then d.takeStyle value
  else
    match Flag.all.find? (fun flag => flag.name = name), value with
    | some flag, none => d.raise flag
    | some flag, some value => .error (.misuse (.extraValue value flag))
    | none, _ => .error (.misuse (.unknownArgument ("--" ++ name)))

/-- Takes options in their short spelling, any number of flags and then perhaps the option for the
style of output with its value, which may have an equals sign before it. -/
def takeShort (d : Draft) : List Char → Except Reply Draft
  | [] => .ok d
  | c :: cs =>
    if c = formatLetter then
      match cs with
      | [] => d.takeStyle none
      | '=' :: value => d.takeStyle (some (String.ofList value))
      | value => d.takeStyle (some (String.ofList value))
    else
      match Flag.all.find? (fun flag => flag.letter = c) with
      | some flag => do
        let d ← d.raise flag
        d.takeShort cs
      | none => .error (.misuse (.unknownArgument (String.ofList ['-', c])))

/-- Takes an argument that does not look like an option. -/
def takePlain (d : Draft) (value : String) : Except Reply Draft :=
  if d.pending = .style none then .ok { d with pending := .style (some value) }
  else d.takePath value

def take (d : Draft) (argument : String) : Except Reply Draft :=
  if d.closed then d.takePath argument
  else
    match argument.toList with
    | ['-', '-'] => .ok { d with closed := true }
    | '-' :: '-' :: long =>
      let name := String.ofList (long.takeWhile (· ≠ '='))
      match long.dropWhile (· ≠ '=') with
      | [] => d.takeLong name none
      | _ :: value => d.takeLong name (some (String.ofList value))
    | '-' :: c :: cs => d.takeShort (c :: cs)
    | _ => d.takePlain argument

/-- What the arguments ask for when no more follow. -/
def finish (d : Draft) : Except Reply Settings := do
  let d ← d.settle
  match d.path with
  | some path => .ok ⟨path, d.style.getD .usual, d.summary, d.verbose⟩
  | none => .error (.misuse .missingPath)

end Draft

/-- What the arguments ask for, the name of the program not being one of them. -/
def parse (arguments : List String) : Except Reply Settings := do
  let d ← arguments.foldlM Draft.take .empty
  d.finish

def helpText : String :=
  "Decode a daemon packet-trace log into readable lines\n" ++
  "\n" ++
  "Usage: packet-trace [OPTIONS] <PATH>\n" ++
  "\n" ++
  "Arguments:\n" ++
  "  <PATH>  Trace file written by the daemon (e.g. /tmp/daemonlib-packet-trace)\n" ++
  "\n" ++
  "Options:\n" ++
  "  -f, --format <FORMAT>  Output format (text or json) [default: text]\n" ++
  "  -s, --summary          Print record statistics after the last record\n" ++
  "  -v, --verbose          Enable debug logging on stderr\n" ++
  "  -h, --help             Print help\n" ++
  "  -V, --version          Print version\n"

def versionText : String := "packet-trace 0.1.0\n"

/-- The text of a reply: all of it, or the first line of the message, as far as it shows on a
terminal that takes no commands. -/
def Reply.text : Reply → String
  | .help => helpText
  | .version => versionText
  | .misuse m => String.ofList (Line.first (Terminal.shown (Span.render m.notice)).toList)

/-- The line about what is wrong with the arguments, as it comes out of the stream of errors. -/
def Misuse.report (m : Misuse) : String :=
  String.ofList (Line.first (Terminal.streamed (Span.render m.notice)).toList)

end PacketLog.CommandLine
