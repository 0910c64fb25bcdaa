/-
Why a log cannot be shown.
-/
import PacketLog.Cursor
import PacketLog.Text.Quoted

namespace PacketLog

/-- A path to a file: any byte string. -/
abbrev Path := Bytes

/-- The text of a path, for people to read. -/
def Path.display (path : Path) : String := Utf8.lossy path

inductive Failure where
  | corrupt (error : ReadError)
  | inputNotFound (path : Path)
  | inputUnreadable (path : Path) (cause : IoError)
  | output (cause : IoError)
  deriving DecidableEq, Repr

namespace Failure

/-- The failure to read the file under a path. -/
def ofInput (path : Path) (cause : IoError) : Failure :=
  if cause.kind = .notFound then .inputNotFound path else .inputUnreadable path cause

def message : Failure → String
  | .corrupt error => error.message
  | .inputNotFound path => "trace file not found: " ++ Quoted.bytes path
  | .inputUnreadable path cause => "io error at " ++ Quoted.bytes path ++ ": " ++ cause.text
  | .output cause => "failed to write output: " ++ cause.text

/-- The text of the error behind a failure. -/
def cause? : Failure → Option String
  | .corrupt ⟨_, .badName fault⟩ => some fault.message
  | .corrupt _ => none
  | .inputNotFound _ => none
  | .inputUnreadable _ cause => some cause.text
  | .output cause => some cause.text

/-- The offset of the record that cannot be read. -/
def offset? : Failure → Option Nat
  | .corrupt error => some error.offset
  | _ => none

/-- Whether the output failed because nobody reads it any more. -/
def isClosedPipe : Failure → Bool
  | .output cause => cause.kind = .brokenPipe
  | _ => false

end Failure

end PacketLog
