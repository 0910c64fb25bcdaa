/-
Errors of reading and writing.

An error has a kind, on which decisions rest, and a text, which is shown.  An error of the
operating system is known by its number, which fixes both.
-/
import PacketLog.IoError.System
import PacketLog.Numeral.Decimal

namespace PacketLog

structure IoError where
  kind : IoKind
  text : String
  deriving DecidableEq, Repr

namespace IoError

/-- The error of the operating system with a number, which need not be in use. -/
def ofNumber (number : Int) : IoError :=
  let suffix := " (os error " ++ Decimal.ofInt number ++ ")"
  match SystemError.ofNumber? number with
  | some e => ⟨e.kind, e.description ++ suffix⟩
  | none => ⟨.uncategorized, "Unknown error " ++ Decimal.ofInt number ++ suffix⟩

def noSuchFile : IoError := ofNumber 2

def notADirectory : IoError := ofNumber 20

def isADirectory : IoError := ofNumber 21

def noSpace : IoError := ofNumber 28

/-- Nobody reads the pipe any more. -/
def brokenPipe : IoError := ofNumber 32

def nameTooLong : IoError := ofNumber 36

/-- A path holds a zero byte, which no file name can. -/
def zeroByteInName : IoError := ⟨.invalidInput, "file name contained an unexpected NUL byte"⟩

/-- A writer took none of the bytes that it was given. -/
def writeZero : IoError := ⟨.writeZero, "failed to write whole buffer"⟩

end IoError

end PacketLog
