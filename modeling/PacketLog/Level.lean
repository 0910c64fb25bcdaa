/-
Levels of events, and thresholds for them.

A threshold lets through the events that are at least as grave as its level.  A text stands for a
threshold by its name or by its number.
-/
namespace PacketLog

inductive Level where
  | error
  | warn
  | info
  | debug
  | trace
  deriving DecidableEq, Repr

namespace Level

/-- The levels in order: a higher rank is less grave. -/
def rank : Level → Nat
  | .error => 1
  | .warn => 2
  | .info => 3
  | .debug => 4
  | .trace => 5

def name : Level → String
  | .error => "error"
  | .warn => "warn"
  | .info => "info"
  | .debug => "debug"
  | .trace => "trace"

/-- The label of a level in a log line. -/
def label : Level → String
  | .error => "ERROR"
  | .warn => "WARN"
  | .info => "INFO"
  | .debug => "DEBUG"
  | .trace => "TRACE"

def all : List Level := [.error, .warn, .info, .debug, .trace]

end Level

/-- How grave an event must be to pass: at least as grave as a level, or nothing passes. -/
inductive Threshold where
  | silent
  | upTo (level : Level)
  deriving DecidableEq, Repr

namespace Threshold

def admits : Threshold → Level → Bool
  | .silent, _ => false
  | .upTo limit, level => level.rank ≤ limit.rank

def name : Threshold → String
  | .silent => "off"
  | .upTo level => level.name

/-- The number that stands for a threshold as well as its name does. -/
def rank : Threshold → Nat
  | .silent => 0
  | .upTo level => level.rank

def all : List Threshold := .silent :: Level.all.map .upTo

/-- The threshold that a text stands for, ASCII letters being capitals or not. -/
def ofName? (text : String) : Option Threshold :=
  all.find? fun t => t.name = text.toLower ∨ text.toList = [Char.ofNat ('0'.toNat + t.rank)]

end Threshold

end PacketLog
