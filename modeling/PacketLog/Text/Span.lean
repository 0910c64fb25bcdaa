/-
Messages with emphasis.

A message is a list of spans, each of one kind of emphasis.  On a terminal a span with emphasis
stands between the commands that turn the emphasis on and off, so a command that its text leaves
unfinished ends with the span.
-/
import PacketLog.Text.Terminal

namespace PacketLog

/-- A stretch of a message under one kind of emphasis. -/
inductive Span where
  | plain (text : String)
  /-- The word that says what the message is. -/
  | heading (text : String)
  /-- Text that is to be typed as it stands. -/
  | literal (text : String)
  /-- Text that was refused. -/
  | invalid (text : String)
  deriving DecidableEq, Repr

namespace Span

def text : Span → String
  | .plain text | .heading text | .literal text | .invalid text => text

/-- The commands that turn the emphasis of a span on: bold, bold and red, or yellow. -/
def opening : Span → String
  | .plain _ => ""
  | .heading _ => "\x1b[1m\x1b[31m"
  | .literal _ => "\x1b[1m"
  | .invalid _ => "\x1b[33m"

/-- The command that turns the emphasis of a span off. -/
def closing : Span → String
  | .plain _ => ""
  | _ => "\x1b[0m"

/-- The characters of a span with the commands for its emphasis. -/
def characters (span : Span) : List Char :=
  span.opening.toList ++ span.text.toList ++ span.closing.toList

def render (spans : List Span) : String := String.ofList (spans.flatMap characters)

end Span

end PacketLog
