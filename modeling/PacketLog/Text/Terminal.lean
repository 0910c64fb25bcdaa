/-
What of a text shows on a terminal that takes no commands.

Controls are left out, blanks and line ends apart, and with an escape character the whole command
that it begins: a few characters, a control sequence up to its final letter, or a command string
up to the next escape character.  A character outside ASCII is part of the command it stands in.
-/
import PacketLog.Text.Utf8

namespace PacketLog.Terminal

/-- A command of which some characters have been read. -/
inductive Command where
  /-- Only the escape character has been read. -/
  | escape
  /-- A command of a few characters. -/
  | short
  /-- A control sequence, which a letter ends. -/
  | sequence
  /-- A device command, of which neither parameters nor the letter have been read. -/
  | device
  /-- A device command, up to its parameters. -/
  | parameters
  /-- A device command, up to what stands between its parameters and its letter. -/
  | qualifiers
  /-- A command string, which an escape character or a string terminator ends. -/
  | string
  /-- A system command, a command string that only an escape character or the bell ends. -/
  | system
  deriving DecidableEq, Repr

/-- What the characters read so far belong to. -/
inductive Mode where
  | text
  | inside (command : Command)
  /-- Text that interrupts a command, which the next control takes up again. -/
  | aside (command : Command)
  deriving DecidableEq, Repr

/-- Whether a control is a blank or a line end. -/
def isBlank (n : Nat) : Bool := n == 0x09 || n == 0x0A || n == 0x0C || n == 0x0D

/-- Whether a character of the text is a control that does not show. -/
def isHidden (n : Nat) : Bool := (n < 0x20 && !isBlank n) || n == 0x7F

namespace Command

/-- Whether the blanks within a command show.  Those of a command string are part of it. -/
def showsBlanks : Command → Bool
  | .escape | .short | .sequence => true
  | _ => false

/-- What follows when a command goes on with an ASCII character that is no control. -/
def next (n : Nat) : Command → Mode
  | .escape =>
    if n < 0x30 then .inside .short
    else if n = 0x5B then .inside .sequence
    else if n = 0x5D then .inside .system
    else if n = 0x50 then .inside .device
    else if n = 0x58 ∨ n = 0x5E ∨ n = 0x5F then .inside .string
    else .text
  | .short => if n < 0x30 then .inside .short else .text
  | .sequence => if n < 0x40 then .inside .sequence else .text
  | .device =>
    if n < 0x30 then .inside .qualifiers
    else if n < 0x40 then .inside .parameters
    else .inside .string
  | .parameters =>
    if n < 0x30 then .inside .qualifiers
    else if n < 0x3C then .inside .parameters
    else .inside .string
  | .qualifiers => if n < 0x30 then .inside .qualifiers else .inside .string
  | .string => .inside .string
  | .system => .inside .system

/-- What follows when a command goes on with a character that neither shows nor begins or cancels
a command.  The string terminator is the byte `0x9C`, also where it is a part of a character. -/
def after (command : Command) (c : Char) : Mode :=
  let n := c.toNat
  if 0x20 ≤ n ∧ n < 0x7F then command.next n
  else if command = .system ∧ n = 0x07 then .text
  else if command = .string ∧ 0x9C ∈ Utf8.encodeChar c then .text
  else .inside command

end Command

/-- Whether a character shows, and what the characters after it belong to.  A blank that shows
within a command ends it, or only interrupts it if commands are `resumed`. -/
def step (resumed : Bool) (mode : Mode) (c : Char) : Bool × Mode :=
  let n := c.toNat
  if n = 0x1B then (false, .inside .escape)
  else if n = 0x18 ∨ n = 0x1A then (false, .text)
  else
    match mode with
    | .text => (!isHidden n, .text)
    | .aside command =>
      if isHidden n then (false, .inside command)
      else (true, if n < 0x80 then .aside command else .text)
    | .inside command =>
      if command.showsBlanks && isBlank n then
        (true, if resumed then .aside command else .text)
      else (false, command.after c)

def visible (resumed : Bool) (mode : Mode) : List Char → List Char
  | [] => []
  | c :: cs =>
    match step resumed mode c with
    | (true, next) => c :: visible resumed next cs
    | (false, next) => visible resumed next cs

/-- What shows of a text that is taken as a whole: a blank within a command ends it. -/
def shown (text : String) : String := String.ofList (visible false .text text.toList)

/-- What shows of a text that is put out as a stream: a blank within a command interrupts it. -/
def streamed (text : String) : String := String.ofList (visible true .text text.toList)

end PacketLog.Terminal
