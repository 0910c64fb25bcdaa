/-
Quotation of characters and byte strings in messages.

A quoted character stands between single quotes and a quoted byte string between double quotes.
The quote itself and the backslash get a backslash before them, four controls have names (`\0`,
`\t`, `\r`, `\n`), and a character that would not show, or would be drawn on its neighbour, is
given by its code point.  In a byte string, bytes that are no UTF-8 are given in hexadecimal.
-/
import PacketLog.Numeral
import PacketLog.Text.Utf8
import PacketLog.Unicode.Extending
import PacketLog.Unicode.Ignorable
import PacketLog.Unicode.Unprintable

namespace PacketLog.Quoted

/-- The character of a hexadecimal digit, its letters in lower case. -/
def hexDigit (d : Nat) : Char :=
  if d < 10 then Char.ofNat (48 + d) else Char.ofNat (87 + d)

/-- The code point of a character in hexadecimal, between braces. -/
def codePoint (c : Char) : List Char :=
  ['\\', 'u', '\x7b'] ++ (Numeral.digits 16 c.toNat).map hexDigit ++ ['\x7d']

def needsCodePoint (c : Char) : Bool :=
  Unicode.isExtending c || Unicode.isIgnorable c || Unicode.isUnprintable c

/-- A character as it stands between two `mark`s. -/
def escape (mark c : Char) : List Char :=
  if c = '\x00' then ['\\', '0']
  else if c = '\t' then ['\\', 't']
  else if c = '\r' then ['\\', 'r']
  else if c = '\n' then ['\\', 'n']
  else if c = '\\' ∨ c = mark then ['\\', c]
  else if needsCodePoint c then codePoint c
  else [c]

/-- A byte that belongs to no character: two hexadecimal digits, the letters in upper case. -/
def escapeByte (b : UInt8) : List Char :=
  ['\\', 'x', (hexDigit (b.toNat / 16)).toUpper, (hexDigit (b.toNat % 16)).toUpper]

/-- A segment of a byte string as it stands between double quotes. -/
def escapeSegment : Utf8.Segment → List Char
  | .char c => escape '"' c
  | .stray bytes => bytes.flatMap escapeByte
  | .cut bytes => bytes.flatMap escapeByte

def char (c : Char) : String :=
  String.ofList (['\''] ++ escape '\'' c ++ ['\''])

def bytes (bs : Bytes) : String :=
  String.ofList (['"'] ++ (Utf8.segments bs).flatMap escapeSegment ++ ['"'])

end PacketLog.Quoted
