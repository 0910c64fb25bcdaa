/-
Compact JSON text.

`Json.render` writes a value with no blanks, the members of an object in the order in which they
are given.  In a string the quote, the backslash and the controls are escaped, five of the
controls by name, and every other character stands for itself.
-/
import PacketLog.Numeral.Decimal
import PacketLog.Text.Quoted

namespace PacketLog

/-- A JSON value.  Numbers are whole; neither truth values nor arrays are needed here. -/
inductive Json where
  | null
  | number (n : Int)
  | string (s : String)
  | object (members : List (String × Json))

namespace Json

def escape (c : Char) : List Char :=
  if c = '"' then ['\\', '"']
  else if c = '\\' then ['\\', '\\']
  else if c = '\x08' then ['\\', 'b']
  else if c = '\x0c' then ['\\', 'f']
  else if c = '\n' then ['\\', 'n']
  else if c = '\r' then ['\\', 'r']
  else if c = '\t' then ['\\', 't']
  else if c.toNat < 0x20 then
    ['\\', 'u', '0', '0', Quoted.hexDigit (c.toNat / 16), Quoted.hexDigit (c.toNat % 16)]
  else [c]

def quote (s : String) : List Char :=
  ['"'] ++ s.toList.flatMap escape ++ ['"']

mutual

def chars : Json → List Char
  | .null => "null".toList
  | .number n => (Decimal.ofInt n).toList
  | .string s => quote s
  | .object [] => ['\x7b', '\x7d']
  | .object (m :: ms) => ['\x7b'] ++ memberChars m ++ moreChars ms

/-- The characters of a member: its key, a colon and its value. -/
def memberChars : String × Json → List Char
  | (key, value) => quote key ++ [':'] ++ chars value

/-- The characters of the members after the first one, and of the brace at their end. -/
def moreChars : List (String × Json) → List Char
  | [] => ['\x7d']
  | m :: ms => [','] ++ memberChars m ++ moreChars ms

end

def render (value : Json) : String := String.ofList value.chars

end Json

end PacketLog
