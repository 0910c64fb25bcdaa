/-
The first line of a text.

A line ends before a line feed, or before the carriage return that stands directly before it.
-/
namespace PacketLog.Line

/-- The characters up to the first line end. -/
def first : List Char → List Char
  | [] => []
  | '\n' :: _ => []
  | '\r' :: '\n' :: _ => []
  | c :: cs => c :: first cs

end PacketLog.Line
