/-
The two styles in which a log is shown.
-/
import PacketLog.Unicode.Lowercase

namespace PacketLog

/-- A style of output: lines of text, or JSON with one object per line. -/
inductive Style where
  | text
  | json
  deriving DecidableEq, Repr

namespace Style

def usual : Style := .text

def name : Style → String
  | .text => "text"
  | .json => "json"

/-- A text that names no style. -/
structure Unknown where
  text : String
  deriving DecidableEq, Repr

/-- The wording of the refusal of a text that names no style. -/
def Unknown.message (u : Unknown) : String :=
  "Unknown format '" ++ u.text ++ "'. Use 'text' or 'json'"

/-- The style that a text names, in capitals or not.  Each style has a second name. -/
def parse (text : String) : Except Unknown Style :=
  let name := Unicode.lowercase text
  if name = "text" ∨ name = "txt" then .ok .text
  else if name = "json" ∨ name = "jsonl" then .ok .json
  else .error ⟨text⟩

end Style

end PacketLog
