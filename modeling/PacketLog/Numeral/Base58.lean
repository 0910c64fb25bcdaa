/-
Base-58 text of 64-bit words.

The digits are letters and figures without the look-alikes `0`, `O`, `I` and `l`, lower case
before upper case, most significant first and with no padding: zero is the one digit `1`.
A text is read from left to right and the first thing that goes wrong is reported.
-/
import PacketLog.Numeral
import PacketLog.Text.Quoted

namespace PacketLog.Base58

def radix : Nat := 58

/-- The digits in the order of their values. -/
def alphabet : String := "123456789abcdefghijkmnopqrstuvwxyzABCDEFGHJKLMNPQRSTUVWXYZ"

/-- The length of the longest text of a 64-bit word, as `58 ^ 10 < 2 ^ 64 < 58 ^ 11`. -/
def maxLength : Nat := 11

def digit (d : Nat) : Char := alphabet.toList.getD d '1'

def digitValue? (c : Char) : Option Nat := alphabet.toList.idxOf? c

def encode (word : UInt64) : String :=
  String.ofList ((Numeral.digits radix word.toNat).map digit)

/-- Why a text is not the base-58 text of a word. -/
inductive Fault where
  | empty
  /-- The character at a position, counted in characters, is no digit. -/
  | invalidDigit (digit : Char) (position : Nat)
  | overflow
  deriving DecidableEq, Repr

def Fault.message : Fault → String
  | .empty => "empty base58 string"
  | .invalidDigit digit position =>
    "invalid base58 digit " ++ Quoted.char digit ++ " at position " ++ Decimal.ofNat position
  | .overflow => "base58 value does not fit in 64 bits"

/-- Reads the digits from `position` on, those before it having the value `value`. -/
def readFrom (position value : Nat) : List Char → Except Fault UInt64
  | [] => .ok (UInt64.ofNat value)
  | c :: cs =>
    match digitValue? c with
    | none => .error (.invalidDigit c position)
    | some d =>
      if value * radix + d < UInt64.size then readFrom (position + 1) (value * radix + d) cs
      else .error .overflow

def decode (text : String) : Except Fault UInt64 :=
  if text.isEmpty then .error .empty else readFrom 0 0 text.toList

end PacketLog.Base58
