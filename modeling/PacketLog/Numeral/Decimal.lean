/-
Decimal text of numbers.

`Decimal.ofNat` writes a natural number with no padding, `Decimal.ofInt` puts a minus sign before
a negative number, and `Decimal.signed` a sign before every number, zero counting as positive.
-/
import PacketLog.Numeral

namespace PacketLog.Decimal

def digit (d : Nat) : Char := Char.ofNat (48 + d)

def ofNat (n : Nat) : String :=
  String.ofList ((Numeral.digits 10 n).map digit)

def ofInt : Int → String
  | .ofNat n => ofNat n
  | .negSucc n => "-" ++ ofNat (n + 1)

/-- The decimal text of an integer, with its sign also when it is not negative. -/
def signed : Int → String
  | .ofNat n => "+" ++ ofNat n
  | .negSucc n => "-" ++ ofNat (n + 1)

end PacketLog.Decimal
