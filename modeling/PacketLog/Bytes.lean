/-
Byte strings, and unsigned numbers stored in them least significant byte first.

`Bytes.ofNat w n` stores `n` in `w` bytes and `Bytes.toNat bs` reads a number back.
-/
namespace PacketLog

abbrev Bytes := List UInt8

namespace Bytes

/-- The low `256 ^ width` part of `n` in `width` bytes, least significant byte first. -/
def ofNat : (width n : Nat) → Bytes
  | 0, _ => []
  | width + 1, n => UInt8.ofNat (n % 256) :: ofNat width (n / 256)

/-- The number that a byte string stores, least significant byte first. -/
def toNat : Bytes → Nat
  | [] => 0
  | b :: bs => b.toNat + 256 * toNat bs

@[simp] theorem length_ofNat (width n : Nat) : (ofNat width n).length = width := by
  induction width generalizing n with
  | zero => rfl
  | succ width ih => simp [ofNat, ih]

end Bytes

end PacketLog
