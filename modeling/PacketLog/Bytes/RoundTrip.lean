/-
Storing numbers in bytes and reading them undo each other.

* `toNat_ofNat : toNat (ofNat w n) = n % 256 ^ w` (a number that fits is read back),
* `ofNat_toNat : ofNat bs.length (toNat bs) = bs` (every byte string is the store of a number).
-/
import Mathlib
import PacketLog.Bytes

namespace PacketLog.Bytes

theorem toNat_lt (bs : Bytes) : toNat bs < 256 ^ bs.length := by
  induction bs with
  | nil => simp [toNat]
  | cons b bs ih =>
    have hb := b.toNat_lt
    rw [toNat, List.length_cons, Nat.pow_succ]
    omega

theorem toNat_ofNat (width n : Nat) : toNat (ofNat width n) = n % 256 ^ width := by
  induction width generalizing n with
  | zero => simp [ofNat, toNat, Nat.mod_one]
  | succ width ih =>
    have hb : (UInt8.ofNat (n % 256)).toNat = n % 256 := by simp
    rw [ofNat, toNat, ih, hb, Nat.pow_succ, Nat.mul_comm (256 ^ width), Nat.mod_mul]

theorem ofNat_toNat (bs : Bytes) : ofNat bs.length (toNat bs) = bs := by
  induction bs with
  | nil => rfl
  | cons b bs ih =>
    have hb := b.toNat_lt
    have hmod : (b.toNat + 256 * toNat bs) % 256 = b.toNat := by omega
    have hdiv : (b.toNat + 256 * toNat bs) / 256 = toNat bs := by omega
    rw [toNat, List.length_cons, ofNat, hmod, hdiv, ih, UInt8.ofNat_toNat]

end PacketLog.Bytes
