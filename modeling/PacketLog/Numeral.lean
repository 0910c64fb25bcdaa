/-
Positional numerals.

`digits b n` are the digits of `n` in base `b`, most significant first, zero being the one
digit `0`.  `value b ds` is the number that a list of digits stands for.

* `value_digits : value b (digits b n) = n` (the digits of a number stand for it),
* `digits_lt : d ∈ digits b n → d < b` (they are digits of the base).
-/
namespace PacketLog.Numeral

/-- The digits of `n` in base `b`, most significant first. -/
def digits (b n : Nat) : List Nat :=
  if _h : 2 ≤ b ∧ b ≤ n then digits b (n / b) ++ [n % b] else [n]
termination_by n
decreasing_by exact Nat.div_lt_self (by omega) (by omega)

/-- The number that digits in base `b` stand for, most significant first. -/
def value (b : Nat) (ds : List Nat) : Nat :=
  ds.foldl (fun v d => v * b + d) 0

@[simp] theorem value_nil (b : Nat) : value b [] = 0 := rfl

theorem value_concat (b : Nat) (ds : List Nat) (d : Nat) :
    value b (ds ++ [d]) = value b ds * b + d := by
  simp [value]

theorem digits_of_lt {b n : Nat} (h : n < b) : digits b n = [n] := by
  rw [digits, dif_neg (by omega)]

theorem digits_of_le {b n : Nat} (hb : 2 ≤ b) (h : b ≤ n) :
    digits b n = digits b (n / b) ++ [n % b] := by
  rw [digits, dif_pos ⟨hb, h⟩]

theorem value_digits (b n : Nat) : value b (digits b n) = n := by
  induction n using Nat.strongRecOn with
  | _ n ih =>
    by_cases h : 2 ≤ b ∧ b ≤ n
    · rw [digits_of_le h.1 h.2, value_concat, ih _ (Nat.div_lt_self (by omega) (by omega)),
        Nat.mul_comm, Nat.div_add_mod]
    · rw [digits, dif_neg h]
      simp [value]

theorem digits_lt {b n : Nat} (hb : 2 ≤ b) : ∀ d ∈ digits b n, d < b := by
  induction n using Nat.strongRecOn with
  | _ n ih =>
    intro d hd
    by_cases h : b ≤ n
    · rw [digits_of_le hb h, List.mem_append, List.mem_singleton] at hd
      rcases hd with hd | rfl
      · exact ih _ (Nat.div_lt_self (by omega) (by omega)) d hd
      · exact Nat.mod_lt _ (by omega)
    · rw [digits_of_lt (by omega), List.mem_singleton] at hd
      omega

end PacketLog.Numeral
