/-
Texts of numbers tell the numbers.

Whatever the radix, a number is read back from the characters of its digits.  Decimal texts stand
among other characters, and are told from these by the first one that is no digit.

* `takeWhile_append_of_stops` — a run of characters of a class can be told from what follows it;
* `map_map_digit` — the digits of a number are read off their characters;
* `length_digits_le` — how many digits a number has;
* `exists_eq_zeros_append_digits` — digits are zeros before those of the number they stand for;
* `Decimal.ofNat_append_inj`, `Decimal.ofInt_append_inj`, `Decimal.signed_append_inj` — a decimal
  text ends before the first character that is no digit.
-/
import Mathlib
import PacketLog.Numeral.Base58

namespace PacketLog

/-- A run of characters of a class ends before the first character that is none of them. -/
theorem takeWhile_append_of_stops {p : Char → Bool} {as xs : List Char}
    (has : ∀ c ∈ as, p c = true) (hxs : ∀ c ∈ xs.head?, p c = false) :
    (as ++ xs).takeWhile p = as := by
  rw [List.takeWhile_append_of_pos has]
  cases xs with
  | nil => rw [List.takeWhile_nil, List.append_nil]
  | cons x xs => rw [List.takeWhile_cons_of_neg (by simp [hxs x rfl]), List.append_nil]

theorem Numeral.digits_ne_nil (b n : Nat) : digits b n ≠ [] := by
  rw [digits]
  split <;> simp

/-- A number below a power of the base has no more digits than the exponent says. -/
theorem Numeral.length_digits_le {b n k : Nat} (hb : 2 ≤ b) (h : n < b ^ (k + 1)) :
    (digits b n).length ≤ k + 1 := by
  induction k generalizing n with
  | zero =>
    rw [Nat.zero_add, Nat.pow_one] at h
    rw [digits_of_lt h, List.length_singleton]
  | succ k ih =>
    by_cases hlt : n < b
    · rw [digits_of_lt hlt, List.length_singleton]
      omega
    · have hdiv : n / b < b ^ (k + 1) := by
        rw [Nat.pow_succ, Nat.mul_comm] at h
        exact Nat.div_lt_of_lt_mul h
      rw [digits_of_le hb (by omega), List.length_append, List.length_singleton]
      exact Nat.succ_le_succ (ih hdiv)

/-- Only zero has a zero as its first digit. -/
theorem Numeral.head?_digits_ne_zero {b n : Nat} (hb : 2 ≤ b) (hn : n ≠ 0) :
    (digits b n).head? ≠ some 0 := by
  induction n using Nat.strongRecOn with
  | _ n ih =>
    by_cases hlt : n < b
    · rw [digits_of_lt hlt]
      exact fun h => hn (Option.some.inj h)
    · have hdiv : n / b ≠ 0 := (Nat.div_pos (by omega) (by omega)).ne'
      rw [digits_of_le hb (by omega), List.head?_append_of_ne_nil _ (digits_ne_nil b _)]
      exact ih _ (Nat.div_lt_self (by omega) (by omega)) hdiv

/-- The digits of a number are found behind the zeros of any digits that stand for it. -/
theorem Numeral.exists_eq_zeros_append_digits {b : Nat} (hb : 2 ≤ b) {ds : List Nat}
    (hne : ds ≠ []) (h : ∀ d ∈ ds, d < b) :
    ∃ zeros, ds = List.replicate zeros 0 ++ digits b (value b ds) := by
  -- The last digit is taken off; the digits before it are zeros or stand for a number above zero.
  induction ds using List.reverseRecOn with
  | nil => exact absurd rfl hne
  | append_singleton ds d ih =>
    have hd : d < b := h d (by simp)
    rw [value_concat]
    by_cases hnil : ds = []
    · subst hnil
      refine ⟨0, ?_⟩
      rw [value_nil, Nat.zero_mul, Nat.zero_add, digits_of_lt hd]
      rfl
    · obtain ⟨zeros, hzeros⟩ := ih hnil fun e he => h e (by simp [he])
      by_cases hvalue : value b ds = 0
      · refine ⟨zeros + 1, ?_⟩
        rw [hvalue, digits_of_lt (by omega)] at hzeros
        rw [hvalue, Nat.zero_mul, Nat.zero_add, digits_of_lt hd, List.replicate_succ', ← hzeros]
      · refine ⟨zeros, ?_⟩
        have hle : b ≤ value b ds * b + d :=
          (Nat.le_mul_of_pos_left b (Nat.pos_of_ne_zero hvalue)).trans (Nat.le_add_right _ _)
        have hdiv : (value b ds * b + d) / b = value b ds := by
          rw [Nat.mul_comm, Nat.mul_add_div (by omega), Nat.div_eq_of_lt hd, Nat.add_zero]
        have hmod : (value b ds * b + d) % b = d := by
          rw [Nat.mul_comm, Nat.mul_add_mod, Nat.mod_eq_of_lt hd]
        rw [digits_of_le hb hle, hdiv, hmod, ← List.append_assoc, ← hzeros]

/-- The digits of a number are told by their characters, when each character tells its digit. -/
theorem Numeral.map_map_digit {b : Nat} {digit : Nat → Char} {digitValue : Char → Nat}
    (hb : 2 ≤ b) (hdigit : ∀ d < b, digitValue (digit d) = d) (n : Nat) :
    ((digits b n).map digit).map digitValue = digits b n := by
  rw [List.map_map]
  conv_rhs => rw [← List.map_id (digits b n)]
  exact List.map_congr_left fun d hd => hdigit d (digits_lt hb d hd)

theorem Base58.length_encode_le {word : UInt64} {k : Nat} (h : word.toNat < radix ^ (k + 1)) :
    (encode word).length ≤ k + 1 := by
  rw [encode, String.length_ofList, List.length_map]
  exact Numeral.length_digits_le (by decide) h

namespace Decimal

theorem length_ofNat_le {n k : Nat} (h : n < 10 ^ (k + 1)) : (ofNat n).length ≤ k + 1 := by
  rw [ofNat, String.length_ofList, List.length_map]
  exact Numeral.length_digits_le (by decide) h

/-- The characters do not go on with a digit. -/
def NoDigitNext (cs : List Char) : Prop := ∀ c ∈ cs.head?, c.isDigit = false

theorem value_ofNat (n : Nat) :
    Numeral.value 10 ((ofNat n).toList.map fun c => c.toNat - 48) = n := by
  have hdigit : ∀ d < 10, (digit d).toNat - 48 = d := by decide
  rw [ofNat, String.toList_ofList, Numeral.map_map_digit (by decide) hdigit, Numeral.value_digits]

theorem ofNat_injective : Function.Injective ofNat := by
  intro m n h
  rw [← value_ofNat m, h, value_ofNat n]

theorem isDigit_of_mem_ofNat {n : Nat} {c : Char} (h : c ∈ (ofNat n).toList) :
    c.isDigit = true := by
  rw [ofNat, String.toList_ofList] at h
  obtain ⟨d, hd, rfl⟩ := List.mem_map.mp h
  have hdigit : ∀ d < 10, (digit d).isDigit = true := by decide
  exact hdigit d (Numeral.digits_lt (by decide) d hd)

theorem exists_ofNat_eq_cons (n : Nat) :
    ∃ c cs, (ofNat n).toList = c :: cs ∧ c.isDigit = true := by
  have hne : (ofNat n).toList ≠ [] := by
    rw [ofNat, String.toList_ofList, Ne, List.map_eq_nil_iff]
    exact Numeral.digits_ne_nil 10 n
  obtain ⟨c, cs, hcs⟩ := List.exists_cons_of_ne_nil hne
  exact ⟨c, cs, hcs, isDigit_of_mem_ofNat (by rw [hcs]; exact List.mem_cons_self)⟩

theorem takeWhile_ofNat_append (n : Nat) {cs : List Char} (h : NoDigitNext cs) :
    ((ofNat n).toList ++ cs).takeWhile Char.isDigit = (ofNat n).toList :=
  takeWhile_append_of_stops (fun _ hc => isDigit_of_mem_ofNat hc) h

/-- **A decimal text ends where the digits end.** -/
theorem ofNat_append_inj {m n : Nat} {cs ds : List Char} (hcs : NoDigitNext cs)
    (hds : NoDigitNext ds) (h : (ofNat m).toList ++ cs = (ofNat n).toList ++ ds) :
    m = n ∧ cs = ds := by
  have htexts : (ofNat m).toList = (ofNat n).toList := by
    rw [← takeWhile_ofNat_append m hcs, h, takeWhile_ofNat_append n hds]
  obtain rfl := ofNat_injective (String.toList_inj.mp htexts)
  exact ⟨rfl, List.append_cancel_left h⟩

theorem toList_ofInt_negSucc (n : Nat) :
    (ofInt (.negSucc n)).toList = '-' :: (ofNat (n + 1)).toList := by
  rw [ofInt, String.toList_append]
  rfl

/-- A number with a minus sign is not one without. -/
theorem ofInt_negSucc_append_ne (m n : Nat) (cs ds : List Char) :
    (ofInt (.negSucc m)).toList ++ cs ≠ (ofInt (.ofNat n)).toList ++ ds := by
  obtain ⟨c, rest, hc, hdigit⟩ := exists_ofNat_eq_cons n
  intro h
  rw [toList_ofInt_negSucc, ofInt, hc, List.cons_append, List.cons_append] at h
  rw [← (List.cons.inj h).1] at hdigit
  exact absurd hdigit (by decide)

theorem ofInt_append_inj {m n : Int} {cs ds : List Char} (hcs : NoDigitNext cs)
    (hds : NoDigitNext ds) (h : (ofInt m).toList ++ cs = (ofInt n).toList ++ ds) :
    m = n ∧ cs = ds := by
  rcases m with m | m <;> rcases n with n | n
  · obtain ⟨rfl, rfl⟩ := ofNat_append_inj hcs hds h
    exact ⟨rfl, rfl⟩
  · exact absurd h.symm (ofInt_negSucc_append_ne n m ds cs)
  · exact absurd h (ofInt_negSucc_append_ne m n cs ds)
  · rw [toList_ofInt_negSucc, toList_ofInt_negSucc, List.cons_append, List.cons_append] at h
    obtain ⟨hmn, rfl⟩ := ofNat_append_inj hcs hds (List.cons.inj h).2
    obtain rfl : m = n := Nat.succ.inj hmn
    exact ⟨rfl, rfl⟩

theorem ofInt_injective : Function.Injective ofInt := by
  intro m n h
  have hend : NoDigitNext [] := by rintro c ⟨⟩
  exact (ofInt_append_inj hend hend (congrArg (fun s : String => s.toList ++ []) h)).1

theorem toList_signed_ofNat (n : Nat) : (signed (.ofNat n)).toList = '+' :: (ofNat n).toList := by
  rw [signed, String.toList_append]
  rfl

theorem toList_signed_negSucc (n : Nat) :
    (signed (.negSucc n)).toList = '-' :: (ofNat (n + 1)).toList := by
  rw [signed, String.toList_append]
  rfl

theorem signed_append_inj {m n : Int} {cs ds : List Char} (hcs : NoDigitNext cs)
    (hds : NoDigitNext ds) (h : (signed m).toList ++ cs = (signed n).toList ++ ds) :
    m = n ∧ cs = ds := by
  rcases m with m | m <;> rcases n with n | n
  · rw [toList_signed_ofNat, toList_signed_ofNat] at h
    obtain ⟨rfl, rfl⟩ := ofNat_append_inj hcs hds (List.cons.inj h).2
    exact ⟨rfl, rfl⟩
  · rw [toList_signed_ofNat, toList_signed_negSucc] at h
    exact absurd (List.cons.inj h).1 (by decide)
  · rw [toList_signed_negSucc, toList_signed_ofNat] at h
    exact absurd (List.cons.inj h).1 (by decide)
  · rw [toList_signed_negSucc, toList_signed_negSucc] at h
    obtain ⟨hmn, rfl⟩ := ofNat_append_inj hcs hds (List.cons.inj h).2
    obtain rfl : m = n := Nat.succ.inj hmn
    exact ⟨rfl, rfl⟩

end Decimal

end PacketLog
