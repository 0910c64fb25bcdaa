/-
How the base-58 texts of words are ordered.

Of two numbers the larger one has more digits, or it has as many and the larger digit where they
differ first.  So texts are in the order of their words if shorter texts come first and texts of
one length are compared digit by digit, each digit by its place in the alphabet.

* `Numeral.value_cons`, `Numeral.value_lt_pow` — what the first digit and the others stand for;
* `Numeral.shortlex_digits_iff` — the digits of numbers are in the order of the numbers;
* `Base58.precedes_encode_iff` — the texts of words are in the order of the words, with what all of
  them look like.
-/
import PacketLog.Proofs.Decoding

namespace PacketLog

namespace Numeral

/-- The first digit stands before the others, which count as many places as there are of them. -/
theorem value_cons (b d : Nat) (ds : List Nat) :
    value b (d :: ds) = d * b ^ ds.length + value b ds := by
  -- The value grows with the last digit, so the induction takes that one off.
  induction ds using List.reverseRecOn with
  | nil => simp [value]
  | append_singleton ds e ih =>
    rw [← List.cons_append, value_concat, value_concat, ih, List.length_append,
      List.length_singleton, Nat.pow_succ, Nat.add_mul, Nat.mul_assoc, Nat.add_assoc]

theorem value_lt_pow {b : Nat} {ds : List Nat} (h : ∀ d ∈ ds, d < b) :
    value b ds < b ^ ds.length := by
  induction ds with
  | nil => simp
  | cons d ds ih =>
    have hd : d + 1 ≤ b := h d (by simp)
    have hds := ih fun e he => h e (by simp [he])
    rw [value_cons, List.length_cons, Nat.pow_succ, Nat.mul_comm (b ^ ds.length)]
    calc d * b ^ ds.length + value b ds
        < d * b ^ ds.length + b ^ ds.length := Nat.add_lt_add_left hds _
      _ = (d + 1) * b ^ ds.length := (Nat.succ_mul d _).symm
      _ ≤ b * b ^ ds.length := Nat.mul_le_mul_right _ hd

/-- Of as many digits, those with the smaller value have the smaller digit where the two lists
differ first. -/
theorem lex_of_value_lt {b : Nat} {ds es : List Nat} (hlen : ds.length = es.length)
    (hes : ∀ e ∈ es, e < b) (h : value b ds < value b es) : List.Lex (· < ·) ds es := by
  induction ds generalizing es with
  | nil =>
    obtain rfl := List.eq_nil_of_length_eq_zero hlen.symm
    exact absurd h (Nat.lt_irrefl _)
  | cons d ds ih =>
    rcases es with _ | ⟨e, es⟩
    · exact absurd hlen (by simp)
    have hrest : ds.length = es.length := Nat.succ.inj hlen
    have hbound := value_lt_pow fun c hc => hes c (List.mem_cons_of_mem e hc)
    rw [value_cons, value_cons, hrest] at h
    rcases Nat.lt_trichotomy d e with hlt | rfl | hgt
    · exact .rel hlt
    · exact .cons (ih hrest (fun c hc => hes c (List.mem_cons_of_mem d hc))
        (Nat.lt_of_add_lt_add_left h))
    · -- A larger first digit makes up for all digits behind the smaller one.
      have hfirst : (e + 1) * b ^ es.length ≤ d * b ^ es.length := Nat.mul_le_mul_right _ hgt
      rw [Nat.succ_mul] at hfirst
      omega

theorem length_digits_mono {b m n : Nat} (hb : 2 ≤ b) (h : m ≤ n) :
    (digits b m).length ≤ (digits b n).length := by
  -- Taking the last digit off both numbers keeps their order.
  induction n using Nat.strongRecOn generalizing m with
  | _ n ih =>
    by_cases hm : m < b
    · rw [digits_of_lt hm, List.length_singleton]
      exact List.length_pos_of_ne_nil (digits_ne_nil b n)
    · have hbm : b ≤ m := Nat.not_lt.mp hm
      have hdiv := ih (n / b) (Nat.div_lt_self (by omega) hb) (Nat.div_le_div_right h)
      rw [digits_of_le hb hbm, digits_of_le hb (hbm.trans h), List.length_append,
        List.length_append]
      exact Nat.add_le_add_right hdiv 1

theorem shortlex_digits {b m n : Nat} (hb : 2 ≤ b) (h : m < n) :
    List.Shortlex (· < ·) (digits b m) (digits b n) := by
  rcases Nat.lt_or_eq_of_le (length_digits_mono hb h.le) with hlt | heq
  · exact .of_length_lt hlt
  · refine .of_lex heq (lex_of_value_lt heq (digits_lt hb) ?_)
    rwa [value_digits, value_digits]

/-- **The digits of numbers are in the order of the numbers**: fewer digits first, and as many of
them digit by digit. -/
theorem shortlex_digits_iff {b m n : Nat} (hb : 2 ≤ b) :
    List.Shortlex (· < ·) (digits b m) (digits b n) ↔ m < n := by
  refine ⟨fun h => ?_, shortlex_digits hb⟩
  -- The order of the digits is asymmetric, so the converse comes from the other direction.
  by_contra hle
  rcases Nat.lt_or_eq_of_le (Nat.not_lt.mp hle) with hlt | rfl
  · exact asymm h (shortlex_digits hb hlt)
  · exact asymm h h

end Numeral

namespace Base58

/-- The order of texts: shorter texts first, and texts of one length digit by digit, in the order
of the alphabet. -/
def Precedes (s t : String) : Prop :=
  List.Shortlex (· < ·) (s.toList.map digitIndex) (t.toList.map digitIndex)

/-- Zero is the only word whose text begins with the digit zero. -/
theorem head?_toList_encode_iff {word : UInt64} :
    (encode word).toList.head? = some '1' ↔ word = 0 := by
  constructor
  · intro h
    by_contra hword
    refine head?_toList_encode_ne (fun hzero => hword ?_) h
    exact UInt64.toNat_inj.mp hzero
  · rintro rfl
    rw [toList_encode, UInt64.toNat_zero, Numeral.digits_of_lt (by decide), List.map_singleton,
      digit_zero, List.head?_cons]

/-- **The texts of words are in the order of the words.**  Every text consists of digits, of one at
least and of eleven at most, and begins with the digit zero only if it is the text of zero; a word
of 32 bits has six digits at most. -/
theorem precedes_encode_iff :
    (∀ v w : UInt64, v < w ↔ Precedes (encode v) (encode w)) ∧
    (∀ word : UInt64,
      (encode word).toList ⊆ alphabet.toList ∧
      1 ≤ (encode word).length ∧ (encode word).length ≤ maxLength ∧
      ((encode word).toList.head? = some '1' ↔ word = 0)) ∧
    ∀ word : UInt32, (encode word.toUInt64).length ≤ 6 := by
  refine ⟨fun v w => ?_, fun word => ⟨?_, ?_, ?_, head?_toList_encode_iff⟩, fun word => ?_⟩
  · rw [Precedes, map_digitIndex_encode, map_digitIndex_encode,
      Numeral.shortlex_digits_iff (by decide), UInt64.lt_iff_toNat_lt]
  · intro c hc
    exact of_decide_eq_true (isDigit_of_mem_encode hc)
  · rw [← String.length_toList]
    exact List.length_pos_of_ne_nil (toList_encode_ne_nil word)
  · exact length_encode_le (word.toNat_lt.trans (by decide))
  · refine length_encode_le ?_
    rw [UInt32.toNat_toUInt64]
    exact word.toNat_lt.trans (by decide)

end Base58

end PacketLog
