/-
Which texts are the base-58 text of a word, and what is wrong with the others.

A word has one text that does not begin with a zero, the one that it is written as, and it is read
from that text and from the same text behind any number of zeros.  Every other text is refused: an
empty one, one whose digits up to the first other character stand for too large a number, and one
with another character behind digits that do not.

* `Base58.decode_eq_ok_iff` — the texts that are read as a word;
* `Base58.decode_eq_iff` — every text by what is read or what is wrong with it.
-/
import PacketLog.Numeral.Base58.Reading

namespace PacketLog.Base58

/-! ### Zeros in front -/

theorem digit_zero : digit 0 = '1' := by decide +kernel

theorem digitIndex_one : digitIndex '1' = 0 := by
  rw [← digit_zero, digitIndex_digit (by decide)]

theorem isDigit_of_mem_zeros_append {zeros : Nat} {word : UInt64} {c : Char}
    (h : c ∈ List.replicate zeros '1' ++ (encode word).toList) : isDigit c = true := by
  rcases List.mem_append.mp h with hzero | hdigit
  · rw [List.eq_of_mem_replicate hzero, ← digit_zero]
    exact isDigit_digit (by decide)
  · exact isDigit_of_mem_encode hdigit

theorem valueFrom_zeros_append (zeros : Nat) (cs : List Char) :
    valueFrom 0 (List.replicate zeros '1' ++ cs) = valueFrom 0 cs := by
  induction zeros with
  | zero => rfl
  | succ zeros ih =>
    rw [List.replicate_succ, List.cons_append, valueFrom_cons, digitIndex_one]
    exact ih

/-- The digits of a word behind zeros stand for the word. -/
theorem value_zeros_append (zeros : Nat) (word : UInt64) :
    Numeral.value radix ((List.replicate zeros '1' ++ (encode word).toList).map digitIndex) =
      word.toNat := by
  rw [value_map_digitIndex, valueFrom_zeros_append, ← value_map_digitIndex, value_encode]

/-- Digits that stand for a word are its digits behind zeros. -/
theorem exists_eq_zeros_append {cs : List Char} {word : UInt64} (hne : cs ≠ [])
    (hdigits : ∀ c ∈ cs, isDigit c = true)
    (hvalue : Numeral.value radix (cs.map digitIndex) = word.toNat) :
    ∃ zeros, cs = List.replicate zeros '1' ++ (encode word).toList := by
  have hlt : ∀ d ∈ cs.map digitIndex, d < radix := by
    intro d hd
    obtain ⟨c, hc, rfl⟩ := List.mem_map.mp hd
    exact digitIndex_lt (hdigits c hc)
  have hback : (cs.map digitIndex).map digit = cs := by
    rw [List.map_map]
    conv_rhs => rw [← List.map_id cs]
    exact List.map_congr_left fun c hc => digit_digitIndex (hdigits c hc)
  -- The values of the characters are the digits of a number behind zeros.
  obtain ⟨zeros, hzeros⟩ :=
    Numeral.exists_eq_zeros_append_digits (by decide) (by simpa using hne) hlt
  refine ⟨zeros, ?_⟩
  rw [← hback, hzeros, hvalue, List.map_append, List.map_replicate, digit_zero, toList_encode]

/-- The digits of a text from the first that is not zero on, the last one in any case. -/
def withoutZeros (cs : List Char) : List Char :=
  match cs.dropWhile (· == '1') with
  | [] => ['1']
  | c :: rest => c :: rest

theorem head?_toList_encode_ne {word : UInt64} (h : word.toNat ≠ 0) :
    (encode word).toList.head? ≠ some '1' := by
  rw [toList_encode, List.head?_map]
  intro hone
  obtain ⟨d, hhead, hd⟩ := Option.map_eq_some_iff.mp hone
  have hlt : d < radix := Numeral.digits_lt (by decide) d (List.mem_of_head? hhead)
  have hzero : d = 0 := by rw [← digitIndex_digit hlt, hd, digitIndex_one]
  exact Numeral.head?_digits_ne_zero (by decide) h (hzero ▸ hhead)

theorem withoutZeros_zeros_append (zeros : Nat) (word : UInt64) :
    withoutZeros (List.replicate zeros '1' ++ (encode word).toList) = (encode word).toList := by
  have hdrop : (List.replicate zeros '1' ++ (encode word).toList).dropWhile (· == '1') =
      (encode word).toList.dropWhile (· == '1') :=
    List.dropWhile_append_of_pos fun c hc => beq_iff_eq.mpr (List.eq_of_mem_replicate hc)
  rw [withoutZeros, hdrop]
  -- Only the text of zero begins with a zero, which is the last digit and stays.
  by_cases hword : word.toNat = 0
  · rw [toList_encode, hword, Numeral.digits_of_lt (by decide), List.map_singleton, digit_zero]
    rfl
  · have hhead := head?_toList_encode_ne hword
    cases htext : (encode word).toList with
    | nil => exact absurd htext (toList_encode_ne_nil word)
    | cons c cs =>
      rw [htext, List.head?_cons] at hhead
      rw [List.dropWhile_cons_of_neg (by simpa using hhead)]

theorem decode_eq_ok_iff_zeros {text : String} {word : UInt64} :
    decode text = .ok word ↔
      ∃ zeros, text.toList = List.replicate zeros '1' ++ (encode word).toList := by
  rw [decode_eq_ok_iff_digits, Ne, ← String.toList_eq_nil_iff]
  constructor
  · rintro ⟨hne, hdigits, hvalue⟩
    exact exists_eq_zeros_append hne hdigits hvalue
  · rintro ⟨zeros, htext⟩
    rw [htext]
    exact ⟨List.append_ne_nil_of_right_ne_nil _ (toList_encode_ne_nil word),
      fun c hc => isDigit_of_mem_zeros_append hc, value_zeros_append zeros word⟩

theorem decode_encode (word : UInt64) : decode (encode word) = .ok word :=
  decode_eq_ok_iff_zeros.mpr ⟨0, rfl⟩

/-- **Base-58 texts are exact up to zeros in front.**  Every word is read back from its text, a text
is read as a word exactly if it is the text of the word behind some zeros, and so writing what was
read gives the text without the zeros in front of it. -/
theorem decode_eq_ok_iff :
    (∀ word, decode (encode word) = .ok word) ∧
    (∀ text word, decode text = .ok word ↔
      ∃ zeros, text.toList = List.replicate zeros '1' ++ (encode word).toList) ∧
    ∀ text word, decode text = .ok word → (encode word).toList = withoutZeros text.toList := by
  refine ⟨decode_encode, fun text word => decode_eq_ok_iff_zeros, fun text word h => ?_⟩
  obtain ⟨zeros, htext⟩ := decode_eq_ok_iff_zeros.mp h
  rw [htext, withoutZeros_zeros_append]

/-- The largest word, read from behind three zeros. -/
theorem decode_eq_ok_iff_largest :
    decode "111JPwcyDCgEup" = .ok 0xFFFFFFFFFFFFFFFF ∧
      (encode 0xFFFFFFFFFFFFFFFF).toList = withoutZeros "111JPwcyDCgEup".toList := by
  have h : decode "111JPwcyDCgEup" = .ok 0xFFFFFFFFFFFFFFFF := by decide +kernel
  exact ⟨h, decode_eq_ok_iff.2.2 _ _ h⟩

/-! ### All texts -/

theorem decode_eq_empty_iff {text : String} : decode text = .error .empty ↔ text = "" := by
  rw [decode_eq]
  constructor
  · intro h
    by_contra hne
    rw [if_neg hne] at h
    split at h
    · exact absurd h (by simp)
    · split at h <;> exact absurd h (by simp)
  · intro hempty
    rw [if_pos hempty]

theorem decode_eq_overflow_iff {text : String} :
    decode text = .error .overflow ↔
      UInt64.size ≤ valueFrom 0 (text.toList.takeWhile isDigit) := by
  rw [decode_eq]
  constructor
  · intro h
    by_contra hlt
    rw [if_neg hlt] at h
    split at h
    · exact absurd h (by simp)
    · split at h <;> exact absurd h (by simp)
  · intro hover
    -- An empty text stands for zero, which is not too large.
    have hne : text ≠ "" := by
      rintro rfl
      exact absurd hover (by decide)
    rw [if_neg hne, if_pos hover]

theorem decode_eq_invalidDigit_iff {text : String} {c : Char} {position : Nat} :
    decode text = .error (.invalidDigit c position) ↔
      valueFrom 0 (text.toList.takeWhile isDigit) < UInt64.size ∧
        position = (text.toList.takeWhile isDigit).length ∧
        ∃ rest, text.toList.dropWhile isDigit = c :: rest := by
  rw [decode_eq]
  constructor
  · intro h
    -- The checks come in this order: an empty text, too large a value, and then the character.
    split at h
    · exact absurd h (by simp)
    · split at h
      · exact absurd h (by simp)
      · next hlt =>
        split at h
        · exact absurd h (by simp)
        · next d rest hdrop =>
          obtain ⟨rfl, rfl⟩ := Fault.invalidDigit.inj (Except.error.inj h)
          exact ⟨Nat.not_le.mp hlt, rfl, rest, hdrop⟩
  · rintro ⟨hlt, rfl, rest, hdrop⟩
    have hne : text ≠ "" := by
      rintro rfl
      exact absurd hdrop (by simp)
    rw [if_neg hne, if_neg (Nat.not_le.mpr hlt), hdrop]

/-- A character that is no digit and has only digits before it is the first behind them. -/
theorem exists_dropWhile_eq_cons_iff {cs : List Char} {c : Char} :
    (∃ rest, cs.dropWhile isDigit = c :: rest) ↔
      isDigit c = false ∧ ∃ rest, cs = cs.takeWhile isDigit ++ c :: rest := by
  constructor
  · rintro ⟨rest, hdrop⟩
    have hfirst := List.head_dropWhile_not isDigit (l := cs) (by simp [hdrop])
    simp only [hdrop, List.head_cons] at hfirst
    refine ⟨hfirst, rest, ?_⟩
    rw [← hdrop, List.takeWhile_append_dropWhile]
  · rintro ⟨-, rest, hcs⟩
    have htext : cs.takeWhile isDigit ++ cs.dropWhile isDigit =
        cs.takeWhile isDigit ++ c :: rest := by
      rw [List.takeWhile_append_dropWhile, ← hcs]
    exact ⟨rest, List.append_cancel_left htext⟩

/-- **What is read of a text, or what is wrong with it.**  Only an empty text is refused as empty.
The digits in front of the first other character decide whether the value is too large, whatever
that character is; if it is not, the text is refused for the character, or read if there is none.
It is the same with a value that is kept in a word, each product and each sum checked. -/
theorem decode_eq_iff (text : String) :
    let digits := text.toList.takeWhile isDigit
    let number := Numeral.value radix (digits.map digitIndex)
    (decode text = .error .empty ↔ text = "") ∧
    (decode text = .error .overflow ↔ 2 ^ 64 ≤ number) ∧
    (∀ word, decode text = .ok word ↔
      text ≠ "" ∧ number < 2 ^ 64 ∧ digits = text.toList ∧ word.toNat = number) ∧
    (∀ c position, decode text = .error (.invalidDigit c position) ↔
      number < 2 ^ 64 ∧ isDigit c = false ∧ position = digits.length ∧
        ∃ rest, text.toList = digits ++ c :: rest) ∧
    decodeWords text = decode text := by
  intro digits number
  have hnumber : number = valueFrom 0 digits := value_map_digitIndex digits
  have hall : digits = text.toList ↔ ∀ c ∈ text.toList, isDigit c = true :=
    List.takeWhile_eq_self_iff
  refine ⟨decode_eq_empty_iff, ?_, fun word => ?_, fun c position => ?_, decodeWords_eq text⟩
  · rw [decode_eq_overflow_iff, hnumber]
    rfl
  · -- The digits in front are all of the text exactly if it holds nothing else.
    rw [decode_eq_ok_iff_digits, ← hall]
    constructor
    · rintro ⟨hne, hdigits, hvalue⟩
      have hword : number = word.toNat := by
        rw [← hvalue, ← hdigits]
      exact ⟨hne, hword ▸ word.toNat_lt, hdigits, hword.symm⟩
    · rintro ⟨hne, -, hdigits, hvalue⟩
      refine ⟨hne, hdigits, ?_⟩
      rw [hvalue, ← hdigits]
  · rw [decode_eq_invalidDigit_iff, exists_dropWhile_eq_cons_iff, hnumber]
    constructor
    · rintro ⟨hlt, hposition, hc, hrest⟩
      exact ⟨hlt, hc, hposition, hrest⟩
    · rintro ⟨hlt, hc, hposition, hrest⟩
      exact ⟨hlt, hposition, hc, hrest⟩

end PacketLog.Base58
