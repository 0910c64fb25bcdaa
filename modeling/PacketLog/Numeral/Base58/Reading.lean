/-
How a base-58 text is read.

No two digits of the alphabet are the same, so that the characters of a text tell its digits.  They
are read from left to right and the value grows with each of them.  So a text has too large a value
as soon as its digits before the first other character have, and what comes behind does not matter
any more; no value is skipped on the way.

* `encode_injective` — different words have different texts;
* `readFrom_eq` — the digits in front and the character behind them tell what reading gives;
* `decode_eq` — the same for a whole text;
* `decode_eq_ok_iff_digits` — which texts are read as a word;
* `decodeWords_eq` — a value kept in a word, each product and each sum checked, gives the same.
-/
import PacketLog.Numeral.RoundTrip

namespace PacketLog.Base58

/-- Whether a character is a digit. -/
def isDigit (c : Char) : Bool := c ∈ alphabet.toList

/-- The place of a digit in the alphabet. -/
def digitIndex (c : Char) : Nat := alphabet.toList.idxOf c

theorem digitValue?_of_isDigit {c : Char} (h : isDigit c = true) :
    digitValue? c = some (digitIndex c) := by
  have hmem : c ∈ alphabet.toList := of_decide_eq_true h
  rw [digitValue?, digitIndex, List.idxOf_eq_getD_idxOf?]
  cases hfound : alphabet.toList.idxOf? c with
  | none => exact absurd hmem (List.idxOf?_eq_none_iff.mp hfound)
  | some d => rfl

theorem digitValue?_of_not_isDigit {c : Char} (h : isDigit c = false) : digitValue? c = none :=
  List.idxOf?_eq_none_iff.mpr (of_decide_eq_false h)

theorem length_alphabet : alphabet.toList.length = radix := by decide +kernel

theorem nodup_alphabet : alphabet.toList.Nodup := by decide +kernel

theorem digit_eq_getElem {d : Nat} (h : d < alphabet.toList.length) :
    digit d = alphabet.toList[d] := by
  rw [digit, List.getD_eq_getElem?_getD, List.getElem?_eq_getElem h, Option.getD_some]

theorem isDigit_digit {d : Nat} (h : d < radix) : isDigit (digit d) = true := by
  rw [← length_alphabet] at h
  rw [digit_eq_getElem h]
  exact decide_eq_true (List.getElem_mem h)

theorem digitIndex_digit {d : Nat} (h : d < radix) : digitIndex (digit d) = d := by
  rw [← length_alphabet] at h
  rw [digit_eq_getElem h]
  exact nodup_alphabet.idxOf_getElem d h

theorem digitIndex_lt {c : Char} (h : isDigit c = true) : digitIndex c < radix := by
  rw [← length_alphabet]
  exact List.idxOf_lt_length_iff.mpr (of_decide_eq_true h)

theorem digit_digitIndex {c : Char} (h : isDigit c = true) : digit (digitIndex c) = c := by
  have hlt : digitIndex c < alphabet.toList.length :=
    List.idxOf_lt_length_iff.mpr (of_decide_eq_true h)
  rw [digit_eq_getElem hlt]
  exact List.getElem_idxOf hlt

/-! ### The text of a word -/

theorem toList_encode (word : UInt64) :
    (encode word).toList = (Numeral.digits radix word.toNat).map digit := by
  rw [encode, String.toList_ofList]

theorem toList_encode_ne_nil (word : UInt64) : (encode word).toList ≠ [] := by
  rw [toList_encode, Ne, List.map_eq_nil_iff]
  exact Numeral.digits_ne_nil radix _

theorem isDigit_of_mem_encode {word : UInt64} {c : Char} (h : c ∈ (encode word).toList) :
    isDigit c = true := by
  rw [toList_encode] at h
  obtain ⟨d, hd, rfl⟩ := List.mem_map.mp h
  exact isDigit_digit (Numeral.digits_lt (by decide) d hd)

theorem map_digitIndex_encode (word : UInt64) :
    (encode word).toList.map digitIndex = Numeral.digits radix word.toNat := by
  rw [toList_encode]
  exact Numeral.map_map_digit (by decide) (fun d hd => digitIndex_digit hd) word.toNat

theorem value_encode (word : UInt64) :
    Numeral.value radix ((encode word).toList.map digitIndex) = word.toNat := by
  rw [map_digitIndex_encode, Numeral.value_digits]

theorem encode_injective : Function.Injective encode := by
  intro v w h
  rw [← UInt64.toNat_inj, ← value_encode v, h, value_encode w]

/-! ### The value of digits -/

/-- The number that digits stand for behind others of a value. -/
def valueFrom (value : Nat) (cs : List Char) : Nat :=
  cs.foldl (fun v c => v * radix + digitIndex c) value

theorem valueFrom_cons (value : Nat) (c : Char) (cs : List Char) :
    valueFrom value (c :: cs) = valueFrom (value * radix + digitIndex c) cs := rfl

theorem value_map_digitIndex (cs : List Char) :
    Numeral.value radix (cs.map digitIndex) = valueFrom 0 cs := by
  rw [Numeral.value, List.foldl_map, valueFrom]

/-- A value does not shrink with the digits behind it. -/
theorem le_valueFrom (value : Nat) (cs : List Char) : value ≤ valueFrom value cs := by
  induction cs generalizing value with
  | nil => exact Nat.le_refl value
  | cons c cs ih =>
    have hstep : value ≤ value * radix + digitIndex c :=
      (Nat.le_mul_of_pos_right value (by decide)).trans (Nat.le_add_right _ _)
    rw [valueFrom_cons]
    exact hstep.trans (ih (value * radix + digitIndex c))

/-! ### Reading -/

/-- **What reading gives.**  If the digits in front, behind those read already, have too large a
value, then that is the fault, whatever comes behind them; else it is the first other character. -/
theorem readFrom_eq {value : Nat} (h : value < UInt64.size) (position : Nat) (cs : List Char) :
    readFrom position value cs =
      if UInt64.size ≤ valueFrom value (cs.takeWhile isDigit) then .error .overflow
      else
        match cs.dropWhile isDigit with
        | [] => .ok (UInt64.ofNat (valueFrom value (cs.takeWhile isDigit)))
        | c :: _ => .error (.invalidDigit c (position + (cs.takeWhile isDigit).length)) := by
  -- The digits are read one at a time; of the value read so far only that it is a word is known.
  induction cs generalizing value position with
  | nil => exact (if_neg (Nat.not_le.mpr h)).symm
  | cons c cs ih =>
    cases hc : isDigit c with
    | false =>
      rw [readFrom, digitValue?_of_not_isDigit hc, List.takeWhile_cons_of_neg (by simp [hc]),
        List.dropWhile_cons_of_neg (by simp [hc])]
      exact (if_neg (Nat.not_le.mpr h)).symm
    | true =>
      rw [readFrom, digitValue?_of_isDigit hc, List.takeWhile_cons_of_pos hc,
        List.dropWhile_cons_of_pos hc, valueFrom_cons]
      by_cases hnext : value * radix + digitIndex c < UInt64.size
      · have hplace : position + (c :: cs.takeWhile isDigit).length =
            position + 1 + (cs.takeWhile isDigit).length := by
          rw [List.length_cons]
          omega
        rw [hplace]
        exact (if_pos hnext).trans (ih hnext (position + 1))
      · have hover := (Nat.not_lt.mp hnext).trans (le_valueFrom _ (cs.takeWhile isDigit))
        rw [if_pos hover]
        exact if_neg hnext

theorem decode_eq (text : String) :
    decode text =
      if text = "" then .error .empty
      else if UInt64.size ≤ valueFrom 0 (text.toList.takeWhile isDigit) then .error .overflow
      else
        match text.toList.dropWhile isDigit with
        | [] => .ok (UInt64.ofNat (valueFrom 0 (text.toList.takeWhile isDigit)))
        | c :: _ => .error (.invalidDigit c (text.toList.takeWhile isDigit).length) := by
  rw [decode, readFrom_eq (by decide), Nat.zero_add]
  simp only [String.isEmpty_iff]

/-- A text is read as a word if it consists of digits, one at least, that stand for it. -/
theorem decode_eq_ok_iff_digits {text : String} {word : UInt64} :
    decode text = .ok word ↔
      text ≠ "" ∧ (∀ c ∈ text.toList, isDigit c = true) ∧
        Numeral.value radix (text.toList.map digitIndex) = word.toNat := by
  rw [decode_eq, value_map_digitIndex]
  by_cases hempty : text = ""
  · rw [if_pos hempty]
    exact ⟨fun h => absurd h (by simp), fun h => absurd hempty h.1⟩
  rw [if_neg hempty]
  by_cases hall : ∀ c ∈ text.toList, isDigit c = true
  · have htake : text.toList.takeWhile isDigit = text.toList := List.takeWhile_eq_self_iff.mpr hall
    have hdrop : text.toList.dropWhile isDigit = [] := List.dropWhile_eq_nil_iff.mpr hall
    rw [htake, hdrop]
    constructor
    · intro h
      split_ifs at h with hover
      rw [← Except.ok.inj h, UInt64.toNat_ofNat_of_lt' (Nat.not_le.mp hover)]
      exact ⟨hempty, hall, rfl⟩
    · rintro ⟨-, -, hvalue⟩
      rw [hvalue, if_neg (Nat.not_le.mpr word.toNat_lt), UInt64.ofNat_toNat]
  · refine ⟨fun h => ?_, fun h => absurd h.2.1 hall⟩
    split_ifs at h with hover
    split at h
    · next hdrop => exact absurd (List.dropWhile_eq_nil_iff.mp hdrop) hall
    · exact absurd h (by simp)

/-! ### Reading in words -/

/-- Reads the digits from `position` on, with the value in a word.  The product and the sum of each
step are looked at before they are taken. -/
def readWords (position : Nat) (value : UInt64) : List Char → Except Fault UInt64
  | [] => .ok value
  | c :: cs =>
    match digitValue? c with
    | none => .error (.invalidDigit c position)
    | some d =>
      let product := value * UInt64.ofNat radix
      if UInt64.size ≤ value.toNat * radix then .error .overflow
      else if UInt64.size ≤ product.toNat + d then .error .overflow
      else readWords (position + 1) (product + UInt64.ofNat d) cs

def decodeWords (text : String) : Except Fault UInt64 :=
  if text.isEmpty then .error .empty else readWords 0 0 text.toList

theorem readWords_eq (position : Nat) (value : UInt64) (cs : List Char) :
    readWords position value cs = readFrom position value.toNat cs := by
  induction cs generalizing position value with
  | nil => rw [readWords, readFrom, UInt64.ofNat_toNat]
  | cons c cs ih =>
    rw [readWords, readFrom]
    cases digitValue? c with
    | none => rfl
    | some d =>
      dsimp only
      by_cases hproduct : UInt64.size ≤ value.toNat * radix
      · have hsum : ¬ value.toNat * radix + d < UInt64.size := by omega
        rw [if_pos hproduct, if_neg hsum]
      · have hword : (value * UInt64.ofNat radix).toNat = value.toNat * radix := by
          rw [UInt64.toNat_mul, UInt64.toNat_ofNat_of_lt' (show radix < UInt64.size by decide)]
          exact Nat.mod_eq_of_lt (Nat.not_le.mp hproduct)
        rw [if_neg hproduct, hword]
        by_cases hsum : UInt64.size ≤ value.toNat * radix + d
        · rw [if_pos hsum, if_neg (Nat.not_lt.mpr hsum)]
        · have hd : d < UInt64.size := by omega
          have hnext : (value * UInt64.ofNat radix + UInt64.ofNat d).toNat =
              value.toNat * radix + d := by
            rw [UInt64.toNat_add, hword, UInt64.toNat_ofNat_of_lt' hd]
            exact Nat.mod_eq_of_lt (Nat.not_le.mp hsum)
          rw [if_neg hsum, if_pos (Nat.not_le.mp hsum), ih, hnext]

/-- No product and no sum wraps. -/
theorem decodeWords_eq (text : String) : decodeWords text = decode text := by
  rw [decodeWords, decode, readWords_eq]
  rfl

end PacketLog.Base58
