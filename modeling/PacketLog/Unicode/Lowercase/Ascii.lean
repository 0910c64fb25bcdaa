/-
Lower case and ASCII.

A text in ASCII has the lower case that ASCII alone gives it.  Outside ASCII there is one character
whose lower case is an ASCII letter, the Kelvin sign, and one whose lower case begins with one, `İ`,
but goes on with a character that is not ASCII.

* `lowercase_of_ascii` — the lower case of a text in ASCII;
* `exists_mem_lowerChar` — what the lower case of any other character holds;
* `lowercase_eq_iff` — a name in ASCII without a `k` is the lower case of its spellings in ASCII
  capitals and small letters, and of no other text.
-/
import Mathlib
import PacketLog.Text.Utf8.RoundTrip
import PacketLog.Unicode.Lowercase

namespace PacketLog.Unicode

/-! ### Characters -/

/-- The lower-case forms of a run are characters outside ASCII, unless the run is that of the ASCII
capitals or the Kelvin sign alone. -/
theorem image_of_mem_capitals : ∀ r ∈ capitalsLow ++ capitalsHigh,
    r.last < 0x80 ∨ (r.first = r.last ∧ r.image = 'k'.toNat) ∨
      (0x80 ≤ r.image ∧ (r.image + (r.last - r.first) < 0xD800 ∨
        0xDFFF < r.image ∧ r.image + (r.last - r.first) < 0x110000)) := by
  decide +kernel

theorem lowerCode_of_lt :
    ∀ n < 0x80, lowerCode n = (Char.ofNat n).toLower.toNat := by
  decide +kernel

theorem lowerChar_of_lt {c : Char} (h : c.toNat < 0x80) : lowerChar c = [c.toLower] := by
  rw [lowerChar, if_neg (by omega), lowerCode_of_lt _ h, Char.ofNat_toNat, Char.ofNat_toNat]

/-- A capital lies in its run. -/
theorem lowerCode_cases (n : Nat) :
    lowerCode n = n ∨ ∃ r ∈ capitalsLow ++ capitalsHigh, r.first ≤ n ∧ n ≤ r.last ∧
      lowerCode n = r.image + (n - r.first) := by
  rw [lowerCode]
  cases hfound : (if n < 0x2000 then capitalsLow else capitalsHigh).find? (·.holds n) with
  | none => exact .inl rfl
  | some r =>
    have hmem : r ∈ capitalsLow ++ capitalsHigh := by
      have h := List.mem_of_find?_eq_some hfound
      split_ifs at h
      · exact List.mem_append_left _ h
      · exact List.mem_append_right _ h
    have hholds := List.find?_some hfound
    rw [CaseRange.holds, Bool.and_eq_true, Bool.and_eq_true, decide_eq_true_iff,
      decide_eq_true_iff] at hholds
    exact .inr ⟨r, hmem, hholds.1.1, hholds.1.2, rfl⟩

/-- The lower case of a character outside ASCII holds another such character, unless it is `k`. -/
theorem exists_mem_lowerChar {c : Char} (h : 0x80 ≤ c.toNat) :
    ∃ x ∈ lowerChar c, 0x80 ≤ x.toNat ∨ x = 'k' := by
  rw [lowerChar]
  split_ifs
  · exact ⟨Char.ofNat 0x0307, by simp, by decide⟩
  · refine ⟨_, List.mem_singleton_self _, ?_⟩
    rcases lowerCode_cases c.toNat with hself | ⟨r, hr, hfirst, hlast, himage⟩
    · rw [hself, Char.ofNat_toNat]
      exact .inl h
    · rw [himage]
      rcases image_of_mem_capitals r hr with hascii | ⟨hone, hk⟩ | ⟨hfar, hvalid⟩
      · omega
      · right
        rw [hk, show c.toNat - r.first = 0 by omega, Nat.add_zero, Char.ofNat_toNat]
      · left
        rw [Utf8.toNat_char_ofNat (by omega)]
        omega

theorem toLower_of_le {c : Char} (h : 0x80 ≤ c.toNat) : c.toLower = c := by
  rw [Char.toLower, dif_neg]
  rintro ⟨-, hle⟩
  have hle : c.toNat ≤ 0x5A := hle
  omega

/-! ### Texts -/

/-- **Within ASCII the lower case is that of ASCII.** -/
theorem lowercase_of_ascii {s : String} (h : ∀ c ∈ s.toList, c.toNat < 0x80) :
    lowercase s = s.toLower := by
  rw [← String.toList_inj, lowercase, String.toList_ofList, String.toLower, String.toList_map,
    List.map_eq_flatMap]
  exact List.flatMap_congr fun c hc => lowerChar_of_lt (h c hc)

/-- Only a text in ASCII has an ASCII lower case in ASCII. -/
theorem ascii_of_toLower {s : String} (h : ∀ c ∈ s.toLower.toList, c.toNat < 0x80) :
    ∀ c ∈ s.toList, c.toNat < 0x80 := by
  intro c hc
  by_contra hfar
  have hmem : c ∈ s.toLower.toList := by
    rw [String.toLower, String.toList_map, ← toLower_of_le (Nat.le_of_not_lt hfar)]
    exact List.mem_map_of_mem hc
  exact hfar (h c hmem)

/-- **A name in ASCII without a `k` is the lower case of its own spellings only.** -/
theorem lowercase_eq_iff {s name : String} (h : ∀ c ∈ name.toList, c.toNat < 0x80 ∧ c ≠ 'k') :
    lowercase s = name ↔ s.toLower = name := by
  constructor
  · rintro rfl
    refine (lowercase_of_ascii fun c hc => ?_).symm
    by_contra hfar
    obtain ⟨x, hx, hcase⟩ := exists_mem_lowerChar (Nat.le_of_not_lt hfar)
    have hmem : x ∈ (lowercase s).toList := by
      rw [lowercase, String.toList_ofList]
      exact List.mem_flatMap_of_mem hc hx
    obtain ⟨hascii, hk⟩ := h x hmem
    exact hcase.elim (by omega) hk
  · rintro rfl
    exact lowercase_of_ascii (ascii_of_toLower fun c hc => (h c hc).1)

/-- The Kelvin sign is no spelling of `k` in ASCII. -/
example : lowercase "\u212A" = "k" ∧ "\u212A".toLower ≠ "k" := by decide +kernel

end PacketLog.Unicode
