/-
Which bytes are UTF-8, and what is found wrong with those that are not.

Well-formed bytes are said here without the reader or the writer of this library: they are what
Lean itself writes for some characters.  The reader takes one segment after the other, and each
kind of segment says which characters the bytes before and behind its end can begin.

* `exists_decode_eq_ok_iff` — exactly the well-formed bytes are read;
* `opens_first` — the first segment of some bytes: a character, a byte that begins none, the
  beginning of a character with a byte behind it that does not go on with one, or such a beginning
  with nothing behind it;
* `diagnosed_of_decode` — what is reported of bytes that are not well formed.
-/
import Mathlib
import PacketLog.Text.Utf8.RoundTrip

namespace PacketLog.Utf8

/-- The bytes are UTF-8: what Lean writes for some characters. -/
def WellFormed (bs : Bytes) : Prop := ∃ cs : List Char, cs.flatMap String.utf8EncodeChar = bs

/-- The bytes are an initial segment of a character. -/
def BeginsChar (bs : Bytes) : Prop := ∃ c : Char, bs <+: String.utf8EncodeChar c

/-- The bytes are a proper initial segment of a character of several bytes. -/
def CutsChar (bs : Bytes) : Prop :=
  bs ≠ [] ∧ ∃ c : Char, bs <+: String.utf8EncodeChar c ∧
    bs.length < (String.utf8EncodeChar c).length

theorem encodeChar_eq (c : Char) : encodeChar c = String.utf8EncodeChar c := by
  have hv : c.toNat < 0xD800 ∨ (0xDFFF < c.toNat ∧ c.toNat < 0x110000) := c.valid
  have hn : c.val.toNat = c.toNat := rfl
  rw [String.utf8EncodeChar, hn]
  unfold encodeChar
  dsimp only
  generalize c.toNat = n at *
  have hmore (k : Nat) : 0x80 + k % 64 = k % 64 + 128 := Nat.add_comm _ _
  -- The lead byte holds what is left of the number, which the bound on it makes all of it.
  by_cases h1 : n < 0x80
  · rw [if_pos h1, if_pos (show n ≤ 127 by omega)]
  rw [if_neg h1, if_neg (show ¬ n ≤ 127 by omega)]
  by_cases h2 : n < 0x800
  · have hlead : 0xC0 + n / 64 = n / 64 % 32 + 192 := by omega
    rw [if_pos h2, if_pos (show n ≤ 2047 by omega), hlead, hmore]
  rw [if_neg h2, if_neg (show ¬ n ≤ 2047 by omega)]
  by_cases h3 : n < 0x10000
  · have hlead : 0xE0 + n / 4096 = n / 4096 % 16 + 224 := by omega
    rw [if_pos h3, if_pos (show n ≤ 65535 by omega), hlead, hmore, hmore]
  · have hlead : 0xF0 + n / 262144 = n / 262144 % 8 + 240 := by omega
    rw [if_neg h3, if_neg (show ¬ n ≤ 65535 by omega), hlead, hmore, hmore, hmore]

theorem wellFormed_encode (s : String) : WellFormed (encode s) := by
  refine ⟨s.toList, ?_⟩
  rw [encode, funext encodeChar_eq]

theorem exists_encode_eq {bs : Bytes} (h : WellFormed bs) : ∃ s, encode s = bs := by
  obtain ⟨cs, rfl⟩ := h
  refine ⟨String.ofList cs, ?_⟩
  rw [encode, String.toList_ofList, funext encodeChar_eq]

/-- **Exactly the well-formed bytes are read.** -/
theorem exists_decode_eq_ok_iff {bs : Bytes} : (∃ s, decode bs = .ok s) ↔ WellFormed bs := by
  constructor
  · rintro ⟨s, hs⟩
    rw [← encode_of_decode hs]
    exact wellFormed_encode s
  · intro h
    obtain ⟨s, rfl⟩ := exists_encode_eq h
    exact ⟨s, decode_encode s⟩

theorem exists_decode_eq_error_iff {bs : Bytes} :
    (∃ fault, decode bs = .error fault) ↔ ¬ WellFormed bs := by
  rw [← exists_decode_eq_ok_iff]
  cases decode bs with
  | error fault => simp
  | ok s => simp

/-! ### The first segment -/

/-- Bytes in the bounds can be put in for those that are still to follow. -/
theorem exists_follow_eq_char {low high : Nat} (hlow : low ≤ high) (hhigh : high < 256)
    (bits more : Nat) (seen : Bytes) :
    ∃ tail c, tail.length = more ∧ follow bits seen more low high tail = (.char c, []) := by
  induction more generalizing bits seen low high with
  | zero => exact ⟨[], _, rfl, follow_zero bits low high seen []⟩
  | succ more ih =>
    obtain ⟨tail, c, hlen, htail⟩ := ih (show 0x80 ≤ 0xBF by omega) (show 0xBF < 256 by omega)
      (bits * 64 + (low - 0x80)) (seen ++ [UInt8.ofNat low])
    refine ⟨UInt8.ofNat low :: tail, c, by rw [List.length_cons, hlen], ?_⟩
    rw [follow_of_mem (by omega) (Nat.le_refl low) hlow, htail]

/-- All that `follow` can do.  It reads some of the bytes and ends with a character, whatever comes
behind them; or a byte behind them is out of bounds, or there is none, and then other bytes there
would have ended a character. -/
theorem follow_cases {low high : Nat} (hlow : low ≤ high) (hhigh : high < 256) (bits more : Nat)
    (seen rest : Bytes) :
    (∃ c taken tail, rest = taken ++ tail ∧
      ∀ behind, follow bits seen more low high (taken ++ behind) = (.char c, behind)) ∨
    (∃ taken x tail, rest = taken ++ x :: tail ∧
      (∀ behind, follow bits seen more low high (taken ++ x :: behind) =
        (.stray (seen ++ taken), x :: behind)) ∧
      ∃ other c, other ≠ [] ∧ follow bits seen more low high (taken ++ other) = (.char c, [])) ∨
    (follow bits seen more low high rest = (.cut (seen ++ rest), []) ∧
      ∃ other c, other ≠ [] ∧ follow bits seen more low high (rest ++ other) = (.char c, [])) := by
  induction more generalizing bits seen low high rest with
  | zero => exact .inl ⟨_, [], rest, rfl, fun behind => follow_zero bits low high seen behind⟩
  | succ more ih =>
    obtain ⟨other, c, hlen, hother⟩ := exists_follow_eq_char hlow hhigh bits (more + 1) seen
    have hne : other ≠ [] := List.ne_nil_of_length_eq_add_one hlen
    rcases rest with _ | ⟨b, rest⟩
    · refine .inr (.inr ⟨?_, other, c, hne, hother⟩)
      rw [follow, List.append_nil]
    · by_cases hb : low ≤ b.toNat ∧ b.toNat ≤ high
      · -- The byte is read, and the others are read as they are behind it.
        have hstep (behind : Bytes) : follow bits seen (more + 1) low high (b :: behind) =
            follow (bits * 64 + (b.toNat - 0x80)) (seen ++ [b]) more 0x80 0xBF behind := by
          rw [follow, if_pos hb]
        have hseen (taken : Bytes) : seen ++ [b] ++ taken = seen ++ b :: taken := by
          rw [List.append_assoc, List.singleton_append]
        rcases ih (show 0x80 ≤ 0xBF by omega) (show 0xBF < 256 by omega)
          (bits * 64 + (b.toNat - 0x80)) (seen ++ [b]) rest with
          ⟨c, taken, tail, rfl, hchar⟩ | ⟨taken, x, tail, rfl, hstray, other, c, hne, hchar⟩ |
          ⟨hcut, other, c, hne, hchar⟩
        · refine .inl ⟨c, b :: taken, tail, rfl, ?_⟩
          intro behind
          rw [List.cons_append, hstep, hchar]
        · refine .inr (.inl ⟨b :: taken, x, tail, rfl, ?_, other, c, hne, ?_⟩)
          · intro behind
            rw [List.cons_append, hstep, hstray, hseen]
          · rw [List.cons_append, hstep, hchar]
        · refine .inr (.inr ⟨?_, other, c, hne, ?_⟩)
          · rw [hstep, hcut, hseen]
          · rw [List.cons_append, hstep, hchar]
      · refine .inr (.inl ⟨[], b, rest, rfl, ?_, other, c, hne, hother⟩)
        intro behind
        rw [List.nil_append, follow, if_neg hb, List.append_nil]

/-- What the first segment of a byte string is, and the bytes behind it. -/
inductive Opens : Bytes → Segment × Bytes → Prop
  | char (c : Char) (tail : Bytes) : Opens (encodeChar c ++ tail) (.char c, tail)
  /-- No character begins with the first byte. -/
  | stray {b : UInt8} {tail : Bytes} (hb : ¬ BeginsChar [b]) : Opens (b :: tail) (.stray [b], tail)
  /-- A character begins with the bytes, but none with them and the byte behind them. -/
  | broken {bs tail : Bytes} {x : UInt8} (hbs : CutsChar bs) (hx : ¬ BeginsChar (bs ++ [x])) :
      Opens (bs ++ x :: tail) (.stray bs, x :: tail)
  | cut {bs : Bytes} (hbs : CutsChar bs) : Opens bs (.cut bs, [])

theorem BeginsChar.of_prefix {bs cs : Bytes} (h : BeginsChar cs) (hbs : bs <+: cs) :
    BeginsChar bs := by
  obtain ⟨c, hc⟩ := h
  exact ⟨c, hbs.trans hc⟩

/-- The bounds that a lead byte puts on the next one are not empty. -/
theorem Lead.bounds_of_ofByte? {n : Nat} {lead : Lead} (h : ofByte? n = some lead) :
    lead.low ≤ lead.high ∧ lead.high < 256 := by
  unfold ofByte? at h
  split_ifs at h
  all_goals
    obtain rfl := Option.some.inj h
    dsimp only
    omega

/-- What is read as a character is the character that the bytes begin with. -/
theorem first_of_append_eq {b : UInt8} {rest tail : Bytes} {c : Char}
    (h : b :: rest = encodeChar c ++ tail) : first b rest = (.char c, tail) := by
  obtain ⟨b', rest', heq, hfirst⟩ := exists_first_encodeChar c tail
  obtain ⟨rfl, rfl⟩ := List.cons.inj (h.trans heq)
  exact hfirst

/-- Some bytes of a character that are not all of it cut it. -/
theorem cutsChar_of_first {b : UInt8} {taken other : Bytes} {c : Char} (hne : other ≠ [])
    (h : first b (taken ++ other) = (.char c, [])) : CutsChar (b :: taken) := by
  have hbytes := first_bytes b (taken ++ other)
  rw [h, List.append_nil, Segment.bytes, encodeChar_eq] at hbytes
  refine ⟨by simp, c, ⟨other, hbytes.symm⟩, ?_⟩
  have hpos := List.length_pos_of_ne_nil hne
  rw [hbytes, List.length_cons, List.length_cons, List.length_append]
  omega

/-- Bytes that are read as no character, whatever comes behind them, begin none. -/
theorem not_beginsChar_of_first {b : UInt8} {taken : Bytes}
    (h : ∀ behind c tail, first b (taken ++ behind) ≠ (.char c, tail)) :
    ¬ BeginsChar (b :: taken) := by
  rintro ⟨c, behind, hc⟩
  have heq : b :: (taken ++ behind) = encodeChar c ++ [] := by
    rw [List.append_nil, encodeChar_eq, ← hc, List.cons_append]
  exact h behind c [] (first_of_append_eq heq)

/-- **The first segment of a byte string.** -/
theorem opens_first (b : UInt8) (rest : Bytes) : Opens (b :: rest) (first b rest) := by
  by_cases hb : b.toNat < 0x80
  · have hfirst : first b rest = (.char (Char.ofNat b.toNat), rest) := by
      rw [first, if_pos hb]
    have hopens := Opens.char (Char.ofNat b.toNat) rest
    rw [encodeChar_one hb] at hopens
    rw [hfirst]
    exact hopens
  · rcases hlead : Lead.ofByte? b.toNat with _ | lead
    · have hfirst (behind : Bytes) : first b behind = (.stray [b], behind) := by
        rw [first, if_neg hb, hlead]
      rw [hfirst]
      refine .stray (not_beginsChar_of_first ?_)
      intro behind c tail h
      rw [List.nil_append, hfirst] at h
      exact absurd (Prod.mk.inj h).1 (by simp)
    · have hfirst (behind : Bytes) :
          first b behind = follow lead.bits [b] lead.more lead.low lead.high behind := by
        rw [first, if_neg hb, hlead]
      obtain ⟨hlow, hhigh⟩ := Lead.bounds_of_ofByte? hlead
      rcases follow_cases hlow hhigh lead.bits lead.more [b] rest with
        ⟨c, taken, tail, rfl, hchar⟩ | ⟨taken, x, tail, rfl, hstray, other, c, hne, hchar⟩ |
        ⟨hcut, other, c, hne, hchar⟩
      · have hbytes := first_bytes b (taken ++ tail)
        have hopens := Opens.char c tail
        rw [hfirst, hchar] at hbytes ⊢
        rw [← hbytes]
        exact hopens
      · rw [hfirst, hstray]
        rw [← hfirst] at hchar
        have hx : ¬ BeginsChar (b :: (taken ++ [x])) := by
          refine not_beginsChar_of_first ?_
          intro behind c tail h
          rw [List.append_assoc, List.singleton_append, hfirst, hstray] at h
          exact absurd (Prod.mk.inj h).1 (by simp)
        exact .broken (cutsChar_of_first hne hchar) hx
      · rw [hfirst, hcut]
        rw [← hfirst] at hchar
        exact .cut (cutsChar_of_first hne hchar)

/-! ### The fault of bytes that are not well formed -/

/-- The fault that a segment at a place is reported as. -/
def Segment.fault? (start : Nat) : Segment → Option Fault
  | .char _ => none
  | .stray bytes => some (.invalid bytes.length start)
  | .cut _ => some (.incomplete start)

/-- A fault comes from the first segment that is no character. -/
theorem exists_first_of_characters {bs : Bytes} {start : Nat} {fault : Fault}
    (h : characters start (segments bs) = .error fault) :
    ∃ (cs : List Char) (b : UInt8) (left : Bytes), bs = cs.flatMap encodeChar ++ b :: left ∧
      (first b left).1.fault? (start + (cs.flatMap encodeChar).length) = some fault := by
  fun_induction segments bs generalizing start with
  | case1 => exact absurd h (by simp [characters])
  | case2 b rest ih =>
    have hbytes := first_bytes b rest
    cases hseg : (first b rest).1 with
    | char c =>
      rw [hseg, characters] at h
      rw [hseg, Segment.bytes] at hbytes
      cases hrest : characters (start + (encodeChar c).length) (segments (first b rest).2) with
      | error fault' =>
        rw [hrest] at h
        obtain rfl := Except.error.inj h
        obtain ⟨cs, b', left, heq, hfault⟩ := ih hrest
        refine ⟨c :: cs, b', left, ?_, ?_⟩
        · rw [List.flatMap_cons, List.append_assoc, ← heq, hbytes]
        · rw [List.flatMap_cons, List.length_append, ← Nat.add_assoc]
          exact hfault
      | ok cs =>
        rw [hrest] at h
        exact absurd h (by simp [Except.map])
    | stray bytes =>
      rw [hseg] at h
      refine ⟨[], b, rest, rfl, ?_⟩
      rw [hseg]
      exact congrArg some (Except.error.inj h)
    | cut bytes =>
      rw [hseg] at h
      refine ⟨[], b, rest, rfl, ?_⟩
      rw [hseg]
      exact congrArg some (Except.error.inj h)

/-- The lengths of those initial segments of some bytes that a character begins with. -/
def beginnings (bs : Bytes) : Set Nat := {n | 0 < n ∧ n ≤ bs.length ∧ BeginsChar (bs.take n)}

theorem CutsChar.length_le {bs : Bytes} (h : CutsChar bs) : bs.length ≤ 3 := by
  obtain ⟨-, c, -, hlt⟩ := h
  have hsize : (String.utf8EncodeChar c).length ≤ 4 := by
    rw [← encodeChar_eq]
    unfold encodeChar
    dsimp only
    split_ifs
    all_goals simp
  omega

/-- **What the first segment of some bytes is reported as**, if it is no character. -/
theorem fault?_first {b : UInt8} {left : Bytes} {start : Nat} {fault : Fault}
    (h : (first b left).1.fault? start = some fault) :
    (fault = .incomplete start ∧ CutsChar (b :: left)) ∨
    ∃ n, fault = .invalid n start ∧ ¬ CutsChar (b :: left) ∧ 1 ≤ n ∧ n ≤ 3 ∧
      (IsGreatest (beginnings (b :: left)) n ∨ beginnings (b :: left) = ∅ ∧ n = 1) := by
  have hopens := opens_first b left
  generalize first b left = x at h hopens
  generalize hbytes : b :: left = bytes at hopens ⊢
  cases hopens with
  | char c tail => exact absurd h (by simp [Segment.fault?])
  | @stray b' tail hb =>
    refine .inr ⟨1, (Option.some.inj h).symm, ?_, Nat.le_refl 1, by omega, .inr ⟨?_, rfl⟩⟩
    · rintro ⟨-, c, hc, -⟩
      exact hb ⟨c, (List.prefix_append [b'] tail).trans hc⟩
    · refine Set.eq_empty_iff_forall_notMem.mpr ?_
      rintro k ⟨hk, -, hbegins⟩
      obtain ⟨k, rfl⟩ := Nat.exists_eq_add_one.mpr hk
      rw [List.take_succ_cons] at hbegins
      exact hb (hbegins.of_prefix (List.prefix_append [b'] (tail.take k)))
  | @broken bs tail x hbs hx =>
    -- Every longer initial segment has the byte in it that does not go on with a character.
    have hlonger : bs ++ [x] <+: bs ++ x :: tail :=
      (List.prefix_append_right_inj bs).mpr (List.prefix_append [x] tail)
    refine .inr ⟨bs.length, (Option.some.inj h).symm, ?_, List.length_pos_of_ne_nil hbs.1,
      hbs.length_le, .inl ⟨⟨List.length_pos_of_ne_nil hbs.1, by simp, ?_⟩, ?_⟩⟩
    · rintro ⟨-, c, hc, -⟩
      exact hx ⟨c, hlonger.trans hc⟩
    · obtain ⟨-, c, hc, -⟩ := hbs
      rw [List.take_left]
      exact ⟨c, hc⟩
    · rintro k ⟨-, -, hbegins⟩
      by_contra hlt
      refine hx (hbegins.of_prefix (List.prefix_take_iff.mpr ⟨hlonger, ?_⟩))
      rw [List.length_append, List.length_singleton]
      omega
  | cut hbs => exact .inl ⟨(Option.some.inj h).symm, hbs⟩

/-- **The place of a fault** is behind the longest initial segment that is well formed. -/
theorem isGreatest_wellFormed {cs : List Char} {b : UInt8} {left : Bytes}
    (h : ∀ c, (first b left).1 ≠ .char c) :
    let bs := cs.flatMap encodeChar ++ b :: left
    IsGreatest {n | n ≤ bs.length ∧ WellFormed (bs.take n)} (cs.flatMap encodeChar).length := by
  intro bs
  constructor
  · constructor
    · rw [List.length_append]
      omega
    · rw [List.take_left, funext encodeChar_eq]
      exact ⟨cs, rfl⟩
  · rintro n ⟨-, ds, hds⟩
    by_contra hlt
    -- With one byte more the segments would go on with the first one behind the characters.
    obtain ⟨k, rfl⟩ : ∃ k, n = (cs.flatMap encodeChar).length + (k + 1) :=
      ⟨n - (cs.flatMap encodeChar).length - 1, by omega⟩
    rw [List.take_length_add_append, List.take_succ_cons, ← funext encodeChar_eq] at hds
    have hsegs := congrArg segments hds
    rw [segments_flatMap_encodeChar, segments_flatMap_append, segments] at hsegs
    have hmem : (first b (left.take k)).1 ∈ ds.map .char := by
      rw [hsegs]
      simp
    obtain ⟨c, -, hc⟩ := List.mem_map.mp hmem
    have hbytes := first_bytes b (left.take k)
    rw [← hc, Segment.bytes] at hbytes
    have hall : b :: left = encodeChar c ++ ((first b (left.take k)).2 ++ left.drop k) := by
      rw [← List.append_assoc, hbytes, List.cons_append, List.take_append_drop]
    exact h c (congrArg Prod.fst (first_of_append_eq hall))

/-- **What is reported of bytes that are not well formed.**  The place is behind the longest initial
segment that is well formed.  If all bytes behind the place are the beginning of a character they
are incomplete, and else as many of them are invalid as a character can begin with, or one. -/
theorem diagnosed_of_decode {bs : Bytes} {fault : Fault} (h : decode bs = .error fault) :
    ∃ i, IsGreatest {n | n ≤ bs.length ∧ WellFormed (bs.take n)} i ∧
      ((fault = .incomplete i ∧ CutsChar (bs.drop i)) ∨
        ∃ n, fault = .invalid n i ∧ ¬ CutsChar (bs.drop i) ∧ 1 ≤ n ∧ n ≤ 3 ∧
          (IsGreatest (beginnings (bs.drop i)) n ∨ beginnings (bs.drop i) = ∅ ∧ n = 1)) := by
  have hchars : characters 0 (segments bs) = .error fault := by
    rw [decode] at h
    cases hchars : characters 0 (segments bs) with
    | error fault' =>
      rw [hchars] at h
      exact congrArg Except.error (Except.error.inj h)
    | ok cs =>
      rw [hchars] at h
      exact absurd h (by simp [Except.map])
  obtain ⟨cs, b, left, rfl, hfault⟩ := exists_first_of_characters hchars
  rw [Nat.zero_add] at hfault
  have hfirst (c : Char) : (first b left).1 ≠ .char c := by
    intro hc
    rw [hc] at hfault
    exact absurd hfault (by simp [Segment.fault?])
  refine ⟨(cs.flatMap encodeChar).length, isGreatest_wellFormed hfirst, ?_⟩
  rw [List.drop_left]
  exact fault?_first hfault

end PacketLog.Utf8
