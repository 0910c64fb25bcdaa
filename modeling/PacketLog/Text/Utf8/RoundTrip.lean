/-
Writing and reading UTF-8 undo each other.

* `decode_encode : decode (encode s) = .ok s` (what is written is read back),
* `segments_bytes` : the segments of a byte string, put together, are the byte string,
* `encode_of_decode : decode bs = .ok s → encode s = bs` (what is read has one written form),
* `ascii_mem_encode_iff` : a byte below 0x80 is written only for the character that it stands for.
-/
import PacketLog.Text.Utf8

namespace PacketLog.Utf8

/-! ### Reading what was written -/

theorem toNat_ofNat_of_lt {n : Nat} (h : n < 256) : (UInt8.ofNat n).toNat = n := by
  simp [Nat.mod_eq_of_lt h]

theorem follow_of_mem {bits more low high n : Nat} {seen rest : Bytes} (hn : n < 256)
    (hlow : low ≤ n) (hhigh : n ≤ high) :
    follow bits seen (more + 1) low high (UInt8.ofNat n :: rest) =
      follow (bits * 64 + (n - 0x80)) (seen ++ [UInt8.ofNat n]) more 0x80 0xBF rest := by
  rw [follow, toNat_ofNat_of_lt hn, if_pos ⟨hlow, hhigh⟩]

theorem first_of_lead {n : Nat} {lead : Lead} {rest : Bytes} (hn : n < 256) (h80 : 0x80 ≤ n)
    (h : Lead.ofByte? n = some lead) :
    first (UInt8.ofNat n) rest =
      follow lead.bits [UInt8.ofNat n] lead.more lead.low lead.high rest := by
  rw [first, toNat_ofNat_of_lt hn, if_neg (by omega), h]

theorem follow_zero (bits low high : Nat) (seen rest : Bytes) :
    follow bits seen 0 low high rest = (.char (Char.ofNat bits), rest) := by
  rw [follow]

/-- A text begins with the character whose encoding it begins with. -/
theorem exists_first_encodeChar (c : Char) (rest : Bytes) :
    ∃ b tail, encodeChar c ++ rest = b :: tail ∧ first b tail = (.char c, rest) := by
  have hv : c.toNat < 0xD800 ∨ (0xDFFF < c.toNat ∧ c.toNat < 0x110000) := c.valid
  have hc : Char.ofNat c.toNat = c := Char.ofNat_toNat c
  unfold encodeChar
  dsimp only
  generalize c.toNat = n at *
  by_cases h1 : n < 0x80
  · rw [if_pos h1]
    refine ⟨_, _, rfl, ?_⟩
    rw [first, toNat_ofNat_of_lt (by omega), if_pos h1, hc]
    rfl
  rw [if_neg h1]
  by_cases h2 : n < 0x800
  · rw [if_pos h2]
    refine ⟨_, _, rfl, ?_⟩
    have hl : Lead.ofByte? (0xC0 + n / 64) = some ⟨n / 64, 1, 0x80, 0xBF⟩ := by
      rw [Lead.ofByte?, if_neg (by omega), if_pos (by omega)]
      simp
    rw [first_of_lead (by omega) (by omega) hl]
    refine (follow_of_mem (by omega) (by dsimp only; omega) (by dsimp only; omega)).trans ?_
    rw [follow_zero, show n / 64 * 64 + (0x80 + n % 64 - 0x80) = n by omega, hc]
    rfl
  rw [if_neg h2]
  by_cases h3 : n < 0x10000
  · rw [if_pos h3]
    refine ⟨_, _, rfl, ?_⟩
    have hl : Lead.ofByte? (0xE0 + n / 4096) = some ⟨n / 4096, 2,
        if 0xE0 + n / 4096 = 0xE0 then 0xA0 else 0x80,
        if 0xE0 + n / 4096 = 0xED then 0x9F else 0xBF⟩ := by
      rw [Lead.ofByte?, if_neg (by omega), if_neg (by omega), if_pos (by omega)]
      simp
    rw [first_of_lead (by omega) (by omega) hl]
    refine (follow_of_mem (by omega) (by dsimp only; split <;> omega)
      (by dsimp only; split <;> omega)).trans ?_
    refine (follow_of_mem (by omega) (by omega) (by omega)).trans ?_
    rw [follow_zero, show (n / 4096 * 64 + (0x80 + n / 64 % 64 - 0x80)) * 64 +
      (0x80 + n % 64 - 0x80) = n by omega, hc]
    rfl
  · rw [if_neg h3]
    refine ⟨_, _, rfl, ?_⟩
    have hl : Lead.ofByte? (0xF0 + n / 262144) = some ⟨n / 262144, 3,
        if 0xF0 + n / 262144 = 0xF0 then 0x90 else 0x80,
        if 0xF0 + n / 262144 = 0xF4 then 0x8F else 0xBF⟩ := by
      rw [Lead.ofByte?, if_neg (by omega), if_neg (by omega), if_neg (by omega),
        if_pos (by omega)]
      simp
    rw [first_of_lead (by omega) (by omega) hl]
    refine (follow_of_mem (by omega) (by dsimp only; split <;> omega)
      (by dsimp only; split <;> omega)).trans ?_
    refine (follow_of_mem (by omega) (by omega) (by omega)).trans ?_
    refine (follow_of_mem (by omega) (by omega) (by omega)).trans ?_
    rw [follow_zero, show ((n / 262144 * 64 + (0x80 + n / 4096 % 64 - 0x80)) * 64 +
      (0x80 + n / 64 % 64 - 0x80)) * 64 + (0x80 + n % 64 - 0x80) = n by omega, hc]
    rfl

theorem segments_encodeChar (c : Char) (rest : Bytes) :
    segments (encodeChar c ++ rest) = .char c :: segments rest := by
  obtain ⟨b, tail, heq, hfirst⟩ := exists_first_encodeChar c rest
  rw [heq, segments, hfirst]

theorem segments_flatMap_append (cs : List Char) (rest : Bytes) :
    segments (cs.flatMap encodeChar ++ rest) = cs.map .char ++ segments rest := by
  induction cs with
  | nil => rfl
  | cons c cs ih =>
    rw [List.flatMap_cons, List.append_assoc, segments_encodeChar, ih, List.map_cons,
      List.cons_append]

theorem segments_flatMap_encodeChar (cs : List Char) :
    segments (cs.flatMap encodeChar) = cs.map .char := by
  have happend := segments_flatMap_append cs []
  rw [List.append_nil, segments, List.append_nil] at happend
  exact happend

theorem characters_map_char (start : Nat) (cs : List Char) :
    characters start (cs.map .char) = .ok cs := by
  induction cs generalizing start with
  | nil => rfl
  | cons c cs ih => rw [List.map_cons, characters, ih]; rfl

/-- What is written is read back. -/
theorem decode_encode (s : String) : decode (encode s) = .ok s := by
  rw [decode, encode, segments_flatMap_encodeChar, characters_map_char]
  simp [Except.map]

/-! ### Writing what was read -/

theorem toNat_char_ofNat {n : Nat} (h : n < 0xD800 ∨ (0xDFFF < n ∧ n < 0x110000)) :
    (Char.ofNat n).toNat = n := by
  have hv : n.isValidChar := h
  rw [Char.ofNat, dif_pos hv]
  rfl

theorem ofNat_eq_of_toNat_eq {n : Nat} {b : UInt8} (h : n = b.toNat) : UInt8.ofNat n = b := by
  rw [h, UInt8.ofNat_toNat]

theorem encodeChar_one {b : UInt8} (hb : b.toNat < 0x80) :
    encodeChar (Char.ofNat b.toNat) = [b] := by
  rw [encodeChar, toNat_char_ofNat (by omega)]
  dsimp only
  rw [if_pos hb, UInt8.ofNat_toNat]

theorem encodeChar_two {b x : UInt8} (hb : 0xC2 ≤ b.toNat) (hb' : b.toNat < 0xE0)
    (hx : 0x80 ≤ x.toNat ∧ x.toNat ≤ 0xBF) :
    encodeChar (Char.ofNat ((b.toNat - 0xC0) * 64 + (x.toNat - 0x80))) = [b, x] := by
  rw [encodeChar, toNat_char_ofNat (by omega)]
  dsimp only
  rw [if_neg (by omega), if_pos (by omega), ofNat_eq_of_toNat_eq (b := b) (by omega),
    ofNat_eq_of_toNat_eq (b := x) (by omega)]

theorem encodeChar_three {b x y : UInt8} (hb : 0xE0 ≤ b.toNat) (hb' : b.toNat < 0xF0)
    (hx : (if b.toNat = 0xE0 then 0xA0 else 0x80) ≤ x.toNat ∧
      x.toNat ≤ if b.toNat = 0xED then 0x9F else 0xBF)
    (hy : 0x80 ≤ y.toNat ∧ y.toNat ≤ 0xBF) :
    encodeChar (Char.ofNat (((b.toNat - 0xE0) * 64 + (x.toNat - 0x80)) * 64 +
      (y.toNat - 0x80))) = [b, x, y] := by
  obtain ⟨hlow, hhigh⟩ := hx
  have h1 : 0x80 ≤ x.toNat ∧ (b.toNat = 0xE0 → 0xA0 ≤ x.toNat) := by split at hlow <;> omega
  have h2 : x.toNat ≤ 0xBF ∧ (b.toNat = 0xED → x.toNat ≤ 0x9F) := by split at hhigh <;> omega
  rw [encodeChar, toNat_char_ofNat (by omega)]
  dsimp only
  rw [if_neg (by omega), if_neg (by omega), if_pos (by omega),
    ofNat_eq_of_toNat_eq (b := b) (by omega), ofNat_eq_of_toNat_eq (b := x) (by omega),
    ofNat_eq_of_toNat_eq (b := y) (by omega)]

theorem encodeChar_four {b x y z : UInt8} (hb : 0xF0 ≤ b.toNat) (hb' : b.toNat < 0xF5)
    (hx : (if b.toNat = 0xF0 then 0x90 else 0x80) ≤ x.toNat ∧
      x.toNat ≤ if b.toNat = 0xF4 then 0x8F else 0xBF)
    (hy : 0x80 ≤ y.toNat ∧ y.toNat ≤ 0xBF) (hz : 0x80 ≤ z.toNat ∧ z.toNat ≤ 0xBF) :
    encodeChar (Char.ofNat ((((b.toNat - 0xF0) * 64 + (x.toNat - 0x80)) * 64 +
      (y.toNat - 0x80)) * 64 + (z.toNat - 0x80))) = [b, x, y, z] := by
  obtain ⟨hlow, hhigh⟩ := hx
  have h1 : 0x80 ≤ x.toNat ∧ (b.toNat = 0xF0 → 0x90 ≤ x.toNat) := by split at hlow <;> omega
  have h2 : x.toNat ≤ 0xBF ∧ (b.toNat = 0xF4 → x.toNat ≤ 0x8F) := by split at hhigh <;> omega
  rw [encodeChar, toNat_char_ofNat (by omega)]
  dsimp only
  rw [if_neg (by omega), if_neg (by omega), if_neg (by omega),
    ofNat_eq_of_toNat_eq (b := b) (by omega), ofNat_eq_of_toNat_eq (b := x) (by omega),
    ofNat_eq_of_toNat_eq (b := y) (by omega), ofNat_eq_of_toNat_eq (b := z) (by omega)]

/-- `follow` loses no byte, if the characters that it can end with are those of the bytes read. -/
theorem follow_bytes {bits more low high : Nat} {seen rest : Bytes}
    (h : ∀ taken tail, rest = taken ++ tail → taken.length = more →
      (∀ b ∈ taken.head?, low ≤ b.toNat ∧ b.toNat ≤ high) →
      (∀ b ∈ taken.tail, 0x80 ≤ b.toNat ∧ b.toNat ≤ 0xBF) →
      encodeChar (Char.ofNat (taken.foldl (fun v b => v * 64 + (b.toNat - 0x80)) bits)) =
        seen ++ taken) :
    (follow bits seen more low high rest).1.bytes ++ (follow bits seen more low high rest).2 =
      seen ++ rest := by
  -- Each byte read moves from `rest` to `seen` and into `bits`, which keeps the hypothesis.
  induction more generalizing bits seen low high rest with
  | zero =>
    have := h [] rest rfl rfl (by simp) (by simp)
    rw [follow_zero]
    simpa [Segment.bytes] using congrArg (· ++ rest) this
  | succ more ih =>
    cases rest with
    | nil => simp [follow, Segment.bytes]
    | cons b rest =>
      rw [follow]
      split
      · rename_i hb
        rw [ih ?_, List.append_assoc, List.singleton_append]
        intro taken tail heq hlen hhead htail
        have := h (b :: taken) tail (by rw [heq, List.cons_append]) (by rw [List.length_cons, hlen])
          (by simpa using hb) (by
            intro x hx
            cases taken with
            | nil => simp at hx
            | cons y ys =>
              rcases List.mem_cons.1 hx with rfl | hx
              · exact hhead x rfl
              · exact htail x hx)
        simpa using this
      · simp [Segment.bytes]

theorem exists_eq_two {bs : Bytes} (h : bs.length = 2) : ∃ x y, bs = [x, y] := by
  rcases bs with _ | ⟨x, _ | ⟨y, _ | ⟨z, bs⟩⟩⟩
  all_goals simp at h
  exact ⟨x, y, rfl⟩

theorem exists_eq_three {bs : Bytes} (h : bs.length = 3) : ∃ x y z, bs = [x, y, z] := by
  rcases bs with _ | ⟨x, bs⟩
  · simp at h
  · obtain ⟨y, z, rfl⟩ := exists_eq_two (Nat.succ.inj h)
    exact ⟨x, y, z, rfl⟩

/-- The first segment and the bytes after it are all the bytes. -/
theorem first_bytes (b : UInt8) (rest : Bytes) :
    (first b rest).1.bytes ++ (first b rest).2 = b :: rest := by
  rw [first]
  split
  · rename_i hb
    rw [Segment.bytes, encodeChar_one hb, List.singleton_append]
  · rename_i hb
    split
    · rename_i lead hlead
      refine follow_bytes fun taken tail heq hlen hhead htail => ?_
      -- The ranges of lead bytes tell how many bytes follow, and so which encoding it is.
      unfold Lead.ofByte? at hlead
      split at hlead
      · simp at hlead
      · split at hlead
        · obtain rfl := Option.some.inj hlead
          obtain ⟨x, rfl⟩ := List.length_eq_one_iff.1 hlen
          exact encodeChar_two (by omega) (by omega) (hhead x rfl)
        · split at hlead
          · obtain rfl := Option.some.inj hlead
            obtain ⟨x, y, rfl⟩ := exists_eq_two hlen
            exact encodeChar_three (by omega) (by omega) (hhead x rfl) (htail y (by simp))
          · split at hlead
            · obtain rfl := Option.some.inj hlead
              obtain ⟨x, y, z, rfl⟩ := exists_eq_three hlen
              exact encodeChar_four (by omega) (by omega) (hhead x rfl) (htail y (by simp))
                (htail z (by simp))
            · simp at hlead
    · rfl

/-- The segments of a byte string, put together, are the byte string. -/
theorem segments_bytes (bs : Bytes) : (segments bs).flatMap Segment.bytes = bs := by
  fun_induction segments bs with
  | case1 => rfl
  | case2 b rest ih => rw [List.flatMap_cons, ih, first_bytes]

theorem characters_bytes {start : Nat} {segs : List Segment} {cs : List Char}
    (h : characters start segs = .ok cs) : cs.flatMap encodeChar = segs.flatMap Segment.bytes := by
  induction segs generalizing start cs with
  | nil =>
    obtain rfl : [] = cs := by simpa [characters] using h
    rfl
  | cons seg segs ih =>
    cases seg with
    | char c =>
      rw [characters] at h
      cases hrest : characters (start + (encodeChar c).length) segs with
      | error e => rw [hrest] at h; simp [Except.map] at h
      | ok ds =>
        rw [hrest] at h
        obtain rfl : c :: ds = cs := by simpa [Except.map] using h
        rw [List.flatMap_cons, List.flatMap_cons, ih hrest, Segment.bytes]
    | stray bytes => simp [characters] at h
    | cut bytes => simp [characters] at h

/-- What is read is written with the bytes that it was read from. -/
theorem encode_of_decode {bs : Bytes} {s : String} (h : decode bs = .ok s) : encode s = bs := by
  rw [decode] at h
  cases hchars : characters 0 (segments bs) with
  | error e => rw [hchars] at h; simp [Except.map] at h
  | ok cs =>
    rw [hchars] at h
    obtain rfl : String.ofList cs = s := by simpa [Except.map] using h
    rw [encode, String.toList_ofList, characters_bytes hchars, segments_bytes]

/-! ### Characters of one byte -/

/-- A character below 0x80 is its only byte, and the bytes of the others are not below 0x80. -/
theorem toNat_of_mem_encodeChar {c : Char} {b : UInt8} (h : b ∈ encodeChar c) :
    (c.toNat < 0x80 ∧ b.toNat = c.toNat) ∨ (0x80 ≤ c.toNat ∧ 0x80 ≤ b.toNat) := by
  have hv : c.toNat < 0xD800 ∨ (0xDFFF < c.toNat ∧ c.toNat < 0x110000) := c.valid
  have hhigh {n : Nat} (hb : b = UInt8.ofNat n) (hlow : 0x80 ≤ n) (hn : n < 256) :
      0x80 ≤ b.toNat := by
    rw [hb, toNat_ofNat_of_lt hn]
    exact hlow
  unfold encodeChar at h
  dsimp only at h
  -- Every byte is a marker of at least 0x80 and some bits of the number, which is all that counts.
  generalize c.toNat = n at *
  split at h
  · rename_i hn
    rw [List.mem_singleton.mp h]
    exact .inl ⟨hn, toNat_ofNat_of_lt (by omega)⟩
  · refine .inr ⟨by omega, ?_⟩
    split at h
    · simp only [List.mem_cons, List.not_mem_nil, or_false] at h
      rcases h with h | h <;> exact hhigh h (by omega) (by omega)
    · split at h
      · simp only [List.mem_cons, List.not_mem_nil, or_false] at h
        rcases h with h | h | h <;> exact hhigh h (by omega) (by omega)
      · simp only [List.mem_cons, List.not_mem_nil, or_false] at h
        rcases h with h | h | h | h <;> exact hhigh h (by omega) (by omega)

theorem encodeChar_of_lt {c : Char} (h : c.toNat < 0x80) : encodeChar c = [UInt8.ofNat c.toNat] := by
  rw [encodeChar]
  exact if_pos h

/-- A byte below 0x80 stands in the encoding of a text exactly if its character is in the text. -/
theorem ascii_mem_encode_iff {c : Char} (h : c.toNat < 0x80) (s : String) :
    UInt8.ofNat c.toNat ∈ encode s ↔ c ∈ s.toList := by
  rw [encode, List.mem_flatMap]
  constructor
  · rintro ⟨d, hd, hmem⟩
    have hc := toNat_ofNat_of_lt (n := c.toNat) (by omega)
    rcases toNat_of_mem_encodeChar hmem with ⟨-, heq⟩ | ⟨-, hhigh⟩
    · rw [hc] at heq
      rwa [← Char.ofNat_toNat c, heq, Char.ofNat_toNat]
    · omega
  · intro hmem
    exact ⟨c, hmem, by simp [encodeChar_of_lt h]⟩

theorem encode_append (s t : String) : encode (s ++ t) = encode s ++ encode t := by
  simp [encode]

end PacketLog.Utf8
