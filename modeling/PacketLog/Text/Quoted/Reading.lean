/-
How a quoted byte string is read.

It shows pieces one after the other: the characters of the bytes, and the bytes that belong to no
character.  The piece at the front of a text can be read whatever comes behind it, and the quote at
the end is no piece.  So the quoted text tells the pieces and where it ends, and the pieces hold
the bytes.

* `next?_escape` — a piece is read back, with what comes behind it;
* `bytes_append_inj` — a quoted byte string tells the bytes and what comes behind it;
* `exists_bytes_eq` — between the two quotes no character is a control and no quote is unescaped.
-/
import Mathlib
import PacketLog.Json.Grammar
import PacketLog.Numeral.RoundTrip
import PacketLog.Text.Quoted
import PacketLog.Text.Utf8.RoundTrip

namespace PacketLog

/-- A control: general category `Cc`. -/
def Unicode.IsControl (c : Char) : Prop :=
  c.toNat < 0x20 ∨ 0x7F ≤ c.toNat ∧ c.toNat < 0xA0

instance : DecidablePred Unicode.IsControl := fun c =>
  inferInstanceAs (Decidable (c.toNat < 0x20 ∨ 0x7F ≤ c.toNat ∧ c.toNat < 0xA0))

/-- The controls are unprintable. -/
theorem Unicode.isUnprintable_of_isControl {c : Char} (h : IsControl c) :
    isUnprintable c = true := by
  have hlow : inRanges unprintableLow c.toNat = true := by
    rcases h with h | h
    · exact inRanges_iff.mpr ⟨(0x0000, 0x001F), .head _, by omega, by omega⟩
    · exact inRanges_iff.mpr ⟨(0x007F, 0x00A0), .tail _ (.head _), by omega, by omega⟩
  rw [isUnprintable, hlow, Bool.true_or, Bool.true_or]

namespace Quoted

/-! ### Pieces -/

/-- What a quoted byte string shows at a time. -/
inductive Piece where
  | char (c : Char)
  /-- A byte that belongs to no character. -/
  | byte (b : UInt8)

def Piece.bytes : Piece → Bytes
  | .char c => Utf8.encodeChar c
  | .byte b => [b]

/-- A piece as it stands between double quotes. -/
def Piece.escape : Piece → List Char
  | .char c => Quoted.escape '"' c
  | .byte b => escapeByte b

def segmentPieces : Utf8.Segment → List Piece
  | .char c => [.char c]
  | .stray bytes => bytes.map .byte
  | .cut bytes => bytes.map .byte

/-- The pieces of a byte string. -/
def pieces (bs : Bytes) : List Piece := (Utf8.segments bs).flatMap segmentPieces

theorem flatMap_bytes_segmentPieces (s : Utf8.Segment) :
    (segmentPieces s).flatMap Piece.bytes = s.bytes := by
  have hbytes (bs : Bytes) : (bs.map Piece.byte).flatMap Piece.bytes = bs := by
    rw [List.flatMap_map]
    exact List.flatMap_singleton' bs
  cases s with
  | char c => exact List.flatMap_singleton Piece.bytes (.char c)
  | stray bs => exact hbytes bs
  | cut bs => exact hbytes bs

theorem flatMap_escape_segmentPieces (s : Utf8.Segment) :
    (segmentPieces s).flatMap Piece.escape = escapeSegment s := by
  cases s with
  | char c => exact List.flatMap_singleton Piece.escape (.char c)
  | stray bs => exact List.flatMap_map ..
  | cut bs => exact List.flatMap_map ..

/-- The pieces hold all the bytes. -/
theorem flatMap_bytes_pieces (bs : Bytes) : (pieces bs).flatMap Piece.bytes = bs := by
  rw [pieces, List.flatMap_assoc, funext flatMap_bytes_segmentPieces, Utf8.segments_bytes]

theorem pieces_injective : Function.Injective pieces := by
  intro bs cs h
  rw [← flatMap_bytes_pieces bs, h, flatMap_bytes_pieces]

/-- The characters of a quoted byte string. -/
theorem toList_bytes (bs : Bytes) :
    (bytes bs).toList = '"' :: ((pieces bs).flatMap Piece.escape ++ ['"']) := by
  rw [bytes, String.toList_ofList, pieces, List.flatMap_assoc,
    funext flatMap_escape_segmentPieces]
  rfl

/-! ### Reading a piece -/

/-- The value of a hexadecimal digit, its letter being a capital or not. -/
def hexValue (c : Char) : Nat := (Json.hexDigitValue? c).getD 0

theorem hexValue_hexDigit : ∀ d < 16, hexValue (hexDigit d) = d := by decide

theorem hexValue_toUpper_hexDigit : ∀ d < 16, hexValue (hexDigit d).toUpper = d := by decide

/-- The piece that an escape stands for, and what comes behind it.  The backslash is read
already. -/
def escaped? : List Char → Option (Piece × List Char)
  | '0' :: cs => some (.char '\x00', cs)
  | 't' :: cs => some (.char '\t', cs)
  | 'r' :: cs => some (.char '\r', cs)
  | 'n' :: cs => some (.char '\n', cs)
  | '\\' :: cs => some (.char '\\', cs)
  | '"' :: cs => some (.char '"', cs)
  | 'u' :: '\x7b' :: cs =>
    let code := Numeral.value 16 ((cs.takeWhile (· ≠ '\x7d')).map hexValue)
    some (.char (Char.ofNat code), (cs.dropWhile (· ≠ '\x7d')).tail)
  | 'x' :: high :: low :: cs =>
    some (.byte (UInt8.ofNat (hexValue high * 16 + hexValue low)), cs)
  | _ => none

/-- The piece at the front of a text, and what comes behind it.  At the closing quote there is
none. -/
def next? : List Char → Option (Piece × List Char)
  | [] => none
  | c :: cs =>
    if c = '"' then none
    else if c = '\\' then escaped? cs
    else some (.char c, cs)

theorem next?_codePoint (c : Char) (cs : List Char) :
    next? (codePoint c ++ cs) = some (.char c, cs) := by
  have hdigit : ∀ d < 16, hexDigit d ≠ '\x7d' := by decide
  have hne : ∀ x ∈ (Numeral.digits 16 c.toNat).map hexDigit, x ≠ '\x7d' := by
    rw [List.forall_mem_map]
    exact fun d hd => hdigit d (Numeral.digits_lt (by decide) d hd)
  generalize hdigits : (Numeral.digits 16 c.toNat).map hexDigit = digits at hne
  -- No digit is a brace, so the digits end at the brace behind them.
  have htake : (digits ++ '\x7d' :: cs).takeWhile (· ≠ '\x7d') = digits :=
    takeWhile_append_of_stops (by simpa using hne) (by simp)
  have hdrop : (digits ++ '\x7d' :: cs).dropWhile (· ≠ '\x7d') = '\x7d' :: cs := by
    rw [List.dropWhile_append_of_pos (by simpa using hne)]
    exact List.dropWhile_cons_of_neg (by simp)
  have hcode : Char.ofNat (Numeral.value 16 (digits.map hexValue)) = c := by
    rw [← hdigits, Numeral.map_map_digit (by decide) hexValue_hexDigit, Numeral.value_digits,
      Char.ofNat_toNat]
  have hread : next? (codePoint c ++ cs) =
      escaped? ('u' :: '\x7b' :: (digits ++ '\x7d' :: cs)) := by
    rw [codePoint, hdigits, List.append_assoc, List.append_assoc]
    rfl
  rw [hread, escaped?, htake, hdrop, hcode, List.tail_cons]

theorem next?_escapeByte (b : UInt8) (cs : List Char) :
    next? (escapeByte b ++ cs) = some (.byte b, cs) := by
  have hread : next? (escapeByte b ++ cs) =
      some (.byte (UInt8.ofNat (hexValue (hexDigit (b.toNat / 16)).toUpper * 16 +
        hexValue (hexDigit (b.toNat % 16)).toUpper)), cs) := rfl
  have hb : b.toNat < 256 := UInt8.toNat_lt b
  rw [hread, hexValue_toUpper_hexDigit _ (by omega), hexValue_toUpper_hexDigit _ (by omega),
    Nat.div_add_mod', UInt8.ofNat_toNat]

/-- **A piece is read back**, whatever comes behind it. -/
theorem next?_escape (p : Piece) (cs : List Char) : next? (p.escape ++ cs) = some (p, cs) := by
  cases p with
  | byte b => exact next?_escapeByte b cs
  | char c =>
    rw [Piece.escape, Quoted.escape]
    split_ifs with h0 ht hr hn hmark hcode
    · rw [h0]; rfl
    · rw [ht]; rfl
    · rw [hr]; rfl
    · rw [hn]; rfl
    · rcases hmark with hslash | hquote
      · rw [hslash]; rfl
      · rw [hquote]; rfl
    · exact next?_codePoint c cs
    · rw [not_or] at hmark
      rw [List.singleton_append, next?, if_neg hmark.2, if_neg hmark.1]

theorem next?_quote (cs : List Char) : next? ('"' :: cs) = none := rfl

/-! ### Where a quoted text ends -/

theorem flatMap_escape_append_inj {ps qs : List Piece} {cs ds : List Char}
    (h : ps.flatMap Piece.escape ++ '"' :: cs = qs.flatMap Piece.escape ++ '"' :: ds) :
    ps = qs ∧ cs = ds := by
  -- What is read at the front of both texts is a piece of both, or the closing quote of both.
  induction ps generalizing qs with
  | nil =>
    cases qs with
    | nil => exact ⟨rfl, (List.cons.inj h).2⟩
    | cons q qs =>
      have hread := congrArg next? h
      rw [List.flatMap_nil, List.nil_append, next?_quote, List.flatMap_cons, List.append_assoc,
        next?_escape] at hread
      exact absurd hread (by simp)
  | cons p ps ih =>
    have hread := congrArg next? h
    rw [List.flatMap_cons, List.append_assoc, next?_escape] at hread
    cases qs with
    | nil =>
      rw [List.flatMap_nil, List.nil_append, next?_quote] at hread
      exact absurd hread (by simp)
    | cons q qs =>
      rw [List.flatMap_cons, List.append_assoc, next?_escape, Option.some_inj,
        Prod.mk.injEq] at hread
      obtain ⟨rfl, htail⟩ := hread
      obtain ⟨rfl, hbehind⟩ := ih htail
      exact ⟨rfl, hbehind⟩

/-- **A quoted byte string tells the bytes and what comes behind it.** -/
theorem bytes_append_inj {as bs : Bytes} {cs ds : List Char}
    (h : (bytes as).toList ++ cs = (bytes bs).toList ++ ds) : as = bs ∧ cs = ds := by
  rw [toList_bytes, toList_bytes, List.cons_append, List.cons_append, List.append_assoc,
    List.append_assoc, List.singleton_append, List.singleton_append] at h
  obtain ⟨hpieces, hbehind⟩ := flatMap_escape_append_inj (List.cons.inj h).2
  exact ⟨pieces_injective hpieces, hbehind⟩

theorem bytes_injective : Function.Injective bytes := by
  intro as bs h
  exact (bytes_append_inj (congrArg (·.toList ++ []) h)).1

/-! ### What stands between the quotes -/

/-- Whether the next character is escaped when a text is read up to here: a backslash that is not
escaped itself stands before it. -/
def escapesNext (cs : List Char) : Bool :=
  cs.foldl (fun escaping c => !escaping && c = '\\') false

/-- The character stands for itself, and it is no control. -/
def IsBare (c : Char) : Prop := c ≠ '"' ∧ c ≠ '\\' ∧ ¬ Unicode.IsControl c

instance : DecidablePred IsBare := fun c =>
  inferInstanceAs (Decidable (c ≠ '"' ∧ c ≠ '\\' ∧ ¬ Unicode.IsControl c))

/-- Characters that stand for themselves, and escapes, which begin with a backslash and the
character that it escapes. -/
inductive Body : List Char → Prop
  | nil : Body []
  | bare {c : Char} {cs : List Char} (hc : IsBare c) (h : Body cs) : Body (c :: cs)
  | escape {c : Char} {cs : List Char} (hc : ¬ Unicode.IsControl c) (h : Body cs) :
    Body ('\\' :: c :: cs)

theorem escapesNext_bare {c : Char} (hc : IsBare c) (cs : List Char) :
    escapesNext (c :: cs) = escapesNext cs := by
  rw [escapesNext, List.foldl_cons, decide_eq_false hc.2.1]
  rfl

theorem escapesNext_escape (c : Char) (cs : List Char) :
    escapesNext ('\\' :: c :: cs) = escapesNext cs := rfl

namespace Body

variable {cs : List Char}

theorem append_bare {ds : List Char} (hds : ∀ c ∈ ds, IsBare c) (h : Body cs) :
    Body (ds ++ cs) := by
  induction ds with
  | nil => exact h
  | cons d ds ih =>
    rw [List.forall_mem_cons] at hds
    exact .bare hds.1 (ih hds.2)

theorem codePoint (c : Char) (h : Body cs) : Body (codePoint c ++ cs) := by
  have hdigit : ∀ d < 16, IsBare (hexDigit d) := by decide
  have hdigits : ∀ x ∈ (Numeral.digits 16 c.toNat).map hexDigit, IsBare x := by
    rw [List.forall_mem_map]
    exact fun d hd => hdigit d (Numeral.digits_lt (by decide) d hd)
  have hclosed : Body (['\x7d'] ++ cs) := .bare (by decide) h
  have hcode := hclosed.append_bare hdigits
  rw [Quoted.codePoint, List.append_assoc, List.append_assoc]
  exact .escape (by decide) (.bare (by decide) hcode)

theorem escapeByte (b : UInt8) (h : Body cs) : Body (escapeByte b ++ cs) := by
  have hdigit : ∀ d < 16, IsBare (hexDigit d).toUpper := by decide
  have hb : b.toNat < 256 := UInt8.toNat_lt b
  exact .escape (by decide) (.bare (hdigit _ (by omega)) (.bare (hdigit _ (by omega)) h))

theorem piece (p : Piece) (h : Body cs) : Body (p.escape ++ cs) := by
  cases p with
  | byte b => exact escapeByte b h
  | char c =>
    rw [Piece.escape, Quoted.escape]
    split_ifs with h0 ht hr hn hmark hcode
    · exact .escape (by decide) h
    · exact .escape (by decide) h
    · exact .escape (by decide) h
    · exact .escape (by decide) h
    · rcases hmark with hslash | hquote
      · rw [hslash]; exact .escape (by decide) h
      · rw [hquote]; exact .escape (by decide) h
    · exact codePoint c h
    · -- A control would need its code point.
      have hcontrol : ¬ Unicode.IsControl c := by
        intro hc
        rw [needsCodePoint, Unicode.isUnprintable_of_isControl hc, Bool.or_true] at hcode
        exact hcode rfl
      rw [not_or] at hmark
      exact .bare ⟨hmark.2, hmark.1, hcontrol⟩ h

theorem pieces (ps : List Piece) : Body (ps.flatMap Piece.escape) := by
  induction ps with
  | nil => exact .nil
  | cons p ps ih =>
    rw [List.flatMap_cons]
    exact piece p ih

theorem not_isControl (h : Body cs) : ∀ c ∈ cs, ¬ Unicode.IsControl c := by
  induction h with
  | nil => exact List.forall_mem_nil _
  | bare hc _ ih => exact List.forall_mem_cons.mpr ⟨hc.2.2, ih⟩
  | escape hc _ ih =>
    exact List.forall_mem_cons.mpr ⟨by decide, List.forall_mem_cons.mpr ⟨hc, ih⟩⟩

/-- Every quote is escaped. -/
theorem escapesNext_of_quote (h : Body cs) {before after : List Char}
    (hcs : cs = before ++ '"' :: after) : escapesNext before = true := by
  induction h generalizing before with
  | nil => exact absurd hcs (by simp)
  | bare hc _ ih =>
    cases before with
    | nil => exact absurd (List.cons.inj hcs).1 hc.1
    | cons b before =>
      obtain ⟨rfl, htail⟩ := List.cons.inj hcs
      rw [escapesNext_bare hc]
      exact ih htail
  | escape _ _ ih =>
    -- The quote is the character that is escaped, or it stands behind the escape.
    match before with
    | [] => exact absurd (List.cons.inj hcs).1 (by decide)
    | [b] =>
      obtain ⟨rfl, -⟩ := List.cons.inj hcs
      rfl
    | b :: c :: before =>
      obtain ⟨rfl, hescaped⟩ := List.cons.inj hcs
      obtain ⟨rfl, htail⟩ := List.cons.inj hescaped
      rw [escapesNext_escape]
      exact ih htail

/-- A quote behind it is not escaped. -/
theorem escapesNext_eq_false (h : Body cs) : escapesNext cs = false := by
  induction h with
  | nil => rfl
  | bare hc _ ih => rw [escapesNext_bare hc, ih]
  | escape _ _ ih => rw [escapesNext_escape, ih]

end Body

/-- **Between the quotes stands no control and no quote that is not escaped.** -/
theorem exists_bytes_eq (bs : Bytes) :
    ∃ body : String, bytes bs = "\"" ++ body ++ "\"" ∧
      (∀ c ∈ body.toList, ¬ Unicode.IsControl c) ∧
      (∀ before after, body.toList = before ++ '"' :: after → escapesNext before = true) ∧
      escapesNext body.toList = false := by
  obtain ⟨body, hchars⟩ : ∃ body : String, body.toList = (pieces bs).flatMap Piece.escape :=
    ⟨_, String.toList_ofList⟩
  have hbody : Body body.toList := by
    rw [hchars]
    exact Body.pieces _
  refine ⟨body, ?_, hbody.not_isControl, fun _ _ => hbody.escapesNext_of_quote,
    hbody.escapesNext_eq_false⟩
  rw [← String.toList_inj, toList_bytes, String.toList_append, String.toList_append, hchars,
    List.append_assoc]
  rfl

end Quoted

end PacketLog
