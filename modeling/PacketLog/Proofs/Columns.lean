/-
A line of text tells the fields that it shows.

The columns of the packet header come before the file name, which may hold anything.  Each of them
ends where its text does: a number at the first character that is no digit, a base-58 text at the
first one that is no digit of its own, and spaces are none of either.  Behind the arrow the last
colon ends the file name, as there is none in a number.

* `Column.right_ofNat_append_inj`, `Column.right_signed_append_inj`,
  `Column.left_encode_append_inj` — a column ends where its text does;
* `append_colon_inj` — a name ends with the last colon;
* `Record.textLine_eq_iff` — when two lines are the same, and that no number is too long for its
  column.
-/
import PacketLog.Numeral.Base58.Reading
import PacketLog.Record.Line

namespace PacketLog

open Decimal (NoDigitNext)

/-- No digit comes next where a label begins with none. -/
theorem noDigitNext_label {label : String}
    (h : label.toList.head?.map Char.isDigit = some false) (cs : List Char) :
    NoDigitNext (label.toList ++ cs) := by
  cases hlabel : label.toList with
  | nil =>
    rw [hlabel] at h
    exact absurd h (by simp)
  | cons c rest =>
    rw [hlabel] at h
    rintro d ⟨⟩
    exact Option.some.inj h

namespace Column

variable {width m n : Nat} {cs ds : List Char}

theorem length_right {s : String} (h : s.length ≤ width) : (right width s).length = width := by
  rw [right, String.length_append, String.length_ofList, List.length_replicate]
  omega

theorem length_left {s : String} (h : s.length ≤ width) : (left width s).length = width := by
  rw [left, String.length_append, String.length_ofList, List.length_replicate]
  omega

/-- The spaces before a text are those before its first character. -/
theorem dropWhile_right {s : String} {c : Char} {rest : List Char} (hs : s.toList = c :: rest)
    (hc : c ≠ ' ') (cs : List Char) :
    ((right width s).toList ++ cs).dropWhile (· == ' ') = s.toList ++ cs := by
  rw [right, String.toList_append, String.toList_ofList, List.append_assoc,
    List.dropWhile_append_of_pos (by simp), hs, List.cons_append,
    List.dropWhile_cons_of_neg (by simpa using hc)]

theorem dropWhile_right_ofNat (n : Nat) (cs : List Char) :
    ((right width (Decimal.ofNat n)).toList ++ cs).dropWhile (· == ' ') =
      (Decimal.ofNat n).toList ++ cs := by
  obtain ⟨c, rest, hs, hdigit⟩ := Decimal.exists_ofNat_eq_cons n
  refine dropWhile_right hs ?_ cs
  rintro rfl
  exact absurd hdigit (by decide)

theorem dropWhile_right_signed (n : Int) (cs : List Char) :
    ((right width (Decimal.signed n)).toList ++ cs).dropWhile (· == ' ') =
      (Decimal.signed n).toList ++ cs := by
  cases n with
  | ofNat n => exact dropWhile_right (Decimal.toList_signed_ofNat n) (by decide) cs
  | negSucc n => exact dropWhile_right (Decimal.toList_signed_negSucc n) (by decide) cs

theorem right_ofNat_append_inj (hcs : NoDigitNext cs) (hds : NoDigitNext ds)
    (h : (right width (Decimal.ofNat m)).toList ++ cs =
      (right width (Decimal.ofNat n)).toList ++ ds) : m = n ∧ cs = ds := by
  have htexts := congrArg (List.dropWhile (· == ' ')) h
  rw [dropWhile_right_ofNat, dropWhile_right_ofNat] at htexts
  exact Decimal.ofNat_append_inj hcs hds htexts

theorem right_signed_append_inj {m n : Int} (hcs : NoDigitNext cs) (hds : NoDigitNext ds)
    (h : (right width (Decimal.signed m)).toList ++ cs =
      (right width (Decimal.signed n)).toList ++ ds) : m = n ∧ cs = ds := by
  have htexts := congrArg (List.dropWhile (· == ' ')) h
  rw [dropWhile_right_signed, dropWhile_right_signed] at htexts
  exact Decimal.signed_append_inj hcs hds htexts

end Column

namespace Base58

theorem digitValue?_of_mem_encode {word : UInt64} {c : Char} (h : c ∈ (encode word).toList) :
    (digitValue? c).isSome = true := by
  rw [digitValue?_of_isDigit (isDigit_of_mem_encode h), Option.isSome_some]

/-- A base-58 text in a column ends before the first character that is no digit, be it a space or
the first one behind the column. -/
theorem takeWhile_left_encode {width : Nat} (word : UInt64) {c : Char} (hc : digitValue? c = none)
    (cs : List Char) :
    ((Column.left width (encode word)).toList ++ c :: cs).takeWhile
      (fun c => (digitValue? c).isSome) = (encode word).toList := by
  rw [Column.left, String.toList_append, String.toList_ofList, List.append_assoc]
  refine takeWhile_append_of_stops (fun _ hmem => digitValue?_of_mem_encode hmem) ?_
  -- The text is followed by a space or, if it fills the column, by `c`.
  cases width - (encode word).length with
  | zero =>
    rintro d ⟨⟩
    rw [hc, Option.isSome_none]
  | succ k =>
    rintro d ⟨⟩
    decide +kernel

end Base58

theorem Column.left_encode_append_inj {width : Nat} {v w : UInt64} {c d : Char} {cs ds : List Char}
    (hc : Base58.digitValue? c = none) (hd : Base58.digitValue? d = none)
    (h : (left width (Base58.encode v)).toList ++ c :: cs =
      (left width (Base58.encode w)).toList ++ d :: ds) : v = w ∧ c :: cs = d :: ds := by
  have htexts : (Base58.encode v).toList = (Base58.encode w).toList := by
    rw [← Base58.takeWhile_left_encode v hc cs, h, Base58.takeWhile_left_encode w hd ds]
  obtain rfl := Base58.encode_injective (String.toList_inj.mp htexts)
  exact ⟨rfl, List.append_cancel_left h⟩

/-! ### The file name -/

theorem Decimal.colon_notMem_ofInt (n : Int) : ':' ∉ (ofInt n).toList := by
  have hnat (n : Nat) : ':' ∉ (ofNat n).toList := by
    intro h
    exact absurd (isDigit_of_mem_ofNat h) (by decide)
  cases n with
  | ofNat n => exact hnat n
  | negSucc n =>
    rw [toList_ofInt_negSucc, List.mem_cons, not_or]
    exact ⟨by decide, hnat (n + 1)⟩

/-- A name ends with the last colon, whatever colons it holds itself. -/
theorem append_colon_inj {as bs cs ds : List Char} (hcs : ':' ∉ cs) (hds : ':' ∉ ds)
    (h : as ++ ':' :: cs = bs ++ ':' :: ds) : as = bs ∧ cs = ds := by
  have hnil {left xs ys : List Char} (hxs : ':' ∉ xs) (h : ':' :: xs = left ++ ':' :: ys) :
      left = [] := by
    cases left with
    | nil => rfl
    | cons c left =>
      rw [(List.cons.inj h).2] at hxs
      exact absurd (by simp) hxs
  -- A longer name would leave its colon in what stands behind the other name.
  rcases List.append_eq_append_iff.mp h with ⟨left, rfl, hleft⟩ | ⟨left, rfl, hleft⟩
  · obtain rfl := hnil hcs hleft
    exact ⟨(List.append_nil as).symm, (List.cons.inj hleft).2⟩
  · obtain rfl := hnil hds hleft
    exact ⟨List.append_nil bs, (List.cons.inj hleft).2.symm⟩

/-! ### The line -/

namespace Record

/-- The characters of a line: a label, a column, a label, and so on. -/
theorem toList_textLine (r : Record) (previous : Option UInt64) :
    (r.textLine previous).toList =
      "I: ".toList ++ ((Column.right 20 (Decimal.ofNat r.traceId.toNat)).toList ++
      (", T: ".toList ++ ((Decimal.ofNat r.timestamp.toNat).toList ++
      (" ".toList ++ ((Column.right 10 (Decimal.signed (timeSince r.timestamp previous))).toList ++
      (", U: ".toList ++ ((Column.left 6 (Base58.encode r.uid.toUInt64)).toList ++
      (", L: ".toList ++ ((Column.right 3 (Decimal.ofNat r.packetLength.toNat)).toList ++
      (", F: ".toList ++ ((Column.right 3 (Decimal.ofNat r.functionId.toNat)).toList ++
      (", S: ".toList ++ ((Column.right 2 (Decimal.ofNat r.sequenceNumber.toNat)).toList ++
      (", R: ".toList ++ ((Decimal.ofNat r.optionBit.toNat).toList ++
      (", E: ".toList ++ ((Decimal.ofNat r.errorCode.toNat).toList ++
      (" -> ".toList ++
        (r.file.toList ++ (":".toList ++ (Decimal.ofInt r.line.toInt).toList)))))))))))))))))))) := by
  unfold textLine
  simp only [String.toList_append, List.append_assoc, decimalByte]

/-- **A line tells what it shows.** -/
theorem eq_of_textLine_eq {r s : Record} {p q : Option UInt64} (h : r.textLine p = s.textLine q) :
    r.traceId = s.traceId ∧ r.timestamp = s.timestamp ∧ r.uid = s.uid ∧
      r.packetLength = s.packetLength ∧ r.functionId = s.functionId ∧
      r.sequenceNumber = s.sequenceNumber ∧ r.optionBit = s.optionBit ∧
      r.errorCode = s.errorCode ∧ r.file = s.file ∧ r.line = s.line ∧
      timeSince r.timestamp p = timeSince s.timestamp q := by
  have hcomma (cs : List Char) : ", L: ".toList ++ cs = ',' :: (" L: ".toList ++ cs) := rfl
  have hcolon (cs : List Char) : ":".toList ++ cs = ':' :: cs := rfl
  have hdigit : Base58.digitValue? ',' = none := by decide +kernel
  have hline := congrArg String.toList h
  rw [toList_textLine, toList_textLine, hcomma, hcomma, hcolon, hcolon] at hline
  -- Each step takes a label off both lines, and the column behind it.
  obtain ⟨hid, hline⟩ := Column.right_ofNat_append_inj (noDigitNext_label rfl _)
    (noDigitNext_label rfl _) (List.append_cancel_left hline)
  obtain ⟨htime, hline⟩ := Decimal.ofNat_append_inj (noDigitNext_label rfl _)
    (noDigitNext_label rfl _) (List.append_cancel_left hline)
  obtain ⟨hsince, hline⟩ := Column.right_signed_append_inj (noDigitNext_label rfl _)
    (noDigitNext_label rfl _) (List.append_cancel_left hline)
  obtain ⟨huid, hline⟩ := Column.left_encode_append_inj hdigit hdigit
    (List.append_cancel_left hline)
  obtain ⟨hlength, hline⟩ := Column.right_ofNat_append_inj (noDigitNext_label rfl _)
    (noDigitNext_label rfl _) (List.append_cancel_left (List.cons.inj hline).2)
  obtain ⟨hfunction, hline⟩ := Column.right_ofNat_append_inj (noDigitNext_label rfl _)
    (noDigitNext_label rfl _) (List.append_cancel_left hline)
  obtain ⟨hsequence, hline⟩ := Column.right_ofNat_append_inj (noDigitNext_label rfl _)
    (noDigitNext_label rfl _) (List.append_cancel_left hline)
  obtain ⟨hoption, hline⟩ := Decimal.ofNat_append_inj (noDigitNext_label rfl _)
    (noDigitNext_label rfl _) (List.append_cancel_left hline)
  obtain ⟨herror, hline⟩ := Decimal.ofNat_append_inj (noDigitNext_label rfl _)
    (noDigitNext_label rfl _) (List.append_cancel_left hline)
  obtain ⟨hfile, hnumber⟩ := append_colon_inj (Decimal.colon_notMem_ofInt _)
    (Decimal.colon_notMem_ofInt _) (List.append_cancel_left hline)
  have hnumber := Decimal.ofInt_injective (String.toList_inj.mp hnumber)
  exact ⟨UInt64.toNat_inj.mp hid, UInt64.toNat_inj.mp htime, UInt32.toUInt64_inj.mp huid,
    UInt8.toNat_inj.mp hlength, UInt8.toNat_inj.mp hfunction, UInt8.toNat_inj.mp hsequence,
    UInt8.toNat_inj.mp hoption, UInt8.toNat_inj.mp herror, String.toList_inj.mp hfile,
    Int32.toInt_inj.mp hnumber, hsince⟩

/-- **Lines of text are unambiguous.**  Two records have the same line, each behind some point in
time, exactly if they agree in all that a line shows: the fields but for the reserved bits, and the
distance in time.  No id, uid, length, function or sequence number is too long for its column, so
these have the same width in every line. -/
theorem textLine_eq_iff (r s : Record) (p q : Option UInt64) :
    (r.textLine p = s.textLine q ↔
      r.traceId = s.traceId ∧ r.timestamp = s.timestamp ∧ r.uid = s.uid ∧
        r.packetLength = s.packetLength ∧ r.functionId = s.functionId ∧
        r.sequenceNumber = s.sequenceNumber ∧ r.optionBit = s.optionBit ∧
        r.errorCode = s.errorCode ∧ r.file = s.file ∧ r.line = s.line ∧
        timeSince r.timestamp p = timeSince s.timestamp q) ∧
    let id := Column.right 20 (Decimal.ofNat r.traceId.toNat)
    let uid := Column.left 6 (Base58.encode r.uid.toUInt64)
    let length := Column.right 3 (decimalByte r.packetLength)
    let function := Column.right 3 (decimalByte r.functionId)
    let sequence := Column.right 2 (decimalByte r.sequenceNumber)
    r.textLine p =
      "I: " ++ id ++ ", T: " ++ Decimal.ofNat r.timestamp.toNat ++ " " ++
        Column.right 10 (Decimal.signed (timeSince r.timestamp p)) ++ ", U: " ++ uid ++
        ", L: " ++ length ++ ", F: " ++ function ++ ", S: " ++ sequence ++
        ", R: " ++ decimalByte r.optionBit ++ ", E: " ++ decimalByte r.errorCode ++
        " -> " ++ r.file ++ ":" ++ Decimal.ofInt r.line.toInt ∧
      id.length = 20 ∧ uid.length = 6 ∧ length.length = 3 ∧ function.length = 3 ∧
      sequence.length = 2 := by
  have hbyte (b : UInt8) : (decimalByte b).length ≤ 3 :=
    Decimal.length_ofNat_le (b.toNat_lt.trans (by decide))
  have hhalf : ∀ b : UInt8, (b >>> 4).toNat < 10 ^ 2 := by decide +kernel
  refine ⟨⟨eq_of_textLine_eq, ?_⟩, ?_⟩
  · rintro ⟨hid, htime, huid, hlength, hfunction, hsequence, hoption, herror, hfile, hline, hsince⟩
    unfold textLine
    rw [hsince, hid, htime, huid, hlength, hfunction, hsequence, hoption, herror, hfile, hline]
  · intro id uid length function sequence
    refine ⟨rfl, Column.length_right ?_, Column.length_left ?_, Column.length_right (hbyte _),
      Column.length_right (hbyte _), Column.length_right ?_⟩
    · exact Decimal.length_ofNat_le (r.traceId.toNat_lt.trans (by decide))
    · refine Base58.length_encode_le ?_
      rw [UInt32.toNat_toUInt64]
      exact r.uid.toNat_lt.trans (by decide)
    · exact Decimal.length_ofNat_le (hhalf r.sequenceByte)

end Record

end PacketLog
