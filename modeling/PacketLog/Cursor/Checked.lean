/-
Reading a record with every slice and every sum checked.

A cursor takes parts of lists, which are there however short the list is, and adds numbers, which
have no bound.  Where bytes stand in memory and offsets are words, a part can reach beyond the bytes
and a sum beyond a word.  Here both are looked at each time, and the checks never fail.

* `Cursor.readChecked` — reading a record in this way, which gives nothing when a check fails;
* `Cursor.readChecked_eq` — it gives what `Cursor.read` gives, at every offset.
-/
import PacketLog.Cursor
import PacketLog.Record.RoundTrip

namespace PacketLog

/-- The bytes from one place up to another, if these are places in the byte string. -/
def Bytes.slice? (bs : Bytes) (start stop : Nat) : Option Bytes :=
  if start ≤ stop ∧ stop ≤ bs.length then some ((bs.drop start).take (stop - start)) else none

/-- The sum of two numbers, if it is one of a word of 64 bits. -/
def Word.add? (m n : Nat) : Option Nat := if m + n < UInt64.size then some (m + n) else none

/-- The record with a header, a file name and a line number, each field cut out with a check. -/
def Record.ofParts? (header : Bytes) (file : String) (line : Bytes) : Option Record := do
  let traceId ← header.slice? 0 8
  let timestamp ← header.slice? 8 16
  let uid ← header.slice? 16 20
  let packetLength ← header[20]?
  let functionId ← header[21]?
  let sequenceByte ← header[22]?
  let errorByte ← header[23]?
  let line ← line.slice? 0 lineLength
  return ⟨UInt64.ofNat (Bytes.toNat traceId), UInt64.ofNat (Bytes.toNat timestamp),
    UInt32.ofNat (Bytes.toNat uid), packetLength, functionId, sequenceByte, errorByte, file,
    (UInt32.ofNat (Bytes.toNat line)).toInt32⟩

/-- Reads the record at an offset, and tells the offset behind it or, after a failure, the same one.
Nothing is given when a slice is not in the bytes or a sum is no word. -/
def Cursor.readChecked (bs : Bytes) (offset : Nat) : Option (Except ReadError Entry × Nat) :=
  let failure (defect : Record.Defect) : Option (Except ReadError Entry × Nat) :=
    some (.error ⟨offset, defect⟩, offset)
  -- An offset behind the end is no fault: there are no bytes then.
  let rest := (bs.slice? offset bs.length).getD []
  if rest.length < Record.headerLength then failure (.shortHeader rest.length)
  else do
    let header ← rest.slice? 0 Record.headerLength
    let body ← rest.slice? Record.headerLength rest.length
    match body.idxOf? 0 with
    | none => failure .openName
    | some length =>
      let name ← body.slice? 0 length
      match Utf8.decode name with
      | .error fault => failure (.badName fault)
      | .ok file =>
        let behind ← Word.add? length 1
        let tail ← body.slice? behind body.length
        if tail.length < Record.lineLength then failure (.shortLine tail.length)
        else
          let record ← Record.ofParts? header file tail
          let stop ← Word.add? offset Record.headerLength
          let stop ← Word.add? stop length
          let stop ← Word.add? stop 1
          let stop ← Word.add? stop Record.lineLength
          return (.ok ⟨offset, record, stop⟩, stop)

/-! ### No check fails -/

namespace Bytes

theorem slice?_eq {bs : Bytes} {start stop : Nat} (hstart : start ≤ stop)
    (hstop : stop ≤ bs.length) :
    bs.slice? start stop = some ((bs.drop start).take (stop - start)) := by
  rw [slice?, if_pos ⟨hstart, hstop⟩]

theorem slice?_left (as bs : Bytes) : (as ++ bs).slice? 0 as.length = some as := by
  rw [slice?_eq (Nat.zero_le _) (by simp), List.drop_zero, Nat.sub_zero, List.take_left]

theorem slice?_right (as bs : Bytes) :
    (as ++ bs).slice? as.length (as ++ bs).length = some bs := by
  have hlen : (as ++ bs).length - as.length = bs.length := by simp
  rw [slice?_eq (by simp) (Nat.le_refl _), List.drop_left, hlen, List.take_length]

/-- The bytes from an offset on, none if it is behind the end. -/
theorem getD_slice? (bs : Bytes) (offset : Nat) :
    (bs.slice? offset bs.length).getD [] = bs.drop offset := by
  by_cases hle : offset ≤ bs.length
  · rw [slice?_eq hle (Nat.le_refl _), Option.getD_some, ← List.length_drop, List.take_length]
  · have hover : ¬ (offset ≤ bs.length ∧ bs.length ≤ bs.length) := fun h => hle h.1
    rw [slice?, if_neg hover, Option.getD_none, List.drop_eq_nil_of_le (by omega)]

end Bytes

theorem Word.add?_eq {m n : Nat} (h : m + n < UInt64.size) : add? m n = some (m + n) := by
  rw [add?, if_pos h]

namespace Record

theorem idxOf?_zero {name : Bytes} (tail : Bytes) (h : 0 ∉ name) :
    (name ++ 0 :: tail).idxOf? 0 = some name.length := by
  refine List.idxOf?_eq_some_iff.mpr ⟨by simp, by simp, ?_⟩
  intro j hj hzero
  rw [List.getElem_append_left hj] at hzero
  rw [← hzero] at h
  exact h (List.getElem_mem hj)

theorem ofParts?_eq {header : Bytes} (file : String) (line rest : Bytes)
    (hheader : header.length = headerLength) (hline : line.length = lineLength) :
    ofParts? header file (line ++ rest) = some (ofParts header file line) := by
  rw [headerLength] at hheader
  have hbyte (i : Nat) (hi : i < 24) : header[i]? = some (header.getD i 0) := by
    have hin : i < header.length := by omega
    rw [List.getD_eq_getElem?_getD, List.getElem?_eq_getElem hin, Option.getD_some]
  rw [ofParts?, Bytes.slice?_eq (by omega) (by omega), Bytes.slice?_eq (by omega) (by omega),
    Bytes.slice?_eq (by omega) (by omega), hbyte 20 (by omega), hbyte 21 (by omega),
    hbyte 22 (by omega), hbyte 23 (by omega), ← hline, Bytes.slice?_left]
  rfl

end Record

namespace Cursor

variable {bs header : Bytes} {offset : Nat}

theorem readChecked_open {body : Bytes} (hbs : bs.drop offset = header ++ body)
    (hheader : header.length = Record.headerLength) (hbody : 0 ∉ body) :
    readChecked bs offset = some (.error ⟨offset, .openName⟩, offset) := by
  have hlong : ¬ (header ++ body).length < Record.headerLength := by
    rw [List.length_append]
    omega
  rw [readChecked, Bytes.getD_slice?, hbs, if_neg hlong, ← hheader]
  simp only [Bytes.slice?_left, Bytes.slice?_right, List.idxOf?_eq_none_iff.mpr hbody,
    Option.bind_eq_bind, Option.bind_some]

/-- With a whole header and a zero byte behind it, the name and what is behind the zero byte are
parts of the bytes. -/
theorem readChecked_named {name tail : Bytes} (hlen : bs.length < 2 ^ 63)
    (hbs : bs.drop offset = header ++ (name ++ 0 :: tail))
    (hheader : header.length = Record.headerLength) (hname : 0 ∉ name) :
    readChecked bs offset =
      match Utf8.decode name with
      | .error fault => some (.error ⟨offset, .badName fault⟩, offset)
      | .ok file =>
        if tail.length < Record.lineLength then
          some (.error ⟨offset, .shortLine tail.length⟩, offset)
        else
          let stop := offset + Record.headerLength + name.length + 1 + Record.lineLength
          (Record.ofParts? header file tail).map fun record =>
            (.ok ⟨offset, record, stop⟩, stop) := by
  have hlong : ¬ (header ++ (name ++ 0 :: tail)).length < Record.headerLength := by
    rw [List.length_append]
    omega
  have hplace := congrArg List.length hbs
  simp only [List.length_drop, List.length_append, List.length_cons] at hplace
  have hsize : UInt64.size = 2 ^ 64 := rfl
  have htail : (name ++ 0 :: tail).slice? (name.length + 1) (name ++ 0 :: tail).length =
      some tail := by
    have hslice := Bytes.slice?_right (name ++ [0]) tail
    rwa [List.length_append, List.length_singleton, List.append_assoc,
      List.singleton_append] at hslice
  rw [readChecked, Bytes.getD_slice?, hbs, if_neg hlong, ← hheader]
  simp only [Bytes.slice?_left, Bytes.slice?_right, Record.idxOf?_zero tail hname, htail,
    Option.bind_eq_bind, Option.bind_some,
    Word.add?_eq (show name.length + 1 < UInt64.size by omega)]
  cases Utf8.decode name with
  | error fault => rfl
  | ok file =>
    by_cases hshort : tail.length < Record.lineLength
    · simp only [if_pos hshort]
    · -- The record ends inside the bytes, so none of the sums before its end is too large.
      have hstop : offset + header.length + name.length + 1 + Record.lineLength < UInt64.size := by
        omega
      have hadd {m n : Nat} (hle : m + n ≤ offset + header.length + name.length + 1 +
          Record.lineLength) : Word.add? m n = some (m + n) :=
        Word.add?_eq (hle.trans_lt hstop)
      simp only [if_neg hshort]
      cases Record.ofParts? header file tail with
      | none => rfl
      | some record =>
        rw [Option.bind_some, hadd (by omega), Option.bind_some, hadd (by omega),
          Option.bind_some, hadd (by omega), Option.bind_some, hadd (by omega)]
        rfl

/-- **No check fails**: at every offset, reading with checks is reading. -/
theorem readChecked_eq {bs : Bytes} (hlen : bs.length < 2 ^ 63) (offset : Nat) :
    readChecked bs offset =
      some ((ofOffset bs offset).read.1, (ofOffset bs offset).read.2.offset) := by
  obtain ⟨x, hreads⟩ := Record.exists_reads (bs.drop offset)
  have hread := hreads.read_eq
  rw [ofOffset, read, hread]
  generalize hbs : bs.drop offset = rest at hreads
  -- The checks come in the order of the parts, so each outcome passes those before it.
  cases hreads with
  | shortHeader h =>
    rw [readChecked, Bytes.getD_slice?, hbs, if_pos h]
  | openName hheader hbody => rw [readChecked_open hbs hheader hbody]
  | badName hheader hname hfault => rw [readChecked_named hlen hbs hheader hname, hfault]
  | shortLine hheader hname hfile htail =>
    rw [readChecked_named hlen hbs hheader hname, hfile]
    exact if_pos htail
  | @record header name line rest file hheader hname hfile hline =>
    have hlong : ¬ (line ++ rest).length < Record.lineLength := by
      rw [List.length_append]
      omega
    rw [readChecked_named hlen hbs hheader hname, hfile]
    dsimp only
    rw [if_neg hlong, Record.ofParts?_eq file line rest hheader hline]
    simp only [Option.map_some, Nat.add_assoc]

end Cursor

end PacketLog
