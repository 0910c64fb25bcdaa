/-
Writing and reading records undo each other.

* `length_wire : r.wire.length = r.length` (a record has the number of bytes that it should),
* `read_eq_iff : read bs = x ↔ Reads bs x` (the layout of a byte string tells what reading gives),
* `read_wire` : what is written of a writable record is read back, whatever follows it,
* `wire_of_read` : what is read has one written form, the bytes that it was read from.
-/
import Mathlib
import PacketLog.Bytes.RoundTrip
import PacketLog.Record.Wire
import PacketLog.Text.Utf8.RoundTrip

namespace PacketLog.Record

def header (r : Record) : Bytes := r.headerParts.flatten

theorem wire_eq (r : Record) :
    r.wire = r.header ++ (Utf8.encode r.file ++ 0 ::
      Bytes.ofNat lineLength r.line.toUInt32.toNat) := by
  simp [wire, parts, header]

@[simp] theorem length_header (r : Record) : r.header.length = headerLength := by
  simp [header, headerParts, headerLength]

theorem length_wire (r : Record) : r.wire.length = r.length := by
  rw [wire_eq, length]
  simp
  omega

theorem isWritable_iff {r : Record} : r.isWritable = true ↔ 0 ∉ Utf8.encode r.file := by
  simp [isWritable]

/-- A record is writable if there is no NUL in its file name. -/
theorem isWritable_iff_nul {r : Record} : r.isWritable = true ↔ '\x00' ∉ r.file.toList := by
  have hnul := Utf8.ascii_mem_encode_iff (c := '\x00') (by decide) r.file
  rw [isWritable_iff, ← hnul]
  rfl

/-! ### Reading what was written -/

theorem ofParts_append {a b c tail line : Bytes} {file : String} (ha : a.length = 8)
    (hb : b.length = 8) (hc : c.length = 4) :
    ofParts (a ++ (b ++ (c ++ tail))) file line =
      ⟨UInt64.ofNat (Bytes.toNat a), UInt64.ofNat (Bytes.toNat b), UInt32.ofNat (Bytes.toNat c),
        tail.getD 0 0, tail.getD 1 0, tail.getD 2 0, tail.getD 3 0, file,
        (UInt32.ofNat (Bytes.toNat line)).toInt32⟩ := by
  have hab : (a ++ b).length = 16 := by simp [ha, hb]
  have habc : (a ++ (b ++ c)).length = 20 := by simp [ha, hb, hc]
  have hget {i n : Nat} (h : n = 20 + i) :
      (a ++ (b ++ (c ++ tail))).getD n 0 = tail.getD i 0 := by
    rw [h, ← habc, ← List.append_assoc b, ← List.append_assoc a, List.getD_eq_getElem?_getD,
      List.getElem?_append_right (Nat.le_add_right _ _), Nat.add_sub_cancel_left,
      List.getD_eq_getElem?_getD]
  have hdrop : (a ++ (b ++ (c ++ tail))).drop 16 = c ++ tail := by
    rw [← List.append_assoc, List.drop_left' hab]
  rw [ofParts, List.take_left' ha, List.drop_left' ha, List.take_left' hb, hdrop,
    List.take_left' hc, hget (show 20 = 20 + 0 from rfl), hget (show 21 = 20 + 1 from rfl),
    hget (show 22 = 20 + 2 from rfl), hget (show 23 = 20 + 3 from rfl)]

theorem ofParts_header (r : Record) :
    ofParts r.header r.file (Bytes.ofNat lineLength r.line.toUInt32.toNat) = r := by
  have h8 (n : UInt64) : UInt64.ofNat (n.toNat % 256 ^ 8) = n := by
    rw [Nat.mod_eq_of_lt (by have := n.toNat_lt; omega), UInt64.ofNat_toNat]
  have h4 (n : UInt32) : UInt32.ofNat (n.toNat % 256 ^ 4) = n := by
    rw [Nat.mod_eq_of_lt (by have := n.toNat_lt; omega), UInt32.ofNat_toNat]
  have hheader : r.header = Bytes.ofNat 8 r.traceId.toNat ++ (Bytes.ofNat 8 r.timestamp.toNat ++
      (Bytes.ofNat 4 r.uid.toNat ++
        [r.packetLength, r.functionId, r.sequenceByte, r.errorByte])) := rfl
  rw [hheader, ofParts_append (by simp) (by simp) (by simp)]
  simp only [Bytes.toNat_ofNat, lineLength, h8, h4]
  rfl

theorem takeWhile_ne_zero {name tail : Bytes} (h : 0 ∉ name) :
    (name ++ 0 :: tail).takeWhile (· != 0) = name := by
  induction name with
  | nil => simp
  | cons b name ih =>
    rw [List.mem_cons, not_or] at h
    have hb : (b != 0) = true := by simpa using Ne.symm h.1
    rw [List.cons_append, List.takeWhile_cons, if_pos hb, ih h.2]

theorem dropWhile_ne_zero {name tail : Bytes} (h : 0 ∉ name) :
    (name ++ 0 :: tail).dropWhile (· != 0) = 0 :: tail := by
  induction name with
  | nil => simp
  | cons b name ih =>
    rw [List.mem_cons, not_or] at h
    have hb : (b != 0) = true := by simpa using Ne.symm h.1
    rw [List.cons_append, List.dropWhile_cons, if_pos hb, ih h.2]

/-! ### How reading can go -/

/-- What reading gives for each layout of a byte string. -/
inductive Reads : Bytes → Except Defect Reading → Prop
  | shortHeader {bs : Bytes} (h : bs.length < headerLength) :
      Reads bs (.error (.shortHeader bs.length))
  | openName {header body : Bytes} (hheader : header.length = headerLength) (hbody : 0 ∉ body) :
      Reads (header ++ body) (.error .openName)
  | badName {header name tail : Bytes} {fault : Utf8.Fault}
      (hheader : header.length = headerLength) (hname : 0 ∉ name)
      (hfault : Utf8.decode name = .error fault) :
      Reads (header ++ (name ++ 0 :: tail)) (.error (.badName fault))
  | shortLine {header name tail : Bytes} {file : String}
      (hheader : header.length = headerLength) (hname : 0 ∉ name)
      (hfile : Utf8.decode name = .ok file) (htail : tail.length < lineLength) :
      Reads (header ++ (name ++ 0 :: tail)) (.error (.shortLine tail.length))
  | record {header name line rest : Bytes} {file : String}
      (hheader : header.length = headerLength) (hname : 0 ∉ name)
      (hfile : Utf8.decode name = .ok file) (hline : line.length = lineLength) :
      Reads (header ++ (name ++ 0 :: (line ++ rest)))
        (.ok ⟨ofParts header file line, headerLength + name.length + 1 + lineLength, rest⟩)

theorem read_append {header : Bytes} (h : header.length = headerLength) (body : Bytes) :
    read (header ++ body) =
      match body.dropWhile (· != 0) with
      | [] => .error .openName
      | _ :: tail =>
        match Utf8.decode (body.takeWhile (· != 0)) with
        | .error fault => .error (.badName fault)
        | .ok file =>
          if tail.length < lineLength then .error (.shortLine tail.length)
          else
            .ok ⟨ofParts header file (tail.take lineLength),
              headerLength + (body.takeWhile (· != 0)).length + 1 + lineLength,
              tail.drop lineLength⟩ := by
  have hlen : ¬ (header ++ body).length < headerLength := by
    rw [List.length_append, h]
    omega
  have hread : read (header ++ body) = _ := if_neg hlen
  rw [List.drop_left' h, List.take_left' h] at hread
  exact hread

theorem Reads.read_eq {bs : Bytes} {x : Except Defect Reading} (h : Reads bs x) :
    read bs = x := by
  cases h with
  | shortHeader h => rw [read, if_pos h]
  | @openName header body hheader hbody =>
    have hopen : body.dropWhile (· != 0) = [] := by
      refine List.dropWhile_eq_nil_iff.mpr fun b hb => ?_
      rw [bne_iff_ne]
      rintro rfl
      exact hbody hb
    rw [read_append hheader, hopen]
  | badName hheader hname hfault =>
    rw [read_append hheader, takeWhile_ne_zero hname, dropWhile_ne_zero hname]
    simp only [hfault]
  | shortLine hheader hname hfile htail =>
    rw [read_append hheader, takeWhile_ne_zero hname, dropWhile_ne_zero hname]
    simp only [hfile, if_pos htail]
  | @record header name line rest file hheader hname hfile hline =>
    have hlong : ¬ (line ++ rest).length < lineLength := by
      rw [List.length_append, hline]
      exact Nat.not_lt.mpr (Nat.le_add_right _ _)
    rw [read_append hheader, takeWhile_ne_zero hname, dropWhile_ne_zero hname]
    simp only [hfile, if_neg hlong, List.take_left' hline, List.drop_left' hline]

theorem exists_reads (bs : Bytes) : ∃ x, Reads bs x := by
  -- The cases are the checks in their order: the header, the zero byte, the text, the line.
  by_cases hlen : bs.length < headerLength
  · exact ⟨_, .shortHeader hlen⟩
  have hheader : (bs.take headerLength).length = headerLength := by
    rw [List.length_take]
    omega
  rw [← List.take_append_drop headerLength bs]
  by_cases hbody : 0 ∈ bs.drop headerLength
  · obtain ⟨name, tail, hsplit, hname⟩ := List.eq_append_cons_of_mem hbody
    rw [hsplit]
    rcases hname' : Utf8.decode name with fault | file
    · exact ⟨_, .badName hheader hname hname'⟩
    · by_cases htail : tail.length < lineLength
      · exact ⟨_, .shortLine hheader hname hname' htail⟩
      · have hline : (tail.take lineLength).length = lineLength := by
          rw [List.length_take]
          omega
        rw [← List.take_append_drop lineLength tail]
        exact ⟨_, .record hheader hname hname' hline⟩
  · exact ⟨_, .openName hheader hbody⟩

/-- The layout of a byte string tells what reading gives, and the other way round. -/
theorem read_eq_iff {bs : Bytes} {x : Except Defect Reading} : read bs = x ↔ Reads bs x := by
  constructor
  · rintro rfl
    obtain ⟨x, hx⟩ := exists_reads bs
    rwa [hx.read_eq]
  · exact Reads.read_eq

/-- What is written of a writable record is read back, whatever follows it. -/
theorem read_wire {r : Record} (h : r.isWritable = true) (rest : Bytes) :
    read (r.wire ++ rest) = .ok ⟨r, r.length, rest⟩ := by
  have hbytes : r.wire ++ rest = r.header ++ (Utf8.encode r.file ++ 0 ::
      (Bytes.ofNat lineLength r.line.toUInt32.toNat ++ rest)) := by
    simp [wire_eq]
  have hline := Bytes.length_ofNat lineLength r.line.toUInt32.toNat
  have hread : read (r.header ++ (Utf8.encode r.file ++ 0 ::
      (Bytes.ofNat lineLength r.line.toUInt32.toNat ++ rest))) = _ :=
    read_eq_iff.mpr
      (.record (length_header r) (isWritable_iff.mp h) (Utf8.decode_encode r.file) hline)
  rw [hbytes, hread, ofParts_header, length]

/-! ### Writing what was read -/

theorem ofNat_toNat_word {bs : Bytes} {n : Nat} (h : bs.length = n) :
    Bytes.ofNat n (Bytes.toNat bs % 256 ^ n) = bs := by
  subst h
  rw [Nat.mod_eq_of_lt (Bytes.toNat_lt bs), Bytes.ofNat_toNat]

theorem header_ofParts {bs line : Bytes} {file : String} (h : bs.length = headerLength) :
    (ofParts bs file line).header = bs := by
  have hsplit : bs = bs.take 8 ++ ((bs.drop 8).take 8 ++ ((bs.drop 16).take 4 ++ bs.drop 20)) := by
    rw [show 20 = 16 + 4 from rfl, ← List.drop_drop, List.take_append_drop,
      show 16 = 8 + 8 from rfl, ← List.drop_drop, List.take_append_drop, List.take_append_drop]
  have ha : (bs.take 8).length = 8 := by simp [h, headerLength]
  have hb : ((bs.drop 8).take 8).length = 8 := by simp [h, headerLength]
  have hc : ((bs.drop 16).take 4).length = 4 := by simp [h, headerLength]
  have ht : (bs.drop 20).length = 4 := by simp [h, headerLength]
  -- With a name for each field the bytes are written back one field at a time.
  generalize bs.take 8 = a at *
  generalize (bs.drop 8).take 8 = b at *
  generalize (bs.drop 16).take 4 = c at *
  match htail : bs.drop 20, ht with
  | [p, q, s, t], _ =>
    rw [htail] at hsplit
    rw [hsplit, ofParts_append ha hb hc]
    have h8 (n : Nat) : (UInt64.ofNat n).toNat = n % 256 ^ 8 := by simp
    have h4 (n : Nat) : (UInt32.ofNat n).toNat = n % 256 ^ 4 := by simp
    show Bytes.ofNat 8 (UInt64.ofNat (Bytes.toNat a)).toNat ++
      (Bytes.ofNat 8 (UInt64.ofNat (Bytes.toNat b)).toNat ++
        (Bytes.ofNat 4 (UInt32.ofNat (Bytes.toNat c)).toNat ++ [p, q, s, t])) = _
    rw [h8, h8, h4, ofNat_toNat_word ha, ofNat_toNat_word hb, ofNat_toNat_word hc]

/-- What is read has one written form, the bytes that it was read from. -/
theorem wire_of_read {bs : Bytes} {x : Reading} (h : read bs = .ok x) :
    x.record.wire ++ x.rest = bs ∧ x.record.isWritable = true ∧ x.used = x.record.length := by
  cases read_eq_iff.mp h with
  | @record header name line rest file hheader hname hfile hline =>
    have hencode := Utf8.encode_of_decode hfile
    have hword : (UInt32.ofNat (Bytes.toNat line)).toInt32.toUInt32.toNat =
        Bytes.toNat line % 256 ^ lineLength := by
      simp [lineLength]
    refine ⟨?_, ?_, ?_⟩
    · show (ofParts header file line).wire ++ rest = _
      rw [wire_eq, header_ofParts hheader]
      show header ++ (Utf8.encode file ++ 0 :: Bytes.ofNat lineLength
        (UInt32.ofNat (Bytes.toNat line)).toInt32.toUInt32.toNat) ++ rest = _
      rw [hword, ofNat_toNat_word hline, hencode, List.append_assoc, List.append_assoc,
        List.cons_append]
    · rw [isWritable_iff]
      show 0 ∉ Utf8.encode file
      rwa [hencode]
    · show _ = headerLength + (Utf8.encode file).length + 1 + lineLength
      rw [hencode]

end PacketLog.Record
