/-
A log that is cut off at some byte.

What comes before the record that the cut goes through is read as ever, and the bytes that are left
of that record are reported by the part that the cut goes through: its header, its file name with
the zero byte, or its line number.  A file name is not looked at before its zero byte is found, so
a cut inside a character is never reported as bad text.

* `Record.read_take_wire` — reading the beginning of a record;
* `isCut_take` — the records and the rest of the beginning of a log;
* `outcomes_take` — the items of the beginning of a log, for every place to cut it.
-/
import PacketLog.Proofs.Exactness

namespace PacketLog

namespace Record

/-- What is found wrong with the first `n` bytes of a record, if there are more of them. -/
def truncation (r : Record) (n : Nat) : Defect :=
  if n < headerLength then .shortHeader n
  else if n ≤ headerLength + (Utf8.encode r.file).length then .openName
  else .shortLine (n - (headerLength + (Utf8.encode r.file).length + 1))

theorem truncation_ne_badName (r : Record) (n : Nat) (fault : Utf8.Fault) :
    r.truncation n ≠ .badName fault := by
  rw [truncation]
  split
  · simp
  · split <;> simp

/-- **Reading the beginning of a record** tells where it was cut off. -/
theorem read_take_wire {r : Record} (h : r.isWritable = true) {n : Nat} (hn : n < r.length) :
    read (r.wire.take n) = .error (r.truncation n) := by
  have hheader := length_header r
  have hname := isWritable_iff.mp h
  have hlen := r.length_wire
  rw [length] at hn
  rw [wire_eq, truncation]
  by_cases hshort : n < headerLength
  · have htake : (r.wire.take n).length = n := by
      rw [List.length_take, hlen, length]
      omega
    have hread : read (r.wire.take n) = .error (.shortHeader (r.wire.take n).length) :=
      read_eq_iff.mpr (.shortHeader (by rwa [htake]))
    rw [htake, wire_eq] at hread
    rw [if_pos hshort, hread]
  · -- The header is whole, and the cut goes through what is behind it.
    obtain ⟨k, rfl⟩ := Nat.exists_eq_add_of_le (Nat.le_of_not_lt hshort)
    rw [if_neg hshort, ← hheader, List.take_length_add_append, hheader]
    by_cases hopen : k ≤ (Utf8.encode r.file).length
    · have hzero : 0 ∉ (Utf8.encode r.file).take k := fun hmem => hname (List.mem_of_mem_take hmem)
      rw [if_pos (by omega), List.take_append_of_le_length hopen]
      exact read_eq_iff.mpr (.openName hheader hzero)
    · obtain ⟨m, rfl⟩ : ∃ m, k = (Utf8.encode r.file).length + (m + 1) :=
        ⟨k - (Utf8.encode r.file).length - 1, by omega⟩
      have hm : m < lineLength := by omega
      have hline : ((Bytes.ofNat lineLength r.line.toUInt32.toNat).take m).length = m := by
        rw [List.length_take, Bytes.length_ofNat]
        omega
      have hread := read_eq_iff.mpr (.shortLine hheader hname (Utf8.decode_encode r.file)
        (hline.trans_lt hm))
      rw [hline] at hread
      have hleft : headerLength + ((Utf8.encode r.file).length + (m + 1)) -
          (headerLength + (Utf8.encode r.file).length + 1) = m := by omega
      rw [if_neg (by omega), hleft, List.take_length_add_append, List.take_succ_cons, hread]

/-- As many records as fit into `n` bytes come before the place behind these bytes. -/
theorem exists_fitting (rs : List Record) {n : Nat} (hn : n ≤ (wires rs).length) :
    ∃ past ahead, rs = past ++ ahead ∧ (wires past).length ≤ n ∧
      ∀ r ∈ ahead.head?, n < (wires past).length + r.length := by
  induction rs generalizing n with
  | nil => exact ⟨[], [], rfl, Nat.zero_le n, by simp⟩
  | cons r rs ih =>
    rw [wires_cons, List.length_append, length_wire] at hn
    by_cases hfits : r.length ≤ n
    · obtain ⟨past, ahead, rfl, hpast, hahead⟩ := ih (n := n - r.length) (by omega)
      refine ⟨r :: past, ahead, rfl, ?_, ?_⟩
      · rw [wires_cons, List.length_append, length_wire]
        omega
      · intro s hs
        have hlt := hahead s hs
        rw [wires_cons, List.length_append, length_wire]
        omega
    · refine ⟨[], r :: rs, rfl, Nat.zero_le n, ?_⟩
      rintro s ⟨⟩
      rw [wires_nil, List.length_nil]
      omega

end Record

/-- **The beginning of a log** is the records that are in it and the beginning of the next one. -/
theorem isCut_take {past ahead : List Record} {r : Record} {n : Nat}
    (h : ∀ s ∈ past ++ r :: ahead, s.isWritable = true) (hpast : (Record.wires past).length ≤ n)
    (hn : n < (Record.wires past).length + r.length) :
    IsCut ((Record.wires (past ++ r :: ahead)).take n) past
      (r.wire.take (n - (Record.wires past).length))
      (r.truncation (n - (Record.wires past).length)) := by
  obtain ⟨k, rfl⟩ := Nat.exists_eq_add_of_le hpast
  have hk : k < r.length := by omega
  rw [Nat.add_sub_cancel_left]
  refine ⟨?_, fun s hs => h s (List.mem_append_left _ hs), ?_⟩
  · have hle : k ≤ r.wire.length := by
      rw [Record.length_wire]
      omega
    rw [Record.wires_append, List.take_length_add_append, Record.wires_cons,
      List.take_append_of_le_length hle]
  · exact Record.read_take_wire (h r (by simp)) hk

/-- A record that does not fit behind those before it bounds the number of records that fit. -/
theorem isGreatest_fitting {past ahead : List Record} {n : Nat}
    (hpast : (Record.wires past).length ≤ n)
    (hahead : ∀ r ∈ ahead.head?, n < (Record.wires past).length + r.length) :
    IsGreatest {j | j ≤ (past ++ ahead).length ∧
      (((past ++ ahead).take j).map Record.length).sum ≤ n} past.length := by
  constructor
  · refine ⟨by simp, ?_⟩
    rw [List.take_left, ← Record.length_wires]
    exact hpast
  · rintro j ⟨hj, hsum⟩
    by_contra hlt
    -- One more record than `past` has would take the record that does not fit.
    rcases ahead with _ | ⟨r, ahead⟩
    · rw [List.append_nil] at hj
      exact hlt hj
    · have hr := hahead r rfl
      obtain ⟨k, rfl⟩ : ∃ k, j = past.length + (k + 1) := ⟨j - past.length - 1, by omega⟩
      rw [List.take_length_add_append, List.take_succ_cons, List.map_append, List.map_cons,
        List.sum_append, List.sum_cons, ← Record.length_wires] at hsum
      omega

/-- **The items of a log that is cut off.**  Records with no NUL in their file names are written,
and of the first `n` bytes as many records are read as fit into them.  If bytes are left there is
one failure behind these, where the next record begins, and the part of it that the cut goes through
tells which; a bad text it never is. -/
theorem outcomes_take (rs : List Record) (h : ∀ r ∈ rs, '\x00' ∉ r.file.toList) :
    ∃ bs, Record.encodeAll rs = .ok bs ∧ ∀ n ≤ bs.length, ∃ j,
      IsGreatest {j | j ≤ rs.length ∧ ((rs.take j).map Record.length).sum ≤ n} j ∧
      let start := ((rs.take j).map Record.length).sum
      (n = start → outcomes (bs.take n) = (rs.take j).map .ok) ∧
      (n ≠ start → ∃ r ∈ rs[j]?,
        outcomes (bs.take n) = (rs.take j).map .ok ++ [.error ⟨start, r.truncation (n - start)⟩]) ∧
      ∀ offset fault, .error ⟨offset, .badName fault⟩ ∉ outcomes (bs.take n) := by
  have hw : ∀ r ∈ rs, r.isWritable = true := fun r hr => Record.isWritable_iff_nul.mpr (h r hr)
  have hencode : Record.encodeAll rs = .ok (Record.wires rs) :=
    Record.encodeAll_eq_ok_iff.mpr ⟨hw, rfl⟩
  refine ⟨Record.wires rs, hencode, fun n hn => ?_⟩
  obtain ⟨past, ahead, rfl, hpast, hahead⟩ := Record.exists_fitting rs hn
  refine ⟨past.length, isGreatest_fitting hpast hahead, ?_⟩
  rw [List.take_left, ← Record.length_wires]
  rcases ahead with _ | ⟨r, ahead⟩
  · -- All records fit, so that nothing is cut off.
    rw [List.append_nil] at hn hencode ⊢
    have hall := (isCut_of_encodeAll hencode).outcomes_eq
    rw [if_pos rfl, List.append_nil] at hall
    rw [List.take_of_length_le hpast, hall]
    refine ⟨fun _ => rfl, fun hne => absurd (Nat.le_antisymm hn hpast) hne, ?_⟩
    simp
  · have hout := (isCut_take hw hpast (hahead r rfl)).outcomes_eq
    have hwire : r.wire ≠ [] := by
      simpa using Cursor.wire_append_ne_nil r []
    rw [hout]
    refine ⟨?_, ?_, ?_⟩
    · rintro rfl
      rw [Nat.sub_self, List.take_zero, if_pos rfl, List.append_nil]
    · intro hne
      have hleft : r.wire.take (n - (Record.wires past).length) ≠ [] := by
        rw [Ne, List.take_eq_nil_iff, not_or]
        exact ⟨by omega, hwire⟩
      refine ⟨r, ?_, by rw [if_neg hleft]⟩
      rw [List.getElem?_append_right (Nat.le_refl _), Nat.sub_self]
      rfl
    · intro offset fault hmem
      rcases List.mem_append.mp hmem with hmem | hmem
      · simp at hmem
      · split at hmem
        · simp at hmem
        · obtain ⟨-, hbad⟩ := ReadError.mk.inj (Except.error.inj (List.mem_singleton.mp hmem))
          exact r.truncation_ne_badName _ fault hbad.symm

/-- A log of two records that is cut off inside the first character of the second file name. -/
theorem outcomes_take_inside_character :
    let first : Record := ⟨2, 1000, 54544, 8, 254, 0xB4, 0xC0, "", 7⟩
    let second : Record := ⟨0, 0, 0, 0, 0, 0, 0, "é.c", -1⟩
    (∀ r ∈ [first, second], '\x00' ∉ r.file.toList) ∧
    ∃ bs, Record.encodeAll [first, second] = .ok bs ∧ 54 ≤ bs.length ∧
      outcomes (bs.take 54) = [.ok first, .error ⟨29, .openName⟩] := by
  intro first second
  have h : ∀ r ∈ [first, second], '\x00' ∉ r.file.toList := by decide
  obtain ⟨bs, hencode, htake⟩ := outcomes_take [first, second] h
  have hlen : bs.length = 62 := by
    rw [← (Record.encodeAll_eq_ok_iff.mp hencode).2, Record.length_wires]
    decide
  obtain ⟨j, ⟨⟨hj, hsum⟩, hgreatest⟩, hout⟩ := htake 54 (by omega)
  -- The first record takes 29 bytes and both take 62.
  have hone : 1 ≤ j := hgreatest (by decide)
  obtain rfl : j = 1 := by
    by_contra hne
    obtain rfl : j = 2 := by
      have : j ≤ 2 := hj
      omega
    exact absurd hsum (by decide)
  have hstart : (([first, second].take 1).map Record.length).sum = 29 := by decide
  have hopen : second.truncation (54 - 29) = .openName := by decide
  obtain ⟨r, hr, hitems⟩ := hout.2.1 (by decide)
  obtain rfl : second = r := Option.some.inj hr
  rw [hstart, hopen] at hitems
  exact ⟨h, bs, hencode, by omega, hitems⟩

end PacketLog
