/-
Reading at an offset accepts exactly the records.

A byte string need not be a log, and an offset need not be the beginning of a record or even a place
in the byte string.  A record is read exactly if one is written there.  Else one of the four defects
is found: the header is too short, there is no zero byte behind it, the name before the zero byte
is no text, or too few bytes follow it.  Their order matters, as the name is looked at before the
line number is.

* `Record.read_eq_ok_iff` — when a record is read;
* `Record.read_shortHeader_iff`, `Record.read_openName_iff`, `Record.exists_read_badName_iff`,
  `Record.read_shortLine_iff` — when each defect is found;
* `Cursor.read_ofOffset` — all of it for the cursor at an offset, and that no check would fail there.
-/
import PacketLog.Cursor.Checked
import PacketLog.Failure
import PacketLog.Proofs.Cut
import PacketLog.Text.Utf8.WellFormed

namespace PacketLog

namespace Record

variable {bs : Bytes}

/-- **A record is read exactly if it is written there.** -/
theorem read_eq_ok_iff {r : Record} {used : Nat} {rest : Bytes} :
    read bs = .ok ⟨r, used, rest⟩ ↔ r.isWritable = true ∧ r.wire ++ rest = bs ∧ used = r.length := by
  constructor
  · intro h
    obtain ⟨hwire, hwritable, hused⟩ := wire_of_read h
    exact ⟨hwritable, hwire, hused⟩
  · rintro ⟨hwritable, rfl, rfl⟩
    exact read_wire hwritable rest

theorem read_shortHeader_iff {n : Nat} :
    read bs = .error (.shortHeader n) ↔ bs.length < headerLength ∧ n = bs.length := by
  constructor
  · intro h
    cases read_eq_iff.mp h with
    | shortHeader hlen => exact ⟨hlen, rfl⟩
  · rintro ⟨hlen, rfl⟩
    exact read_eq_iff.mpr (.shortHeader hlen)

/-- Bytes behind a header have the header before them. -/
theorem exists_header {body : Bytes} (h : bs.drop headerLength = body) (hne : body ≠ []) :
    ∃ header, header.length = headerLength ∧ bs = header ++ body := by
  refine ⟨bs.take headerLength, ?_, ?_⟩
  · have hpos := List.length_pos_of_ne_nil hne
    rw [← h, List.length_drop] at hpos
    rw [List.length_take]
    omega
  · rw [← h, List.take_append_drop]

theorem read_openName_iff :
    read bs = .error .openName ↔ headerLength ≤ bs.length ∧ 0 ∉ bs.drop headerLength := by
  constructor
  · intro h
    cases read_eq_iff.mp h with
    | @openName header body hheader hbody =>
      rw [List.drop_left' hheader, List.length_append]
      exact ⟨by omega, hbody⟩
  · rintro ⟨hlen, hbody⟩
    have hheader : (bs.take headerLength).length = headerLength := by
      rw [List.length_take]
      omega
    have hread := read_eq_iff.mpr (.openName hheader hbody)
    rwa [List.take_append_drop] at hread

theorem exists_read_badName_iff :
    (∃ fault, read bs = .error (.badName fault)) ↔
      ∃ name tail, bs.drop headerLength = name ++ 0 :: tail ∧ 0 ∉ name ∧
        ¬ Utf8.WellFormed name := by
  constructor
  · rintro ⟨fault, h⟩
    cases read_eq_iff.mp h with
    | @badName header name tail _ hheader hname hfault =>
      refine ⟨name, tail, List.drop_left' hheader, hname, ?_⟩
      exact Utf8.exists_decode_eq_error_iff.mp ⟨fault, hfault⟩
  · rintro ⟨name, tail, hbody, hname, hbad⟩
    obtain ⟨header, hheader, rfl⟩ := exists_header hbody (by simp)
    obtain ⟨fault, hfault⟩ := Utf8.exists_decode_eq_error_iff.mpr hbad
    exact ⟨fault, read_eq_iff.mpr (.badName hheader hname hfault)⟩

theorem read_shortLine_iff {m : Nat} :
    read bs = .error (.shortLine m) ↔
      ∃ name tail, bs.drop headerLength = name ++ 0 :: tail ∧ 0 ∉ name ∧
        Utf8.WellFormed name ∧ tail.length = m ∧ m < lineLength := by
  constructor
  · intro h
    cases read_eq_iff.mp h with
    | @shortLine header name tail file hheader hname hfile htail =>
      refine ⟨name, tail, List.drop_left' hheader, hname, ?_, rfl, htail⟩
      exact Utf8.exists_decode_eq_ok_iff.mp ⟨file, hfile⟩
  · rintro ⟨name, tail, hbody, hname, hgood, rfl, htail⟩
    obtain ⟨header, hheader, rfl⟩ := exists_header hbody (by simp)
    obtain ⟨file, hfile⟩ := Utf8.exists_decode_eq_ok_iff.mpr hgood
    exact read_eq_iff.mpr (.shortLine hheader hname hfile htail)

end Record

namespace Cursor

theorem read_of_ok {c : Cursor} {x : Record.Reading} (h : Record.read c.rest = .ok x) :
    c.read = (.ok ⟨c.offset, x.record, c.offset + x.used⟩,
      ⟨c.offset + x.used, x.rest, c.failed⟩) := by
  rw [read, h]

/-- A failure comes from a defect of the bytes ahead, and has the place of the cursor. -/
theorem exists_read_of_error {c : Cursor} {e : ReadError} (h : c.read.1 = .error e) :
    ∃ defect, Record.read c.rest = .error defect ∧ e = ⟨c.offset, defect⟩ := by
  cases hread : Record.read c.rest with
  | error defect =>
    rw [read_of_error hread] at h
    exact ⟨defect, rfl, (Except.error.inj h).symm⟩
  | ok x =>
    rw [read_of_ok hread] at h
    exact absurd h (by simp)

theorem read_eq_error_iff {c : Cursor} {defect : Record.Defect} :
    c.read = (.error ⟨c.offset, defect⟩, c) ↔ Record.read c.rest = .error defect := by
  constructor
  · intro h
    obtain ⟨defect', hread, heq⟩ := exists_read_of_error (congrArg Prod.fst h)
    rw [hread, (ReadError.mk.inj heq).2]
  · exact read_of_error

theorem read_ofOffset_of_ok {bs : Bytes} {offset : Nat} {x : Record.Reading}
    (h : Record.read (bs.drop offset) = .ok x) :
    (ofOffset bs offset).read =
      (.ok ⟨offset, x.record, offset + x.used⟩, ofOffset bs (offset + x.used)) := by
  obtain ⟨hwire, -, hused⟩ := Record.wire_of_read h
  have hbehind : bs.drop (offset + x.used) = x.rest := by
    rw [← List.drop_drop, ← hwire, hused, ← Record.length_wire, List.drop_left]
  rw [read_of_ok h, ofOffset, ofOffset, hbehind]

/-- **A cursor at an offset reads a record exactly if it is written there**, and stands behind it
then. -/
theorem read_ofOffset_eq_ok_iff {bs : Bytes} {offset stop : Nat} {r : Record} :
    (ofOffset bs offset).read = (.ok ⟨offset, r, stop⟩, ofOffset bs stop) ↔
      offset ≤ bs.length ∧ '\x00' ∉ r.file.toList ∧
        (∃ w, r.encode = .ok w ∧ w <+: bs.drop offset) ∧ stop = offset + r.length := by
  constructor
  · intro h
    cases hread : Record.read (bs.drop offset) with
    | error defect =>
      rw [read_of_error hread] at h
      exact absurd (Prod.mk.inj h).1 (by simp)
    | ok x =>
      obtain ⟨r', used, rest⟩ := x
      obtain ⟨hwritable, hwire, hused⟩ := Record.read_eq_ok_iff.mp hread
      rw [read_ofOffset_of_ok hread] at h
      obtain ⟨-, rfl, rfl⟩ := Entry.mk.inj (Except.ok.inj (Prod.mk.inj h).1)
      refine ⟨?_, Record.isWritable_iff_nul.mp hwritable, ?_, ?_⟩
      · -- Behind the end there are no bytes, and a record has some.
        by_contra hover
        rw [List.drop_eq_nil_of_le (by omega)] at hwire
        exact wire_append_ne_nil r' rest hwire
      · exact ⟨r'.wire, Record.encode_eq_ok_iff.mpr ⟨hwritable, rfl⟩, rest, hwire⟩
      · rw [hused]
  · rintro ⟨-, -, ⟨w, hw, tail, htail⟩, rfl⟩
    obtain ⟨hwritable, rfl⟩ := Record.encode_eq_ok_iff.mp hw
    exact read_ofOffset_of_ok (Record.read_eq_ok_iff.mpr ⟨hwritable, htail, rfl⟩)

/-- **All that a cursor can read at an offset**, which may lie behind the end.  It reads a record
exactly if one is written there, and stands behind it then.  Else it stays, with the offset in the
error, and each defect comes of its own kind of bytes: bad text is found also where the line number
is cut short.  None of the slices and sums on the way is out of bounds. -/
theorem read_ofOffset (bs : Bytes) (offset : UInt64) (hlen : bs.length < 2 ^ 63) :
    let c := ofOffset bs offset.toNat
    let rest := bs.drop offset.toNat
    let Fails (defect : Record.Defect) := c.read = (.error ⟨offset.toNat, defect⟩, c)
    (∀ r stop, c.read = (.ok ⟨offset.toNat, r, stop⟩, ofOffset bs stop) ↔
      offset.toNat ≤ bs.length ∧ '\x00' ∉ r.file.toList ∧
        (∃ w, r.encode = .ok w ∧ w <+: rest) ∧ stop = offset.toNat + r.length) ∧
    ((∃ r stop, c.read = (.ok ⟨offset.toNat, r, stop⟩, ofOffset bs stop)) ∨
      ∃ defect, Fails defect ∧
        (Failure.corrupt ⟨offset.toNat, defect⟩).offset? = some offset.toNat) ∧
    (∀ n, Fails (.shortHeader n) ↔ rest.length < 24 ∧ n = rest.length) ∧
    (Fails .openName ↔ 24 ≤ rest.length ∧ 0 ∉ rest.drop 24) ∧
    ((∃ fault, Fails (.badName fault)) ↔
      ∃ name tail, rest.drop 24 = name ++ 0 :: tail ∧ 0 ∉ name ∧ ¬ Utf8.WellFormed name) ∧
    (∀ m, Fails (.shortLine m) ↔
      ∃ name tail, rest.drop 24 = name ++ 0 :: tail ∧ 0 ∉ name ∧ Utf8.WellFormed name ∧
        tail.length = m ∧ m < 4) ∧
    readChecked bs offset.toNat = some (c.read.1, c.read.2.offset) := by
  intro c rest Fails
  have hfails (defect : Record.Defect) : Fails defect ↔ Record.read rest = .error defect :=
    read_eq_error_iff (c := c)
  refine ⟨?_, ?_, ?_, ?_, ?_, ?_, readChecked_eq hlen offset.toNat⟩
  · intro r stop
    exact read_ofOffset_eq_ok_iff
  · -- Reading gives a record or a defect, and the cursor adds its place to either.
    cases hread : Record.read rest with
    | error defect => exact .inr ⟨defect, (hfails defect).mpr hread, rfl⟩
    | ok x => exact .inl ⟨x.record, _, read_ofOffset_of_ok hread⟩
  · intro n
    rw [hfails]
    exact Record.read_shortHeader_iff
  · rw [hfails]
    exact Record.read_openName_iff
  · simp only [hfails]
    exact Record.exists_read_badName_iff
  · intro m
    rw [hfails]
    exact Record.read_shortLine_iff

/-- A file name that is no text, with only one byte behind it. -/
theorem read_ofOffset_badText :
    let bs : Bytes := List.replicate 24 1 ++ [0xFF, 0, 7]
    bs.length < 2 ^ 63 ∧
      ∃ fault, (ofOffset bs 0).read = (.error ⟨0, .badName fault⟩, ofOffset bs 0) := by
  have hbad : ¬ Utf8.WellFormed [0xFF] :=
    Utf8.exists_decode_eq_error_iff.mp ⟨.invalid 1 0, by decide +kernel⟩
  intro bs
  refine ⟨by decide, ?_⟩
  obtain ⟨-, -, -, -, hbadName, -⟩ := read_ofOffset bs 0 (by decide)
  exact hbadName.mpr ⟨[0xFF], [7], rfl, by decide, hbad⟩

end Cursor

end PacketLog
